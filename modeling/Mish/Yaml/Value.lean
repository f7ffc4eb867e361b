import Mathlib.Logic.Function.Basic
import Mish.Data.Assoc

/-!
# YAML documents

Parsed documents, with the operations on mappings that programs use. A mapping is
the list of its entries in order; `Value.denote` forgets the order, at every depth,
so that two documents that differ in it only have one denotation.
-/

namespace Yaml

/-! ## Edits at distinct keys -/

section Edits

variable {ι K V : Type} [DecidableEq K] {edits : List ι} {at_ : ι → K}

/-- The first edit of key `k`, on what stands at `k`. -/
def editAt (edits : List ι) (at_ : ι → K) (edit : ι → V → V) (k : K) (v : V) : V :=
  match edits.find? (at_ · = k) with
  | some i => edit i v
  | none => v

/-- Edits at distinct keys, made one after another, are made all at once. -/
theorem foldl_edit_apply (edit : ι → V → V) (distinct : (edits.map at_).Nodup) {f k} :
    edits.foldl (fun f i => Function.update f (at_ i) (edit i (f (at_ i)))) f k =
    editAt edits at_ edit k (f k) := by
  induction edits generalizing f with
  | nil => rfl
  | cons i rest ih =>
    rw [List.map_cons, List.nodup_cons] at distinct
    rw [List.foldl_cons, ih distinct.2]
    unfold editAt
    by_cases here : at_ i = k
    · subst here
      have later : rest.find? (at_ · = at_ i) = none := by
        rw [List.find?_eq_none]
        intro j mem same
        exact distinct.1 (List.mem_map.2 ⟨j, mem, by simpa using same⟩)
      simp [later]
    · rw [Function.update_of_ne (Ne.symm here), List.find?_cons_of_neg (by simpa using here)]

/-- What holds of each edit holds of the edit at a key. -/
theorem editAt_congr {W : Type} {edit edit'} {g : V → W} {k}
    (same : ∀ i ∈ edits, ∀ v, g (edit i v) = edit' i (g v))
    (v : V) : g (editAt edits at_ edit k v) = editAt edits at_ edit' k (g v) := by
  unfold editAt
  cases found : edits.find? (at_ · = k) with
  | none => rfl
  | some i => exact same i (List.mem_of_find?_eq_some found) v

theorem editAt_comp (first second : ι → V → V) (k : K) (v : V) :
    editAt edits at_ second k (editAt edits at_ first k v) =
    editAt edits at_ (fun i => second i ∘ first i) k v := by
  unfold editAt
  cases edits.find? (at_ · = k) <;> rfl

end Edits

/-- A key. `other` stands for a key that is no string, by its text. -/
inductive Key where
  | string (text : String)
  | other (text : String)
  | tagged (tag : String) (key : Key)
  deriving DecidableEq

def Key.asStr : Key → Option String
  | .string text => some text
  | .other _ => none
  | .tagged _ key => key.asStr

inductive Value where
  | null
  | bool (value : Bool)
  | number (value : Int)
  | float (text : String)
  | string (text : String)
  | sequence (items : List Value)
  | mapping (entries : List (Key × Value))
  | tagged (tag : String) (value : Value)

abbrev Mapping := List (Key × Value)

namespace Mapping

def get (m : Mapping) (key : Key) : Option Value := List.lookup key m

/-- An entry that exists keeps its place. -/
def insert (key : Key) (value : Value) (m : Mapping) : Mapping := Assoc.insert key value m

/-- The entries that stay keep their order. The library's `remove` moves the last entry
into the gap instead, which a denotation does not see. -/
def remove (key : Key) (m : Mapping) : Mapping := Assoc.remove key m

theorem get_cons (k key : Key) (v : Value) (rest : Mapping) :
    get ((k, v) :: rest) key = if key = k then some v else get rest key :=
  Assoc.lookup_cons k key v rest

theorem get_insert (m : Mapping) (k key : Key) (v : Value) :
    (m.insert k v).get key = if key = k then some v else m.get key :=
  Assoc.lookup_insert m k key v

theorem get_remove (m : Mapping) (k key : Key) :
    (m.remove k).get key = if key = k then none else m.get key :=
  Assoc.lookup_remove m k key

end Mapping

namespace Value

/-! ## Reading -/

/-- The mapping, under any tags. -/
def asMapping : Value → Option Mapping
  | .mapping entries => some entries
  | .tagged _ value => value.asMapping
  | _ => none

def asSequence : Value → Option (List Value)
  | .sequence items => some items
  | .tagged _ value => value.asSequence
  | _ => none

def asStr : Value → Option String
  | .string text => some text
  | .tagged _ value => value.asStr
  | _ => none

def isMapping (value : Value) : Bool := value.asMapping.isSome

def isSequence (value : Value) : Bool := value.asSequence.isSome

/-- A change made through `as_mapping_mut`: a value that is no mapping stays. -/
def modifyMapping (change : Mapping → Mapping) : Value → Value
  | .mapping entries => .mapping (change entries)
  | .tagged tag value => .tagged tag (value.modifyMapping change)
  | value => value

@[simp] theorem asMapping_modifyMapping (change : Mapping → Mapping) (value : Value) :
    (value.modifyMapping change).asMapping = value.asMapping.map change := by
  induction value using modifyMapping.induct with
  | case1 entries => rfl
  | case2 tag value ih => exact ih
  | case3 value plain untagged =>
    cases value <;> first | rfl | exact (plain _ rfl).elim | exact (untagged _ _ rfl).elim

@[simp] theorem isMapping_modifyMapping (change : Mapping → Mapping) (value : Value) :
    (value.modifyMapping change).isMapping = value.isMapping := by
  simp [isMapping]

end Value

/-! ## Documents without an order of keys -/

inductive Meaning where
  | null
  | bool (value : Bool)
  | number (value : Int)
  | float (text : String)
  | string (text : String)
  | sequence (items : List Meaning)
  | mapping (entries : Key → Option Meaning)
  | tagged (tag : String) (value : Meaning)

/-- What a mapping denotes. -/
abbrev Fields := Key → Option Meaning

mutual

def Value.denote : Value → Meaning
  | .null => .null
  | .bool value => .bool value
  | .number value => .number value
  | .float text => .float text
  | .string text => .string text
  | .sequence items => .sequence (denoteItems items)
  | .mapping entries => .mapping (denoteEntries entries)
  | .tagged tag value => .tagged tag value.denote

def denoteItems : List Value → List Meaning
  | [] => []
  | value :: rest => value.denote :: denoteItems rest

def denoteEntries : List (Key × Value) → Key → Option Meaning
  | [], _ => none
  | (k, value) :: rest, key => if key = k then some value.denote else denoteEntries rest key

end

theorem denoteEntries_apply (m : Mapping) (key : Key) :
    denoteEntries m key = (m.get key).map Value.denote := by
  induction m with
  | nil => rfl
  | cons entry rest ih =>
    rw [Mapping.get_cons, denoteEntries, ih]
    split <;> rfl

/-- A change of the mapping under any tags. -/
def Meaning.modify (change : Fields → Fields) : Meaning → Meaning
  | .mapping entries => .mapping (change entries)
  | .tagged tag value => .tagged tag (value.modify change)
  | value => value

theorem Meaning.modify_modify (first second : Fields → Fields) (d : Meaning) :
    (d.modify first).modify second = d.modify (second ∘ first) := by
  induction d using Meaning.modify.induct with
  | case1 entries => rfl
  | case2 tag value ih => exact congrArg (Meaning.tagged tag) ih
  | case3 value plain untagged =>
    cases value <;> first | rfl | exact (plain _ rfl).elim | exact (untagged _ _ rfl).elim

theorem Value.denote_modifyMapping {change change'}
    (same : ∀ m, denoteEntries (change m) = change' (denoteEntries m)) (value : Value) :
    (value.modifyMapping change).denote = value.denote.modify change' := by
  induction value using Value.modifyMapping.induct with
  | case1 entries => simp [modifyMapping, denote, Meaning.modify, same]
  | case2 tag value ih => simp [modifyMapping, denote, Meaning.modify, ih]
  | case3 value plain untagged =>
    cases value <;> first | exact (plain _ rfl).elim | exact (untagged _ _ rfl).elim |
      simp [modifyMapping, denote, Meaning.modify]

theorem denoteEntries_insert (m : Mapping) {key} (value : Value) :
    denoteEntries (m.insert key value) =
    Function.update (denoteEntries m) key (some value.denote) := by
  funext k
  simp only [denoteEntries_apply, Mapping.get_insert, Function.update_apply]
  split <;> rfl

theorem denoteEntries_remove (m : Mapping) {key} :
    denoteEntries (m.remove key) = Function.update (denoteEntries m) key none := by
  funext k
  simp only [denoteEntries_apply, Mapping.get_remove, Function.update_apply]
  split <;> rfl

end Yaml
