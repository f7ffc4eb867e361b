import Mathlib.Data.List.Infix
import Mish.Data.Assoc

/-!
# A tree of files

A disk is a tree of directories and files, or nothing where its root does not exist.
`look` finds what stands at a path, `put` and `erase` change it. Edits that follow a layout
never meet a file in their way (`Laid.put`).
-/

namespace FileSystem

variable {γ : Type}

inductive Node (γ : Type) where
  | file (contents : γ)
  | directory (entries : List (String × Node γ))

abbrev Path := List String

abbrev Disk (γ : Type) := Option (Node γ)

def Node.isDirectory : Node γ → Bool
  | .file _ => false
  | .directory _ => true

def child (d : Disk γ) (name : String) : Disk γ :=
  match d with
  | some (.directory entries) => entries.lookup name
  | _ => none

def look (d : Disk γ) (path : Path) : Disk γ := path.foldl child d

@[simp] theorem look_nil (d : Disk γ) : look d [] = d := rfl

theorem look_cons (d : Disk γ) (name : String) (path : Path) :
    look d (name :: path) = look (child d name) path := rfl

theorem look_append (d : Disk γ) (p q : Path) : look d (p ++ q) = look (look d p) q :=
  List.foldl_append ..

@[simp] theorem child_none (name : String) : child (none : Disk γ) name = none := rfl

@[simp] theorem look_none (path : Path) : look (none : Disk γ) path = none := by
  induction path with
  | nil => rfl
  | cons name path ih => exact ih

/-- The entries a directory at this place has, or would start with. -/
def entriesOf : Disk γ → Option (List (String × Node γ))
  | none => some []
  | some (.directory entries) => some entries
  | some (.file _) => none

variable {d : Disk γ} {new result : Node γ} {p q : Path} {layout : Path → Bool}

theorem lookup_entriesOf {entries}
    (has : entriesOf d = some entries) (name : String) : entries.lookup name = child d name := by
  cases d with
  | none => cases has; rfl
  | some node =>
    cases node with
    | file contents => cases has
    | directory entries => cases has; rfl

/-! ## Edits -/

/-- A node put at a path, under new directories where there are none. There is no result
where a file stands in the way. -/
def put : Path → Node γ → Disk γ → Option (Node γ)
  | [], new, _ => some new
  | name :: path, new, d => do
    let entries ← entriesOf d
    let node ← put path new (entries.lookup name)
    return .directory (Assoc.insert name node entries)

/-- The disk without what stands at a path. -/
def erase : Path → Disk γ → Disk γ
  | [], _ => none
  | name :: path, some (.directory entries) =>
    match erase path (entries.lookup name) with
    | none => some (.directory (Assoc.remove name entries))
    | some node => some (.directory (Assoc.insert name node entries))
  | _ :: _, d => d

theorem put_cons {name} {path : Path} (done : put (name :: path) new d = some result) :
    result.isDirectory = true ∧ put path new (child d name) = child (some result) name ∧
    (∃ node, child (some result) name = some node) ∧ ∀ other, other ≠ name →
    child (some result) other = child d other := by
  unfold put at done
  cases has : entriesOf d with
  | none => simp [has] at done
  | some entries =>
    cases made : put path new (entries.lookup name) with
    | none => simp [has, made] at done
    | some node =>
      simp only [has, made, Option.bind_eq_bind, Option.bind_some] at done
      cases done
      have found : child (some (.directory (Assoc.insert name node entries))) name = some node := by
        simp [child, Assoc.lookup_insert]
      refine ⟨rfl, ?_, ⟨node, found⟩, ?_⟩
      · rw [← lookup_entriesOf has, made, found]
      · intro other differs
        rw [← lookup_entriesOf has]
        simp [child, Assoc.lookup_insert, differs]

@[simp] theorem erase_none (path : Path) : erase path (none : Disk γ) = none := by
  cases path <;> rfl

theorem child_erase (name : String) (path : Path) (d : Disk γ) (other : String) :
    child (erase (name :: path) d) other =
    if other = name then erase path (child d name) else child d other := by
  cases d with
  | none => simp [erase]
  | some node =>
    cases node with
    | file contents => simp [erase, child]
    | directory entries =>
      cases made : erase path (entries.lookup name) with
      | none => simp [erase, made, child, Assoc.lookup_remove]
      | some node => simp [erase, made, child, Assoc.lookup_insert]

theorem erase_directory (name : String) (path : Path) (entries : List (String × Node γ)) :
    ∃ entries', erase (name :: path) (some (.directory entries)) = some (.directory entries') := by
  unfold erase
  split <;> exact ⟨_, rfl⟩

/-- An edit below `q` edits the subtree at `q`. -/
theorem put_within (done : put (q ++ p) new d = some result) :
    put p new (look d q) = look (some result) q := by
  induction q generalizing d result with
  | nil => exact done
  | cons name q ih =>
    obtain ⟨-, inner, ⟨node, found⟩, -⟩ := put_cons done
    rw [look_cons, look_cons, found]
    exact ih (inner.trans found)

theorem look_put_self (done : put p new d = some result) : look (some result) p = some new := by
  have inner := put_within (q := p) (p := []) (by rwa [List.append_nil])
  exact inner.symm

theorem look_erase_within (q : Path) (name : String) (p : Path) (d : Disk γ) :
    look (erase (q ++ name :: p) d) q = erase (name :: p) (look d q) := by
  induction q generalizing d with
  | nil => rfl
  | cons n q ih => rw [List.cons_append, look_cons, child_erase, if_pos rfl, ih, look_cons]

theorem look_erase_self (p : Path) (d : Disk γ) : look (erase p d) p = none := by
  induction p generalizing d with
  | nil => rfl
  | cons name p ih => rw [look_cons, child_erase, if_pos rfl, ih]

/-- Neither of the two stands below the other. -/
def Apart (p q : Path) : Prop := ¬ p <+: q ∧ ¬ q <+: p

instance (p q : Path) : Decidable (Apart p q) := inferInstanceAs (Decidable (_ ∧ _))

theorem apart_cons {n m} : Apart (n :: p) (m :: q) ↔ n = m → Apart p q := by
  unfold Apart
  by_cases same : n = m
  · subst same
    simp [List.cons_prefix_cons]
  · simp [List.cons_prefix_cons, same, Ne.symm same]

@[simp] theorem not_apart_nil_left (q : Path) : ¬ Apart [] q := fun h => h.1 q.nil_prefix

@[simp] theorem not_apart_nil_right : ¬ Apart p [] := fun h => h.2 p.nil_prefix

theorem Apart.below (h : Apart p q) (r : Path) : Apart (p ++ r) q := by
  refine ⟨fun within => h.1 ((List.prefix_append p r).trans within), fun within => ?_⟩
  rcases List.prefix_or_prefix_of_prefix within (List.prefix_append p r) with first | second
  · exact h.2 first
  · exact h.1 second

theorem apart_append_left {r} : Apart (p ++ q) (p ++ r) ↔ Apart q r := by
  unfold Apart
  rw [List.prefix_append_right_inj, List.prefix_append_right_inj]

theorem look_put_apart (done : put p new d = some result) (apart : Apart p q) :
    look (some result) q = look d q := by
  induction p generalizing d q result with
  | nil => exact absurd apart (not_apart_nil_left q)
  | cons name p ih =>
    cases q with
    | nil => exact absurd apart not_apart_nil_right
    | cons other q =>
      obtain ⟨-, inner, ⟨node, found⟩, rest⟩ := put_cons done
      rw [apart_cons] at apart
      rw [look_cons, look_cons]
      by_cases same : other = name
      · subst same
        rw [found]
        exact ih (inner.trans found) (apart rfl)
      · rw [rest other same]

theorem look_erase_apart (d : Disk γ) (apart : Apart p q) : look (erase p d) q = look d q := by
  induction p generalizing d q with
  | nil => exact absurd apart (not_apart_nil_left q)
  | cons name p ih =>
    cases q with
    | nil => exact absurd apart not_apart_nil_right
    | cons other q =>
      rw [apart_cons] at apart
      rw [look_cons, look_cons, child_erase]
      by_cases same : other = name
      · subst same
        rw [if_pos rfl]
        exact ih _ (apart rfl)
      · rw [if_neg same]

/-! ## Layouts -/

/-- Nodes are directories where the layout is true, and files elsewhere. -/
def Laid (layout : Path → Bool) (d : Disk γ) : Prop :=
  ∀ path node, look d path = some node → node.isDirectory = layout path

/-- The layout has directories at every place above the path. -/
def above (layout : Path → Bool) : Path → Bool
  | [] => true
  | name :: path => layout [] && above (fun q => layout (name :: q)) path

theorem above_append (layout : Path → Bool) (p q : Path) :
    above layout (p ++ q) = (above layout p && above (fun r => layout (p ++ r)) q) := by
  induction p generalizing layout with
  | nil => rfl
  | cons name p ih => simp only [List.cons_append, above, ih, Bool.and_assoc]

theorem laid_none : Laid layout (none : Disk γ) := by
  intro path node found
  rw [look_none] at found
  cases found

theorem Laid.child (laid : Laid layout d) (name : String) :
    Laid (fun q => layout (name :: q)) (child d name) :=
  fun path node found => laid (name :: path) node found

theorem laid_of_children {node : Node γ} (here : node.isDirectory = layout [])
    (below : ∀ name, Laid (fun q => layout (name :: q)) (FileSystem.child (some node) name)) :
    Laid layout (some node) := by
  intro path inner found
  cases path with
  | nil => cases found; exact here
  | cons name path => exact below name path inner found

theorem laid_file (contents : γ) (here : layout [] = false) :
    Laid layout (some (Node.file contents)) := by
  refine laid_of_children ?_ fun name => laid_none
  rw [here]
  rfl

theorem laid_empty (here : layout [] = true) :
    Laid layout (some (Node.directory ([] : List (String × Node γ)))) := by
  refine laid_of_children ?_ fun name => laid_none
  rw [here]
  rfl

theorem Laid.look (laid : Laid layout d) (p : Path) :
    Laid (fun q => layout (p ++ q)) (look d p) := by
  intro path node found
  exact laid (p ++ path) node ((look_append d p path).trans found)

theorem Laid.put (laid : Laid layout d) (clear : above layout p = true)
    (fits : Laid (fun q => layout (p ++ q)) (some new)) :
    ∃ result, put p new d = some result ∧ Laid layout (some result) := by
  induction p generalizing layout d with
  | nil => exact ⟨new, rfl, fits⟩
  | cons name p ih =>
    obtain ⟨root, clear⟩ := Bool.and_eq_true_iff.1 clear
    have open_ : ∃ entries, entriesOf d = some entries := by
      cases d with
      | none => exact ⟨[], rfl⟩
      | some node =>
        cases node with
        | directory entries => exact ⟨entries, rfl⟩
        | file contents =>
          have closed := laid [] _ rfl
          rw [root] at closed
          cases closed
    obtain ⟨entries, has⟩ := open_
    obtain ⟨inner, made, good⟩ := ih (laid.child name) clear fits
    have done : FileSystem.put (name :: p) new d =
        some (.directory (Assoc.insert name inner entries)) := by
      simp [FileSystem.put, has, lookup_entriesOf has, made]
    refine ⟨_, done, laid_of_children root.symm fun other => ?_⟩
    obtain ⟨-, at_, -, rest⟩ := put_cons done
    by_cases same : other = name
    · subst same
      rw [← at_, made]
      exact good
    · rw [rest other same]
      exact laid.child other

theorem Laid.erase (laid : Laid layout d) (p : Path) : Laid layout (erase p d) := by
  induction p generalizing layout d with
  | nil => exact laid_none
  | cons name p ih =>
    cases d with
    | none => exact laid
    | some node =>
      cases node with
      | file contents => exact laid
      | directory entries =>
        obtain ⟨entries', shape⟩ := erase_directory name p entries
        have root : layout [] = true := (laid [] _ rfl).symm
        rw [shape]
        refine laid_of_children root.symm fun other => ?_
        rw [← shape, child_erase]
        split
        · rename_i same
          subst same
          exact ih (laid.child other)
        · exact laid.child other

/-! ## Calls -/

def IsDir (d : Disk γ) (path : Path) : Prop := ∃ entries, look d path = some (.directory entries)

instance (d : Disk γ) (path : Path) : Decidable (IsDir d path) :=
  match found : look d path with
  | some (.directory entries) => .isTrue ⟨entries, found⟩
  | some (.file _) => .isFalse fun h => by obtain ⟨entries, h⟩ := h; rw [h] at found; cases found
  | none => .isFalse fun h => by obtain ⟨entries, h⟩ := h; rw [h] at found; cases found

/-- The parent of what exists is a directory. -/
theorem isDir_of_look {path name node}
    (found : look d (path ++ [name]) = some node) : IsDir d path := by
  rw [look_append, look_cons, look_nil] at found
  unfold IsDir
  cases here : look d path with
  | none => rw [here] at found; cases found
  | some parent =>
    rw [here] at found
    cases parent with
    | file contents => cases found
    | directory entries => exact ⟨entries, rfl⟩

/-- What a program asks of its disk. -/
inductive Call (γ : Type) where
  | createPrivateDir (path : Path)
  | write (destination : Path) (contents : γ)
  | rename (source target : Path)
  | syncDirectory (path : Path)
  | removeDirAll (path : Path)

/-- The disk after a call, if the call is possible. A rename onto something that exists
counts as impossible. -/
def Call.effect : Call γ → Disk γ → Option (Disk γ)
  | .createPrivateDir path, d =>
    match look d path with
    | none => (put path (.directory []) d).map some
    | some (.directory _) => some d
    | some (.file _) => none
  | .write destination contents, d =>
    match look d destination with
    | some (.directory _) => none
    | _ => (put destination (.file contents) d).map some
  | .rename source target, d =>
    match look d source with
    | none => none
    | some node =>
      if (look d target).isSome ∨ ¬ IsDir (erase source d) target.dropLast then none
      else (put target node (erase source d)).map some
  | .syncDirectory path, d => if IsDir d path then some d else none
  | .removeDirAll path, d => if IsDir d path then some (erase path d) else none

/-- The disks agree at every path apart from the base, and directories above it stay. -/
structure Outside (base : Path) (d t : Disk γ) : Prop where
  same : ∀ q, Apart base q → look t q = look d q
  stays : ∀ q name r, base = q ++ name :: r → IsDir d q → IsDir t q

theorem Outside.refl (base : Path) (d : Disk γ) : Outside base d d :=
  ⟨fun _ _ => rfl, fun _ _ _ _ dir => dir⟩

theorem Outside.trans {base t u} (first : Outside base d t)
    (second : Outside base t u) : Outside base d u :=
  ⟨fun q apart => (second.same q apart).trans (first.same q apart),
    fun q name r is dir => second.stays q name r is (first.stays q name r is dir)⟩

theorem Outside.above {base t} (h : Outside (base ++ p) d t) : Outside base d t := by
  refine ⟨fun q apart => h.same q (apart.below p), ?_⟩
  rintro q name r rfl dir
  exact h.stays q name (r ++ p) (by simp) dir

theorem outside_put (done : put p new d = some result) : Outside p d (some result) := by
  refine ⟨fun q apart => look_put_apart done apart, ?_⟩
  rintro q name r rfl -
  have inner := put_within done
  cases found : look (some result) q with
  | none =>
    have lost := look_put_self done
    rw [look_append, found, look_none] at lost
    cases lost
  | some node =>
    rw [found] at inner
    cases node with
    | directory entries => exact ⟨entries, found⟩
    | file contents => exact absurd (put_cons inner).1 (by simp [Node.isDirectory])

section Effects

variable {layout : Path → Bool} {d : Disk γ}
  {path : Path}

theorem effect_createPrivateDir (laid : Laid layout d)
    (clear : above layout path = true) (here : layout path = true) :
    ∃ t, (Call.createPrivateDir path).effect d = some t ∧ Outside path d t ∧ Laid layout t ∧
    IsDir t path ∧ ∀ name q, look t (path ++ name :: q) = look d (path ++ name :: q) := by
  cases found : look d path with
  | none =>
    have fits : Laid (fun q => layout (path ++ q))
        (some (Node.directory ([] : List (String × Node γ)))) := laid_empty (by simpa using here)
    obtain ⟨result, made, good⟩ := laid.put clear fits
    refine ⟨some result, by simp [Call.effect, found, made], ?_, good, ?_, ?_⟩
    · exact outside_put made
    · exact ⟨[], look_put_self made⟩
    · intro name q
      rw [look_append, look_append, look_put_self made, found, look_none]
      exact look_none q
  | some node =>
    cases node with
    | file contents =>
      have closed := laid path _ found
      rw [here] at closed
      cases closed
    | directory entries =>
      exact ⟨d, by simp [Call.effect, found], .refl _ _, laid, ⟨entries, found⟩, fun _ _ => rfl⟩

theorem effect_write (contents : γ) (laid : Laid layout d) (clear : above layout path = true)
    (here : layout path = false) : ∃ t, (Call.write path contents).effect d = some t ∧
    Outside path d t ∧ Laid layout t ∧ look t path = some (.file contents) := by
  have fits : Laid (fun q => layout (path ++ q)) (some (Node.file contents)) :=
    laid_file contents (by simpa using here)
  obtain ⟨result, made, good⟩ := laid.put clear fits
  refine ⟨some result, ?_, outside_put made, good, look_put_self made⟩
  cases found : look d path with
  | none => simp [Call.effect, found, made]
  | some node =>
    cases node with
    | file old => simp [Call.effect, found, made]
    | directory entries =>
      have open_ := laid path _ found
      rw [here] at open_
      cases open_

theorem effect_syncDirectory (dir : IsDir d path) :
    (Call.syncDirectory path).effect d = some d := by
  simp [Call.effect, dir]

theorem isDir_erase {name} {below : Path} (dir : IsDir d path) :
    IsDir (erase (path ++ name :: below) d) path := by
  obtain ⟨entries, found⟩ := dir
  unfold IsDir
  rw [look_erase_within, found]
  exact erase_directory name below entries

theorem outside_erase (path : Path) (d : Disk γ) : Outside path d (erase path d) := by
  refine ⟨fun _ apart => look_erase_apart d apart, ?_⟩
  rintro q name r rfl dir
  exact isDir_erase dir

theorem effect_removeDirAll (laid : Laid layout d) (dir : IsDir d path) :
    ∃ t, (Call.removeDirAll path).effect d = some t ∧ Outside path d t ∧ Laid layout t ∧
    look t path = none :=
  ⟨erase path d, by simp [Call.effect, dir], outside_erase path d, laid.erase path,
    look_erase_self path d⟩

/-- A rename between two names of one directory. -/
theorem effect_rename {dir : Path} {source target node} (laid : Laid layout d)
    (clear : above layout (dir ++ [target]) = true)
    (alike : ∀ q, layout (dir ++ source :: q) = layout (dir ++ target :: q))
    (found : look d (dir ++ [source]) = some node) (free : look d (dir ++ [target]) = none) :
    ∃ t, (Call.rename (dir ++ [source]) (dir ++ [target])).effect d = some t ∧
    Laid layout t ∧ look t (dir ++ [target]) = some node ∧ look t (dir ++ [source]) = none ∧
    ∀ q, Apart (dir ++ [source]) q → Apart (dir ++ [target]) q → look t q = look d q := by
  have differ : target ≠ source := by
    rintro rfl
    rw [found] at free
    cases free
  have parent : IsDir (erase (dir ++ [source]) d) dir := isDir_erase (isDir_of_look found)
  have fits : Laid (fun q => layout (dir ++ [target] ++ q)) (some node) := by
    have moved := laid.look (dir ++ [source])
    rw [found] at moved
    intro q inner at_
    have same := moved q inner at_
    simpa [alike] using same
  obtain ⟨result, made, good⟩ := (laid.erase (dir ++ [source])).put clear fits
  refine ⟨some result, ?_, good, look_put_self made, ?_, ?_⟩
  · simp [Call.effect, found, free, parent, made]
  · rw [look_put_apart made, look_erase_self]
    rw [apart_append_left, apart_cons]
    exact fun same => absurd same differ
  · intro q fromSource fromTarget
    rw [look_put_apart made fromTarget, look_erase_apart d fromSource]

end Effects

/-- The call may change what stands at the path. -/
def Call.Reaches (path : Path) : Call γ → Prop
  | .createPrivateDir made => path <+: made
  | .write destination _ => path <+: destination
  | .rename source target => ¬ Apart source path ∨ ¬ Apart target path
  | .syncDirectory _ => False
  | .removeDirAll removed => ¬ Apart removed path

/-- A node without entries, put where none of its entries can be lost. -/
theorem look_put_leaf (done : put p new d = some result) (free : ¬ q <+: p)
    (leaf : ∀ name, child (some new) name = none) (lost : ∀ name, child (look d p) name = none) :
    look (some result) q = look d q := by
  by_cases below : p <+: q
  · obtain ⟨r, rfl⟩ := below
    cases r with
    | nil => simp at free
    | cons name r =>
      rw [look_append, look_append, look_put_self done, look_cons, look_cons, leaf, lost]
  · exact look_put_apart done ⟨below, free⟩

theorem look_effect {call : Call γ} {t} (done : call.effect d = some t)
    (free : ¬ call.Reaches q) : look t q = look d q := by
  cases call with
  | createPrivateDir path =>
    simp only [Call.effect] at done
    split at done
    · rename_i absent
      obtain ⟨result, made, rfl⟩ := Option.map_eq_some_iff.1 done
      refine look_put_leaf made free (fun _ => rfl) fun name => ?_
      rw [absent, child_none]
    · cases done
      rfl
    · cases done
  | write destination contents =>
    simp only [Call.effect] at done
    split at done
    · cases done
    · rename_i plain
      obtain ⟨result, made, rfl⟩ := Option.map_eq_some_iff.1 done
      refine look_put_leaf made free (fun _ => rfl) fun name => ?_
      cases found : look d destination with
      | none => rfl
      | some node =>
        cases node with
        | file => rfl
        | directory entries => exact absurd found (plain entries)
  | rename source target =>
    obtain ⟨fromSource, fromTarget⟩ := not_or.1 free
    simp only [Call.effect] at done
    split at done
    · cases done
    · split at done
      · cases done
      · obtain ⟨result, made, rfl⟩ := Option.map_eq_some_iff.1 done
        rw [look_put_apart made (not_not.1 fromTarget), look_erase_apart d (not_not.1 fromSource)]
  | syncDirectory path =>
    simp only [Call.effect] at done
    split at done <;> cases done
    rfl
  | removeDirAll path =>
    simp only [Call.effect] at done
    split at done <;> cases done
    exact look_erase_apart d (not_not.1 free)

end FileSystem
