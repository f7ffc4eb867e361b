import Mathlib.Algebra.Group.Nat.Defs
import Mathlib.Data.List.Forall2
import Mathlib.Data.List.Perm.Basic
import Mish.Profile.PatchCatalog

/-!
# What applying patches does to a document

Rules and groups are rebuilt from the catalog, which knows string rules and named groups
only. So the code meets the reference exactly if nothing else is there to be rebuilt
(`reference_iff`).
-/

namespace Mish.Profile
open Yaml Option List

/-! ## The reference -/

def enabledPatches (patches : List ProfilePatch) : List ProfilePatch :=
  patches.filter ProfilePatch.enabled

/-- The rule that a patch disables or deletes. -/
def excludedRule (patch : ProfilePatch) : Option String :=
  match patch.operation with
  | .ruleDisable ruleId | .ruleDelete ruleId => some ruleId
  | _ => none

/-- The rule that a patch inserts at a position. -/
def insertedRule (catalog : PatchCatalog) (position : RuleInsertPosition) (patch : ProfilePatch) :
    Option Value :=
  match patch.operation with
  | .ruleInsert at_ rule =>
    if at_ = position then (serializeRule rule catalog).toOption.map .string else none
  | _ => none

def IsRulePatch (patch : ProfilePatch) : Prop :=
  match patch.operation with
  | .ruleInsert .. | .ruleDisable _ | .ruleDelete _ => True
  | _ => False

/-- A rule entry has one of the ids. -/
def targeted (sha256 : String → String) (ids : List String) (entry : Value × Nat) : Bool :=
  entry.1.asStr.any fun line => ruleId sha256 line entry.2 ∈ ids

def untargetedRules (sha256 : String → String) (ids : List String) (root : Mapping) : List Value :=
  ((ruleValues root).zipIdx.filter fun entry => !targeted sha256 ids entry).map Prod.fst

/-- The members that a patch gives to a group. -/
def newMembers (sha256 : String → String) (catalog : PatchCatalog) (group : Value)
    (patch : ProfilePatch) : Option (List Value) :=
  match patch.operation with
  | .groupMembers groupId memberIds =>
    if groupIdOf sha256 group = some groupId then (memberLabels memberIds catalog).toOption
    else none
  | _ => none

def patchedGroup (sha256 : String → String) (catalog : PatchCatalog)
    (patches : List ProfilePatch) (group : Value) : Value :=
  (patches.filterMap (newMembers sha256 catalog group)).foldl
    (fun group members => withMembers members group) group

def addedGroupOf (catalog : PatchCatalog) (patch : ProfilePatch) : Option Value :=
  match patch.operation with
  | .groupAdd label memberIds => (memberLabels memberIds catalog).toOption.map (addedGroup label)
  | _ => none

def reorderOf (patch : ProfilePatch) : Option (List String) :=
  match patch.operation with
  | .groupReorder ids => some ids
  | _ => none

/-- An accepted set holds at most one reorder. -/
def requestedOrder (patches : List ProfilePatch) : Option (List String) :=
  ((enabledPatches patches).filterMap reorderOf).getLast?

structure Reference (sha256 : String → String) (catalog : PatchCatalog)
    (patches : List ProfilePatch) (root after : Mapping) : Prop where
  rules : ruleValues after =
    (enabledPatches patches).filterMap (insertedRule catalog .prefix_) ++
      untargetedRules sha256 ((enabledPatches patches).filterMap excludedRule) root ++
      (enabledPatches patches).filterMap (insertedRule catalog .suffix)
  groups : ∃ arranged,
    groupValues after = arranged ++ (enabledPatches patches).filterMap (addedGroupOf catalog) ∧
    arranged.Perm ((groupValues root).map (patchedGroup sha256 catalog (enabledPatches patches))) ∧
    match requestedOrder patches with
    | some ids => arranged.filterMap (groupIdOf sha256) = ids
    | none => arranged =
        (groupValues root).map (patchedGroup sha256 catalog (enabledPatches patches))
  others : ∀ key, key ≠ .string "rules" → key ≠ .string "proxy-groups" →
    after.get key = root.get key

/-! ## Rules -/

theorem filterMap_cons_toList {α β : Type} (f : α → Option β) (a : α) (rest : List α) :
    (a :: rest).filterMap f = (f a).toList ++ rest.filterMap f := by
  rw [filterMap_cons]
  cases f a <;> rfl

variable {patches : List ProfilePatch}

section Rules

variable {sha256 : String → String} {catalog : PatchCatalog} {root between : Mapping}
  {edits' edits : RuleEdits}

theorem collectRuleEdit_ok {patch} (collected : collectRuleEdit catalog edits patch = .ok edits') :
    edits'.excluded = edits.excluded ++ (excludedRule patch).toList ∧ edits'.prefix_ =
    edits.prefix_ ++ (insertedRule catalog .prefix_ patch).toList ∧ edits'.suffix =
    edits.suffix ++ (insertedRule catalog .suffix patch).toList ∧ (IsRulePatch patch ↔
    (excludedRule patch).isSome ∨ (insertedRule catalog .prefix_ patch).isSome ∨
    (insertedRule catalog .suffix patch).isSome) := by
  obtain ⟨enabled, id, operation⟩ := patch
  cases operation with
  | ruleInsert position rule =>
    obtain ⟨line, serialized, collected⟩ := bind_ok collected
    cases position <;> cases collected <;>
      simp [excludedRule, insertedRule, IsRulePatch, serialized, Except.toOption]
  | ruleDisable ruleId | ruleDelete ruleId | groupAdd | groupMembers | groupReorder =>
    cases collected
    simp [excludedRule, insertedRule, IsRulePatch]

theorem collectRuleEdits_ok
    (collected : patches.foldlM (collectRuleEdit catalog) edits = .ok edits') :
    edits'.excluded = edits.excluded ++ patches.filterMap excludedRule ∧
    edits'.prefix_ = edits.prefix_ ++ patches.filterMap (insertedRule catalog .prefix_) ∧
    edits'.suffix = edits.suffix ++ patches.filterMap (insertedRule catalog .suffix) ∧
    ∀ patch ∈ patches, (IsRulePatch patch ↔ (excludedRule patch).isSome ∨
    (insertedRule catalog .prefix_ patch).isSome ∨
    (insertedRule catalog .suffix patch).isSome) := by
  induction patches generalizing edits with
  | nil =>
    cases collected
    simp
  | cons patch rest ih =>
    obtain ⟨between, first, collected⟩ := bind_ok collected
    obtain ⟨excluded, prefix_, suffix, isRule⟩ := collectRuleEdit_ok first
    obtain ⟨excluded', prefix', suffix', isRule'⟩ := ih collected
    simp only [filterMap_cons_toList, ← append_assoc]
    refine ⟨?_, ?_, ?_, ?_⟩
    · rw [excluded', excluded]
    · rw [prefix', prefix_]
    · rw [suffix', suffix]
    · simpa using ⟨isRule, isRule'⟩

/-- The rules that the catalog keeps, as entries. -/
theorem kept_eq (built : buildCatalog sha256 root = .ok catalog) (ids : List String) :
    (catalog.rules.filter fun rule => rule.id ∉ ids).map (fun rule => Value.string rule.line) =
    (ruleValues root).zipIdx.filterMap fun entry =>
    if !targeted sha256 ids entry then entry.1.asStr.map Value.string else none := by
  obtain ⟨-, -, -, rules⟩ := buildCatalog_ok built
  rw [rules, filter_filterMap, map_filterMap]
  apply filterMap_congr
  rintro ⟨value, position⟩ -
  unfold catalogRule targeted
  dsimp only
  cases value.asStr with
  | none => rfl
  | some line =>
    by_cases excluded : ruleId sha256 line position ∈ ids <;> simp [excluded]

/-- Entries kept by their text are the entries exactly if they are their text. -/
theorem filterMap_asStr_eq_iff (keep : Value × Nat → Bool) (entries : List (Value × Nat)) :
    (entries.filterMap fun entry => if keep entry then entry.1.asStr.map Value.string else none) =
    (entries.filter keep).map Prod.fst ↔
    ∀ entry ∈ entries, keep entry → ∃ line, entry.1 = .string line := by
  constructor
  · intro same entry mem kept
    have listed : entry.1 ∈ (entries.filter keep).map Prod.fst :=
      mem_map_of_mem (mem_filter.2 ⟨mem, kept⟩)
    rw [← same, mem_filterMap] at listed
    obtain ⟨other, -, made⟩ := listed
    split at made
    · obtain ⟨line, -, text⟩ := map_eq_some_iff.1 made
      exact ⟨line, text.symm⟩
    · cases made
  · intro strings
    rw [← filterMap_eq_filter, map_filterMap]
    apply filterMap_congr
    intro entry mem
    cases kept : keep entry with
    | false => simp [Option.guard, kept]
    | true =>
      obtain ⟨line, text⟩ := strings entry mem kept
      simp [Option.guard, kept, text, Value.asStr]

theorem ruleValues_insert_rules (root : Mapping) (values : List Value) :
    ruleValues (root.insert (.string "rules") (.sequence values)) = values := by
  simp [ruleValues, sequence, Mapping.get_insert, Value.asSequence]

theorem get_applyRulePatches (applied : applyRulePatches root catalog patches = .ok between)
    {key} (other : key ≠ .string "rules") : between.get key = root.get key := by
  obtain ⟨edits, -, applied⟩ := bind_ok applied
  split at applied
  · cases applied
    rfl
  · cases applied
    rw [Mapping.get_insert, if_neg other]

/-- With a rule patch, every entry that stays has to be a string. -/
theorem ruleValues_applyRulePatches_iff (built : buildCatalog sha256 root = .ok catalog)
    (applied : applyRulePatches root catalog patches = .ok between) : ruleValues between =
    (enabledPatches patches).filterMap (insertedRule catalog .prefix_) ++
    untargetedRules sha256 ((enabledPatches patches).filterMap excludedRule) root ++
    (enabledPatches patches).filterMap (insertedRule catalog .suffix) ↔
    ((∃ patch ∈ enabledPatches patches, IsRulePatch patch) →
    ∀ entry ∈ (ruleValues root).zipIdx,
    targeted sha256 ((enabledPatches patches).filterMap excludedRule) entry = false →
    ∃ line, entry.1 = .string line) := by
  obtain ⟨edits, collected, applied⟩ := bind_ok applied
  obtain ⟨excluded, prefix_, suffix, isRule⟩ := collectRuleEdits_ok collected
  change edits.excluded = (enabledPatches patches).filterMap excludedRule at excluded
  change edits.prefix_ = (enabledPatches patches).filterMap _ at prefix_
  change edits.suffix = (enabledPatches patches).filterMap _ at suffix
  rw [← excluded, ← prefix_, ← suffix]
  split at applied
  · rename_i empty
    simp only [Bool.and_eq_true, List.isEmpty_iff] at empty
    obtain ⟨⟨noExcluded, noPrefix⟩, noSuffix⟩ := empty
    cases applied
    rw [noExcluded, noPrefix, noSuffix]
    constructor
    · rintro - ⟨patch, mem, rule⟩
      rw [noExcluded] at excluded
      rw [noPrefix] at prefix_
      rw [noSuffix] at suffix
      have none₁ := filterMap_eq_nil_iff.1 excluded.symm patch mem
      have none₂ := filterMap_eq_nil_iff.1 prefix_.symm patch mem
      have none₃ := filterMap_eq_nil_iff.1 suffix.symm patch mem
      have some_ := (isRule patch mem).1 rule
      simp [none₁, none₂, none₃] at some_
    · have all : (ruleValues root).zipIdx.filter (fun entry => !targeted sha256 [] entry) =
          (ruleValues root).zipIdx := by
        rw [filter_eq_self]
        intro entry mem
        cases text : entry.1.asStr <;> simp [targeted, text]
      simp [untargetedRules, all]
  · rename_i nonempty
    cases applied
    have patched : ∃ patch ∈ enabledPatches patches, IsRulePatch patch := by
      by_contra none_
      apply nonempty
      have absent : ∀ patch ∈ enabledPatches patches, ¬ IsRulePatch patch :=
        fun patch mem rule => none_ ⟨patch, mem, rule⟩
      simp only [Bool.and_eq_true, List.isEmpty_iff, excluded, prefix_, suffix,
        filterMap_eq_nil_iff]
      refine ⟨⟨?_, ?_⟩, ?_⟩ <;> intro patch mem <;>
        have nothing := mt (isRule patch mem).2 (absent patch mem) <;>
        simp only [not_or, not_isSome_iff_eq_none] at nothing
      · exact nothing.1
      · exact nothing.2.1
      · exact nothing.2.2
    rw [ruleValues_insert_rules, append_left_inj, append_right_inj, kept_eq built,
      untargetedRules, filterMap_asStr_eq_iff]
    simp [patched]

end Rules

/-! ## Groups -/

section Groups

variable {sha256 : String → String} {catalog : PatchCatalog} {root : Mapping} {α κ : Type}
  {key : α → Option κ} {l : List α} {patch : ProfilePatch} {edits' edits : GroupEdits}
  {groups arranged : List Value} {ids : List String}

theorem mappingString_withMembers (members : List Value) (group : Value) :
    mappingString (withMembers members group) "name" = mappingString group "name" := by
  unfold mappingString withMembers
  rw [Value.asMapping_modifyMapping]
  cases group.asMapping with
  | none => rfl
  | some entries => simp [Mapping.get_insert]

@[simp] theorem groupIdOf_withMembers (members : List Value) (group : Value) :
    groupIdOf sha256 (withMembers members group) = groupIdOf sha256 group := by
  rw [groupIdOf, mappingString_withMembers, groupIdOf]

/-- A change at the one position that has a key, made by key. -/
theorem set_eq_map [DecidableEq κ] {f : α → α} {i x k}
    (distinct : (l.filterMap key).Nodup) (at_ : l[i]? = some x) (keyed : key x = some k) :
    l.set i (f x) = l.map fun y => if key y = some k then f y else y := by
  induction l generalizing i with
  | nil => cases at_
  | cons y rest ih =>
    cases i with
    | zero =>
      rw [getElem?_cons_zero, Option.some.injEq] at at_
      subst at_
      rw [filterMap_cons_some keyed, nodup_cons] at distinct
      have others : rest.map (fun y => if key y = some k then f y else y) = rest := by
        refine (map_congr_left ?_).trans (map_id rest)
        intro z mem
        refine if_neg ?_
        intro same
        exact distinct.1 (mem_filterMap.2 ⟨z, mem, same⟩)
      rw [set_cons_zero, map_cons, if_pos keyed, others]
    | succ i =>
      have later : k ∈ rest.filterMap key :=
        mem_filterMap.2 ⟨x, mem_of_getElem? at_, keyed⟩
      have other : key y ≠ some k := by
        intro same
        rw [filterMap_cons_some same, nodup_cons] at distinct
        exact distinct.1 later
      have fewer : (rest.filterMap key).Nodup :=
        distinct.sublist ((sublist_cons_self y rest).filterMap key)
      rw [set_cons_succ, map_cons, if_neg other, ih fewer at_]

theorem patchedGroup_cons (patch : ProfilePatch) (rest : List ProfilePatch) (group : Value) :
    patchedGroup sha256 catalog (patch :: rest) group =
    patchedGroup sha256 catalog rest (patchedGroup sha256 catalog [patch] group) := by
  unfold patchedGroup
  cases members : newMembers sha256 catalog group patch with
  | none => simp [members]
  | some values =>
    simp only [foldl_cons, filterMap_cons, members, filterMap_nil, foldl_nil]
    simp only [newMembers, groupIdOf_withMembers]
    rfl

theorem map_patchedGroup_of_none (other : ∀ group, newMembers sha256 catalog group patch = none)
    (groups : List Value) : groups.map (patchedGroup sha256 catalog [patch]) = groups := by
  refine (map_congr_left ?_).trans (map_id groups)
  intro group _
  simp [patchedGroup, other]

@[simp] theorem mappingString_patchedGroup (patches : List ProfilePatch) (group : Value) :
    mappingString (patchedGroup sha256 catalog patches group) "name" =
    mappingString group "name" := by
  unfold patchedGroup
  generalize patches.filterMap (newMembers sha256 catalog group) = updates
  induction updates generalizing group with
  | nil => rfl
  | cons members rest ih => rw [foldl_cons, ih, mappingString_withMembers]

theorem groupIdOf_patchedGroup (patches : List ProfilePatch) (group : Value) :
    groupIdOf sha256 (patchedGroup sha256 catalog patches group) = groupIdOf sha256 group := by
  rw [groupIdOf, mappingString_patchedGroup, groupIdOf]

/-- The groups stand where the source has them. -/
def InPlace (sha256 : String → String) (root : Mapping) (groups : List Value) : Prop :=
  groups.map (groupIdOf sha256) = (groupValues root).map (groupIdOf sha256)

theorem InPlace.source (sha256 : String → String) (root : Mapping) :
    InPlace sha256 root (groupValues root) := rfl

theorem InPlace.map_patchedGroup {groups} (inPlace : InPlace sha256 root groups)
    (patches : List ProfilePatch) :
    InPlace sha256 root (groups.map (patchedGroup sha256 catalog patches)) := by
  unfold InPlace at inPlace ⊢
  rw [List.map_map, ← inPlace]
  apply map_congr_left
  intro group _
  exact groupIdOf_patchedGroup patches group

theorem InPlace.filterMap {groups} (inPlace : InPlace sha256 root groups) :
    groups.filterMap (groupIdOf sha256) = (groupValues root).filterMap (groupIdOf sha256) := by
  have flat := congrArg (List.filterMap id) inPlace
  rwa [filterMap_map, filterMap_map] at flat

/-- The position of an id is where the group with that id stands. -/
theorem InPlace.groupIdOf_of_position {groups} (inPlace : InPlace sha256 root groups)
    (built : buildCatalog sha256 root = .ok catalog) {id position group}
    (found : (sourceById catalog).get id = some position) (at_ : groups[position]? = some group) :
    groupIdOf sha256 group = some id := by
  obtain ⟨value, source, identified⟩ := (sourceById_get built).1 found
  have same := congrArg (·[position]?) inPlace
  simp only [getElem?_map, at_, source, map_some, Option.some.injEq] at same
  rw [same, identified]

theorem collectGroupEdit_ok (built : buildCatalog sha256 root = .ok catalog)
    (inPlace : InPlace sha256 root edits.groups)
    (collected : collectGroupEdit catalog edits patch = .ok edits') :
    edits'.added = edits.added ++ (addedGroupOf catalog patch).toList ∧
    edits'.reorder = (reorderOf patch).or edits.reorder ∧
    edits'.groups = edits.groups.map (patchedGroup sha256 catalog [patch]) := by
  obtain ⟨enabled, id, operation⟩ := patch
  cases operation with
  | groupAdd label memberIds =>
    obtain ⟨members, labelled, collected⟩ := bind_ok collected
    cases collected
    rw [map_patchedGroup_of_none fun _ => rfl]
    simp [addedGroupOf, reorderOf, labelled, Except.toOption]
  | groupMembers groupId memberIds =>
    simp only [collectGroupEdit] at collected
    split at collected
    · cases collected
    · rename_i position found
      split at collected
      · cases collected
      · rename_i group at_
        split at collected
        · cases collected
        · obtain ⟨members, labelled, collected⟩ := bind_ok collected
          cases collected
          refine ⟨by simp [addedGroupOf], by simp [reorderOf], ?_⟩
          have identified := inPlace.groupIdOf_of_position built found at_
          have distinct : (edits.groups.filterMap (groupIdOf sha256)).Nodup := by
            rw [inPlace.filterMap, ← groupIds_eq built]
            exact groupIds_nodup built
          rw [set_eq_map distinct at_ identified]
          apply map_congr_left
          intro other _
          unfold patchedGroup newMembers
          by_cases same : groupIdOf sha256 other = some groupId <;>
            simp [same, labelled, Except.toOption]
  | groupReorder | ruleInsert | ruleDisable | ruleDelete =>
    cases collected
    rw [map_patchedGroup_of_none fun _ => rfl]
    simp [addedGroupOf, reorderOf]

theorem collectGroupEdits_ok (built : buildCatalog sha256 root = .ok catalog)
    (inPlace : InPlace sha256 root edits.groups)
    (collected : patches.foldlM (collectGroupEdit catalog) edits = .ok edits') :
    edits'.added = edits.added ++ patches.filterMap (addedGroupOf catalog) ∧
    edits'.reorder = (patches.filterMap reorderOf).getLast?.or edits.reorder ∧
    edits'.groups = edits.groups.map (patchedGroup sha256 catalog patches) := by
  induction patches generalizing edits with
  | nil =>
    cases collected
    refine ⟨by simp, by simp, ?_⟩
    exact ((map_congr_left fun _ _ => rfl).trans (map_id _)).symm
  | cons patch rest ih =>
    obtain ⟨between, first, collected⟩ := bind_ok collected
    obtain ⟨added, reorder, groups⟩ := collectGroupEdit_ok built inPlace first
    have inPlace' : InPlace sha256 root between.groups := by
      rw [groups]
      exact inPlace.map_patchedGroup [patch]
    obtain ⟨added', reorder', groups'⟩ := ih inPlace' collected
    refine ⟨?_, ?_, ?_⟩
    · rw [added', added, filterMap_cons_toList, append_assoc]
    · rw [reorder', reorder, filterMap_cons_toList]
      cases reorderOf patch with
      | none => simp
      | some ids => cases rest.filterMap reorderOf <;> simp [getLast?_cons]
    · rw [groups', groups, List.map_map]
      apply map_congr_left
      intro group _
      exact (patchedGroup_cons patch rest group).symm

/-! ## The requested order -/

theorem reorderGroups_ok {groups arranged ids}
    (reordered : reorderGroups catalog groups ids = .ok arranged) :
    Forall₂ (fun id group => ∃ position, (sourceById catalog).get id = some position ∧
    groups[position]? = some group) ids arranged := by
  unfold reorderGroups at reordered
  induction ids generalizing arranged with
  | nil =>
    cases reordered
    exact .nil
  | cons id rest ih =>
    rw [mapM_cons] at reordered
    obtain ⟨group, first, reordered⟩ := bind_ok reordered
    obtain ⟨others, reordered', last⟩ := bind_ok reordered
    cases last
    refine .cons ?_ (ih reordered')
    split at first
    · rename_i found
      cases first
      exact bind_eq_some_iff.1 found
    · cases first

section
variable (built : buildCatalog sha256 root = .ok catalog) (inPlace : InPlace sha256 root groups)
  (reordered : reorderGroups catalog groups ids = .ok arranged)
include built inPlace reordered

theorem filterMap_groupIdOf_arranged : arranged.filterMap (groupIdOf sha256) = ids := by
  have related := reorderGroups_ok reordered
  clear reordered
  induction related with
  | nil => rfl
  | cons first _ ih =>
    obtain ⟨position, found, at_⟩ := first
    rw [filterMap_cons_some (inPlace.groupIdOf_of_position built found at_), ih]

/-- Every arranged group is one of the groups, with its id. -/
theorem mem_and_isSome_of_arranged {group}
    (mem : group ∈ arranged) : group ∈ groups ∧ (groupIdOf sha256 group).isSome := by
  have related := reorderGroups_ok reordered
  clear reordered
  induction related with
  | nil => cases mem
  | cons first _ ih =>
    rcases mem_cons.1 mem with rfl | mem
    · obtain ⟨position, found, at_⟩ := first
      rw [inPlace.groupIdOf_of_position built found at_]
      exact ⟨mem_of_getElem? at_, rfl⟩
    · exact ih mem

end

theorem nodup_of_filterMap_nodup
    (named : ∀ x ∈ l, (key x).isSome) (distinct : (l.filterMap key).Nodup) : l.Nodup := by
  induction l with
  | nil => exact nodup_nil
  | cons x rest ih =>
    obtain ⟨k, keyed⟩ := isSome_iff_exists.1 (named x (mem_cons_self ..))
    rw [filterMap_cons_some keyed, nodup_cons] at distinct
    rw [nodup_cons]
    refine ⟨?_, ih (fun y mem => named y (mem_cons_of_mem _ mem)) distinct.2⟩
    intro mem
    exact distinct.1 (mem_filterMap.2 ⟨x, mem, keyed⟩)

theorem eq_of_filterMap_nodup {x y k} (distinct : (l.filterMap key).Nodup) (hx : x ∈ l)
    (hy : y ∈ l) (kx : key x = some k) (ky : key y = some k) : x = y := by
  induction l with
  | nil => cases hx
  | cons z rest ih =>
    have fewer : (rest.filterMap key).Nodup :=
      distinct.sublist ((sublist_cons_self z rest).filterMap key)
    have apart {w : α} (keyed : key z = some k) (mem : w ∈ rest) (kw : key w = some k) : False := by
      rw [filterMap_cons_some keyed, nodup_cons] at distinct
      exact distinct.1 (mem_filterMap.2 ⟨w, mem, kw⟩)
    rcases mem_cons.1 hx with rfl | hx' <;> rcases mem_cons.1 hy with rfl | hy'
    · rfl
    · exact (apart kx hy' ky).elim
    · exact (apart ky hx' kx).elim
    · exact ih fewer hx' hy'

/-- An accepted order arranges every group that has a name. -/
theorem arranged_perm (built : buildCatalog sha256 root = .ok catalog)
    (inPlace : InPlace sha256 root groups)
    (reordered : reorderGroups catalog groups ids = .ok arranged)
    (complete : groupIds catalog ⊆ ids) (counted : ids.length = (groupIds catalog).dedup.length) :
    arranged.Perm (groups.filter fun group => (groupIdOf sha256 group).isSome) := by
  have source : groups.filterMap (groupIdOf sha256) = groupIds catalog := by
    rw [inPlace.filterMap, groupIds_eq built]
  have distinct : (groups.filterMap (groupIdOf sha256)).Nodup := by
    rw [source]
    exact groupIds_nodup built
  have listed : arranged.filterMap (groupIdOf sha256) = ids :=
    filterMap_groupIdOf_arranged built inPlace reordered
  have ids_nodup : ids.Nodup := by
    have subperm := subperm_of_subset (groupIds_nodup built) complete
    rw [(groupIds_nodup built).dedup] at counted
    exact (subperm.perm_of_length_le (Nat.le_of_eq counted)).nodup_iff.1 (groupIds_nodup built)
  have within {group : Value} (mem : group ∈ arranged) :=
    mem_and_isSome_of_arranged built inPlace reordered mem
  have arranged_nodup : arranged.Nodup :=
    nodup_of_filterMap_nodup (fun _ mem => (within mem).2) (by rw [listed]; exact ids_nodup)
  have named_nodup : (groups.filter fun group => (groupIdOf sha256 group).isSome).Nodup := by
    apply nodup_of_filterMap_nodup (fun group mem => (mem_filter.1 mem).2)
    exact distinct.sublist (filter_sublist.filterMap _)
  rw [perm_ext_iff_of_nodup arranged_nodup named_nodup]
  intro group
  rw [mem_filter]
  refine ⟨within, ?_⟩
  rintro ⟨mem, named⟩
  obtain ⟨id, identified⟩ := isSome_iff_exists.1 named
  have requested : id ∈ arranged.filterMap (groupIdOf sha256) := by
    rw [listed]
    apply complete
    rw [← source]
    exact mem_filterMap.2 ⟨group, mem, identified⟩
  obtain ⟨other, mem', identified'⟩ := mem_filterMap.1 requested
  rwa [eq_of_filterMap_nodup distinct mem (within mem').1 identified identified']

theorem perm_iff_of_perm_filter {keep} {arranged : List α}
    (perm : arranged.Perm (l.filter keep)) : arranged.Perm l ↔ ∀ x ∈ l, keep x := by
  rw [← filter_eq_self]
  constructor
  · intro whole
    exact filter_sublist.eq_of_length (perm.symm.trans whole).length_eq
  · intro all
    rwa [all] at perm

theorem groupValues_congr {root root'}
    (same : root'.get (.string "proxy-groups") = root.get (.string "proxy-groups")) :
    groupValues root' = groupValues root := by
  unfold groupValues sequence
  rw [same]

theorem applyGroupPatches_ok (built : buildCatalog sha256 root = .ok catalog)
    {between after} (same : groupValues between = groupValues root)
    (applied : applyGroupPatches between catalog patches = .ok after) :
    ∃ arranged, after = between.insert (.string "proxy-groups")
        (.sequence (arranged ++ (enabledPatches patches).filterMap (addedGroupOf catalog))) ∧
      match requestedOrder patches with
      | some ids => reorderGroups catalog
          ((groupValues root).map (patchedGroup sha256 catalog (enabledPatches patches))) ids =
            .ok arranged
      | none => arranged =
          (groupValues root).map (patchedGroup sha256 catalog (enabledPatches patches)) := by
  obtain ⟨edits, collected, applied⟩ := bind_ok applied
  rw [same] at collected
  obtain ⟨added, reorder, groups⟩ := collectGroupEdits_ok built (.source sha256 root) collected
  simp only [nil_append, or_none] at added reorder
  obtain ⟨arranged, ordered, applied⟩ := bind_ok applied
  cases applied
  refine ⟨arranged, by rw [added]; rfl, ?_⟩
  have requested : edits.reorder = requestedOrder patches := reorder
  rw [← requested]
  unfold arrangeGroups at ordered
  cases asked : edits.reorder with
  | none =>
    rw [asked] at ordered
    cases ordered
    exact groups
  | some ids =>
    rw [asked, groups] at ordered
    exact ordered

end Groups

/-! ## The whole document -/

section Document

variable {sha256 : String → String} {patches : List ProfilePatch}

/-- The requested order comes from a patch that was evaluated. -/
theorem requestedOrder_fits {catalog conflict}
    (fits : ∀ patch ∈ patches, Fits catalog conflict patch) {ids}
    (requested : requestedOrder patches = some ids) : ids ⊆ groupIds catalog ∧ groupIds catalog ⊆
    ids ∧ ids.length = (groupIds catalog).dedup.length := by
  obtain ⟨patch, mem, reorders⟩ := mem_filterMap.1 (mem_of_getLast? requested)
  have fit := fits patch (mem_of_mem_filter mem)
  unfold reorderOf at reorders
  split at reorders
  · rename_i operation
    cases reorders
    simpa only [Fits, operation] using fit
  · cases reorders

/-- Every entry that a patch set makes the code rebuild is one that the catalog knows. -/
structure Rebuildable (sha256 : String → String) (patches : List ProfilePatch) (root : Mapping) :
    Prop where
  rules : (∃ patch ∈ enabledPatches patches, IsRulePatch patch) →
    ∀ entry ∈ (ruleValues root).zipIdx,
      targeted sha256 ((enabledPatches patches).filterMap excludedRule) entry = false →
      ∃ line, entry.1 = .string line
  groups : (requestedOrder patches).isSome →
    ∀ group ∈ groupValues root, (mappingString group "name").isSome

theorem reference_iff {document result : Value}
    (patched : patchDocument sha256 patches document = .ok result) :
    ∃ root catalog after, document.asMapping = some root ∧
    buildCatalog sha256 root = .ok catalog ∧ result.asMapping = some after ∧
    (Reference sha256 catalog patches root after ↔ Rebuildable sha256 patches root) := by
  obtain ⟨root, catalog, between, after, isRoot, built, valid, rules, groups, rfl⟩ :=
    patchDocument_ok patched
  refine ⟨root, catalog, after, isRoot, built, by simp [isRoot], ?_⟩
  have kept : groupValues between = groupValues root :=
    groupValues_congr (get_applyRulePatches rules (by decide))
  obtain ⟨arranged, rfl, ordered⟩ := applyGroupPatches_ok built kept groups
  have ruleValues_after (values : List Value) :
      ruleValues (between.insert (.string "proxy-groups") (.sequence values)) =
        ruleValues between := by
    simp [ruleValues, sequence, Mapping.get_insert]
  have groupValues_after (values : List Value) :
      groupValues (between.insert (.string "proxy-groups") (.sequence values)) = values := by
    simp [groupValues, sequence, Mapping.get_insert, Value.asSequence]
  have rulesIff := ruleValues_applyRulePatches_iff built rules
  have inPlace : InPlace sha256 root
      ((groupValues root).map (patchedGroup sha256 catalog (enabledPatches patches))) :=
    (InPlace.source sha256 root).map_patchedGroup (enabledPatches patches)
  have named (group : Value) : (groupIdOf sha256 group).isSome =
      (mappingString group "name").isSome := by
    rw [groupIdOf, isSome_map]
  constructor
  · intro reference
    refine ⟨rulesIff.1 (by rw [← ruleValues_after]; exact reference.rules), ?_⟩
    intro requested group mem
    obtain ⟨ids, asked⟩ := isSome_iff_exists.1 requested
    rw [asked] at ordered
    obtain ⟨arranged', same, perm, -⟩ := reference.groups
    rw [groupValues_after, append_left_inj] at same
    subst same
    obtain ⟨-, complete, counted⟩ := requestedOrder_fits (evaluateFrom_valid valid).1 asked
    have all := (perm_iff_of_perm_filter
      (arranged_perm built inPlace ordered complete counted)).1 perm _ (mem_map_of_mem mem)
    rwa [groupIdOf_patchedGroup, named] at all
  · intro rebuildable
    refine ⟨?_, ⟨arranged, groupValues_after _, ?_, ?_⟩, ?_⟩
    · rw [ruleValues_after]
      exact rulesIff.2 rebuildable.rules
    · cases asked : requestedOrder patches with
      | none =>
        rw [asked] at ordered
        rw [ordered]
      | some ids =>
        rw [asked] at ordered
        obtain ⟨-, complete, counted⟩ := requestedOrder_fits (evaluateFrom_valid valid).1 asked
        refine (perm_iff_of_perm_filter (arranged_perm built inPlace ordered complete counted)).2 ?_
        intro group mem
        obtain ⟨source, inSource, rfl⟩ := mem_map.1 mem
        rw [groupIdOf_patchedGroup, named]
        exact rebuildable.groups (by simp [asked]) source inSource
    · cases asked : requestedOrder patches with
      | none => simpa [asked] using ordered
      | some ids =>
        rw [asked] at ordered
        exact filterMap_groupIdOf_arranged built inPlace ordered
    · intro key notRules notGroups
      rw [Mapping.get_insert, if_neg notGroups, get_applyRulePatches rules notRules]

theorem applyProfilePatches_ok {Bytes : Type} {format : Format Bytes}
    {source revision fingerprint patchSet applied} (nonempty : patchSet.patches ≠ [])
    (accepted : applyProfilePatches format sha256 source revision fingerprint patchSet =
    .ok applied) : ∃ document result, format.parse source = some document ∧
    patchDocument sha256 patchSet.patches document = .ok result ∧
    format.parse applied.bytes = some result := by
  obtain ⟨-, -, accepted⟩ := bind_ok accepted
  dsimp only at accepted
  split at accepted
  · cases accepted
  · split at accepted
    · rename_i empty
      exact absurd (List.isEmpty_iff.1 empty) nonempty
    · split at accepted
      · cases accepted
      · rename_i document parsed
        obtain ⟨result, patched, accepted⟩ := bind_ok accepted
        refine ⟨document, result, parsed, patched, ?_⟩
        split at accepted
        · cases accepted
        · rename_i bytes serialized
          have written : applied.bytes = bytes := by
            split at accepted
            · cases accepted
              rfl
            · split at accepted <;> cases accepted
              rfl
          rw [written]
          exact format.parse_serialize result bytes serialized

/-- An accepted set of patches gives the document of the reference exactly if all that
has to be rebuilt are string rules and named groups. -/
theorem patched_meets_reference_iff {Bytes : Type} (format : Format Bytes) {source : Bytes}
    {revision : RevisionId} {fingerprint : Fingerprint} {patchSet : ProfilePatchSet}
    {applied : AppliedProfilePatches Bytes} (nonempty : patchSet.patches ≠ [])
    (accepted : applyProfilePatches format sha256 source revision fingerprint patchSet =
      .ok applied) : ∃ document result root catalog after, format.parse source = some document ∧
      format.parse applied.bytes = some result ∧ document.asMapping = some root ∧
      buildCatalog sha256 root = .ok catalog ∧ result.asMapping = some after ∧
      (Reference sha256 catalog patchSet.patches root after ↔
        Rebuildable sha256 patchSet.patches root) := by
  obtain ⟨document, result, parsed, patched, written⟩ := applyProfilePatches_ok nonempty accepted
  obtain ⟨root, catalog, after, isRoot, built, isAfter, meets⟩ := reference_iff patched
  exact ⟨document, result, root, catalog, after, parsed, written, isRoot, built, isAfter, meets⟩

end Document

/-! ## A lost rule -/

/-- A digest that tells the short texts of the samples apart. -/
def sampleDigest (text : String) : String :=
  let code := text.toList.foldl (fun code c => code * 257 + c.toNat) 0
  String.ofList ((range 64).map fun i => "0123456789abcdef".toList.getD (code / 16 ^ i % 16) '0')

def sampleFormat : Format Value where
  parse := some
  serialize := some
  fingerprint _ := "effective"
  parse_serialize := by simp

def samplePatchSet (operation : ProfilePatchOperation) : ProfilePatchSet where
  effectiveFingerprint := "source"
  patches := [⟨true, "00000000-0000-4000-8000-000000000000", operation⟩]
  schemaVersion := 1
  sourceFingerprint := "source"
  sourceRevision := "revision"

/-- A profile with one rule that is no string, and one that is. -/
def oddRules : Mapping := [(.string "rules", .sequence [.number 7, .string "MATCH,DIRECT"])]

def insertMatch : ProfilePatchOperation :=
  .ruleInsert .prefix_ (.match_ (entityId sampleDigest "built-in" "DIRECT"))

theorem applies_sample (root : Value) (operation : ProfilePatchOperation)
    (runs : (applyProfilePatches sampleFormat sampleDigest root "revision" "source"
    (samplePatchSet operation)).isOk = true) :
    ∃ applied, applyProfilePatches sampleFormat sampleDigest root "revision" "source"
    (samplePatchSet operation) = .ok applied := by
  cases accepted : applyProfilePatches sampleFormat sampleDigest root "revision" "source"
      (samplePatchSet operation) with
  | ok applied => exact ⟨applied, rfl⟩
  | error => rw [accepted] at runs; cases runs

/-- Inserting a rule drops an entry that the patch does not name. -/
theorem insert_loses_odd_rule : ∃ applied catalog after,
    applyProfilePatches sampleFormat sampleDigest (.mapping oddRules) "revision" "source"
      (samplePatchSet insertMatch) = .ok applied ∧
    buildCatalog sampleDigest oddRules = .ok catalog ∧
    applied.bytes.asMapping = some after ∧
    ¬ Reference sampleDigest catalog (samplePatchSet insertMatch).patches oddRules after := by
  obtain ⟨applied, accepted⟩ := applies_sample (.mapping oddRules) insertMatch (by decide +kernel)
  obtain ⟨document, result, parsed, patched, written⟩ :=
    applyProfilePatches_ok (by simp [samplePatchSet]) accepted
  cases parsed
  cases written
  obtain ⟨root, catalog, after, isRoot, built, isAfter, meets⟩ := reference_iff patched
  cases isRoot
  refine ⟨applied, catalog, after, accepted, built, isAfter, ?_⟩
  rw [meets]
  intro rebuildable
  obtain ⟨line, text⟩ := rebuildable.rules ⟨_, mem_cons_self .., trivial⟩ (.number 7, 0)
    (mem_cons_self ..) rfl
  cases text

/-- The same patch on a profile of string rules. -/
theorem patched_meets_reference_strings : ∃ applied catalog after,
    applyProfilePatches sampleFormat sampleDigest
      (.mapping [(.string "rules", .sequence [.string "MATCH,DIRECT"])]) "revision" "source"
      (samplePatchSet insertMatch) = .ok applied ∧
    applied.bytes.asMapping = some after ∧
    Reference sampleDigest catalog (samplePatchSet insertMatch).patches
      [(.string "rules", .sequence [.string "MATCH,DIRECT"])] after := by
  obtain ⟨applied, accepted⟩ := applies_sample
    (.mapping [(.string "rules", .sequence [.string "MATCH,DIRECT"])]) insertMatch
    (by decide +kernel)
  obtain ⟨document, result, root, catalog, after, parsed, written, isRoot, -, isAfter, meets⟩ :=
    patched_meets_reference_iff sampleFormat (by simp [samplePatchSet]) accepted
  cases parsed
  cases written
  cases isRoot
  refine ⟨applied, catalog, after, accepted, isAfter, meets.2 ⟨?_, ?_⟩⟩
  · rintro - entry mem -
    rcases mem_singleton.1 mem with rfl
    exact ⟨_, rfl⟩
  · rintro requested
    cases requested

end Mish.Profile
