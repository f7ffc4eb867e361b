import Mish.Profile.Patch

/-!
# What the catalog holds, and what an accepted patch set refers to

The ids of a catalog are pairwise distinct, so a lookup by id finds the one entity or group that
has it.
-/

namespace Mish.Profile
open Yaml List

variable {β : Type} {table : Table β} {catalog : PatchCatalog} {conflict : Bool}

theorem bind_ok {ε α : Type} {first} {next : α → Except ε β} {result}
    (done : first >>= next = .ok result) :
    ∃ value, first = .ok value ∧ next value = .ok result := by
  cases first with
  | error error => cases done
  | ok value => exact ⟨value, rfl, done⟩

@[simp] theorem ok_bind {ε α : Type} (value : α) (next : α → Except ε β) :
    (Except.ok value >>= next) = next value := rfl

/-! ## Tables -/

theorem Table.mem_of_get {key value} (found : table.get key = some value) : (key, value) ∈ table :=
  mem_reverse.1 (Assoc.mem_of_lookup_eq_some found)

theorem Table.get_eq_some (distinct : (table.map Prod.fst).Nodup)
    {key value} : table.get key = some value ↔ (key, value) ∈ table := by
  refine ⟨Table.mem_of_get, ?_⟩
  intro mem
  apply Assoc.lookup_eq_some_of_mem
  · rw [map_reverse]
    exact nodup_reverse.2 distinct
  · exact mem_reverse.2 mem

/-! ## The catalog of a root -/

section Catalog

variable {sha256 : String → String} {root : Mapping} {catalog : PatchCatalog} {group : CatalogGroup}

def labelIdsOf (sha256 : String → String) (root : Mapping) : Table String :=
  (catalogEntities sha256 root).map fun entity => (entity.label, entity.id)

theorem buildCatalog_ok (built : buildCatalog sha256 root = .ok catalog) :
    ((catalogEntities sha256 root).map CatalogEntity.id).Nodup ∧ catalog.entityLabels =
    (catalogEntities sha256 root).map (fun entity => (entity.id, entity.label)) ∧ catalog.groups =
    (groupValues root).zipIdx.filterMap (catalogGroup sha256 (labelIdsOf sha256 root)) ∧
    catalog.rules =
    (ruleValues root).zipIdx.filterMap (catalogRule sha256 (labelIdsOf sha256 root)) := by
  unfold buildCatalog at built
  dsimp only at built
  split at built
  · cases built
  · rename_i distinct
    cases built
    exact ⟨Decidable.not_not.1 distinct, rfl, rfl, rfl⟩

theorem entityLabels_get (built : buildCatalog sha256 root = .ok catalog) {id label} :
    catalog.entityLabels.get id = some label ↔
    ∃ entity ∈ catalogEntities sha256 root, entity.id = id ∧ entity.label = label := by
  obtain ⟨distinct, labels, -, -⟩ := buildCatalog_ok built
  rw [labels, Table.get_eq_some]
  · simp
  · simpa [Function.comp_def] using distinct

/-- The id of a group entry that has a name. -/
def groupIdOf (sha256 : String → String) (group : Value) : Option String :=
  (mappingString group "name").map (entityId sha256 "group")

theorem catalogGroup_eq_some {labelIds value position} :
    catalogGroup sha256 labelIds (value, position) = some group → mappingString value "name" =
    some group.label ∧ group.id = entityId sha256 "group" group.label ∧ group.position = position ∧
    group.memberIds = (memberNames value).filterMap labelIds.get := by
  intro made
  unfold catalogGroup at made
  cases named : mappingString value "name" with
  | none => simp [named] at made
  | some label =>
    simp only [named, Option.bind_eq_bind, Option.bind_some, Option.some.injEq] at made
    subst made
    exact ⟨rfl, rfl, rfl, rfl⟩

theorem catalogGroup_isSome (sha256 : String → String) (labelIds : Table String) {value}
    (position : Nat) {label} (named : mappingString value "name" = some label) :
    ∃ group, catalogGroup sha256 labelIds (value, position) = some group := by
  unfold catalogGroup
  simp only [named, Option.bind_eq_bind, Option.bind_some]
  exact ⟨_, rfl⟩

/-- The groups of the catalog are the named entries, each with its position. -/
theorem mem_groups (built : buildCatalog sha256 root = .ok catalog) :
    group ∈ catalog.groups ↔ ∃ value, (groupValues root)[group.position]? = some value ∧
    catalogGroup sha256 (labelIdsOf sha256 root) (value, group.position) = some group := by
  obtain ⟨-, -, groups, -⟩ := buildCatalog_ok built
  rw [groups, mem_filterMap]
  constructor
  · rintro ⟨⟨value, position⟩, mem, made⟩
    obtain rfl := (catalogGroup_eq_some made).2.2.1
    exact ⟨value, mk_mem_zipIdx_iff_getElem?.1 mem, made⟩
  · rintro ⟨value, at_, made⟩
    exact ⟨(value, group.position), mk_mem_zipIdx_iff_getElem?.2 at_, made⟩

/-- A list made entry by entry, whatever the positions are. -/
theorem map_filterMap_zipIdx {α β γ : Type} {made} {read : β → γ} {direct}
    (same : ∀ value position, (made (value, position)).map read = direct value) (values : List α)
    (start : Nat) : ((values.zipIdx start).filterMap made).map read = values.filterMap direct := by
  rw [map_filterMap]
  induction values generalizing start with
  | nil => rfl
  | cons value rest ih =>
    rw [zipIdx_cons, filterMap_cons, filterMap_cons, same value start, ih]

theorem groupIds_eq (built : buildCatalog sha256 root = .ok catalog) :
    groupIds catalog = (groupValues root).filterMap (groupIdOf sha256) := by
  obtain ⟨-, -, groups, -⟩ := buildCatalog_ok built
  rw [groupIds, groups]
  apply map_filterMap_zipIdx
  intro value position
  unfold catalogGroup groupIdOf
  dsimp only
  cases mappingString value "name" <;> rfl

theorem map_label_groups (built : buildCatalog sha256 root = .ok catalog) :
    catalog.groups.map CatalogGroup.label = groupLabels root := by
  obtain ⟨-, -, groups, -⟩ := buildCatalog_ok built
  rw [groupLabels, groups]
  apply map_filterMap_zipIdx
  intro value position
  unfold catalogGroup
  dsimp only
  cases mappingString value "name" <;> rfl

theorem filterMap_groupIdOf (sha256 : String → String) (root : Mapping) :
    (groupValues root).filterMap (groupIdOf sha256) =
    (groupLabels root).map (entityId sha256 "group") := by
  rw [groupLabels, map_filterMap]
  rfl

theorem groupIds_nodup (built : buildCatalog sha256 root = .ok catalog) :
    (groupIds catalog).Nodup := by
  have distinct := (buildCatalog_ok built).1
  rw [groupIds_eq built, filterMap_groupIdOf]
  unfold catalogEntities at distinct
  rw [map_append, nodup_append] at distinct
  simpa [Function.comp_def] using distinct.2.1

theorem sourceById_get (built : buildCatalog sha256 root = .ok catalog) {id position} :
    (sourceById catalog).get id = some position ↔
    ∃ value, (groupValues root)[position]? = some value ∧ groupIdOf sha256 value = some id := by
  have distinct : ((sourceById catalog).map Prod.fst).Nodup := by
    simpa [sourceById, groupIds, Function.comp_def] using groupIds_nodup built
  rw [Table.get_eq_some distinct, sourceById, mem_map]
  constructor
  · rintro ⟨group, mem, same⟩
    cases same
    obtain ⟨value, at_, made⟩ := (mem_groups built).1 mem
    obtain ⟨named, identified, -⟩ := catalogGroup_eq_some made
    exact ⟨value, at_, by rw [groupIdOf, named, identified, Option.map_some]⟩
  · rintro ⟨value, at_, identified⟩
    obtain ⟨label, named, rfl⟩ := Option.map_eq_some_iff.1 identified
    obtain ⟨group, made⟩ :=
      catalogGroup_isSome sha256 (labelIdsOf sha256 root) position named
    obtain ⟨named', identified', rfl, -⟩ := catalogGroup_eq_some made
    refine ⟨group, (mem_groups built).2 ⟨value, at_, made⟩, ?_⟩
    rw [named, Option.some.injEq] at named'
    rw [identified', named']

end Catalog

/-! ## Accepted patches -/

/-- What the evaluation asks of one patch. -/
def Fits (catalog : PatchCatalog) (groupMembersConflict : Bool) (patch : ProfilePatch) : Prop :=
  match patch.operation with
  | .ruleInsert _ rule => validateRuleReferences rule catalog = .ok ()
  | .ruleDisable ruleId | .ruleDelete ruleId => ∃ rule ∈ catalog.rules, rule.id = ruleId
  | .groupAdd label memberIds =>
    label ∉ catalog.groups.map CatalogGroup.label ∧ allEntitiesExist memberIds catalog
  | .groupMembers groupId memberIds =>
    groupId ∈ groupIds catalog ∧ (patch.enabled → groupMembersConflict = false) ∧
      allEntitiesExist memberIds catalog
  | .groupReorder ids =>
    ids ⊆ groupIds catalog ∧ groupIds catalog ⊆ ids ∧ ids.length = (groupIds catalog).dedup.length

/-- The label a patch adds, enabled or not. -/
def addedLabel (patch : ProfilePatch) : Option String :=
  match patch.operation with
  | .groupAdd label _ => some label
  | _ => none

theorem evaluateOperation_valid {seen patch}
    (valid : (evaluateOperation catalog conflict seen patch).1.1 = .valid) :
    Fits catalog conflict patch ∧ (∀ label ∈ addedLabel patch, label ∉ seen.addedLabels) ∧
    (evaluateOperation catalog conflict seen patch).2.addedLabels =
    (addedLabel patch).toList ++ seen.addedLabels := by
  obtain ⟨enabled, id, operation⟩ := patch
  cases operation with
  | ruleInsert position rule =>
    simp only [evaluateOperation, Fits, addedLabel] at valid ⊢
    split at valid
    · rename_i referenced
      exact ⟨referenced, by simp, by simp⟩
    · cases valid
  | ruleDisable ruleId | ruleDelete ruleId =>
    simp only [evaluateOperation, Fits, addedLabel] at valid ⊢
    split at valid
    · cases valid
    · rename_i present
      split at valid
      · cases valid
      · rename_i fresh
        rw [if_neg present, if_neg fresh]
        simp only [any_eq_true, decide_eq_true_eq, not_not] at present
        exact ⟨present, by simp, by simp⟩
  | groupAdd label memberIds =>
    simp only [evaluateOperation, Fits, addedLabel] at valid ⊢
    split at valid
    · cases valid
    · rename_i other
      split at valid
      · cases valid
      · rename_i fresh
        split at valid
        · cases valid
        · rename_i exist
          rw [if_neg other, if_neg fresh]
          refine ⟨⟨?_, ?_⟩, ?_, ?_⟩
          · simpa using other
          · simpa using exist
          · simpa using fresh
          · simp [exist]
  | groupMembers groupId memberIds =>
    simp only [evaluateOperation, Fits, addedLabel] at valid ⊢
    split at valid
    · cases valid
    · rename_i group found
      split at valid
      · cases valid
      · rename_i free
        split at valid
        · cases valid
        · rename_i fresh
          split at valid
          · cases valid
          · rename_i exist
            simp only [if_neg free, if_neg fresh, if_neg exist]
            have available : group.supported = true ∧ (enabled = true → conflict = false) := by
              simpa using free
            have member := mem_of_find?_eq_some found
            have same := find?_some found
            refine ⟨⟨?_, ?_, ?_⟩, by simp, by simp⟩
            · exact mem_map.2 ⟨group, member, by simpa using same⟩
            · exact available.2
            · simpa using exist
  | groupReorder ids =>
    simp only [evaluateOperation, Fits, addedLabel] at valid ⊢
    split at valid
    · cases valid
    · rename_i ordered
      rw [if_neg ordered]
      simp only [not_or, Decidable.not_not] at ordered
      exact ⟨⟨ordered.2.1.1, ordered.2.1.2, ordered.2.2⟩, by simp, by simp⟩

theorem evaluateFrom_valid {seen patches}
    (valid : ∀ evaluated ∈ evaluateFrom catalog conflict seen patches, evaluated.result = .valid) :
    (∀ patch ∈ patches, Fits catalog conflict patch) ∧ (patches.filterMap addedLabel).Nodup ∧
    ∀ label ∈ patches.filterMap addedLabel, label ∉ seen.addedLabels := by
  induction patches generalizing seen with
  | nil => simp
  | cons patch rest ih =>
    simp only [evaluateFrom, mem_cons, forall_eq_or_imp] at valid
    obtain ⟨fits, fresh, added⟩ := evaluateOperation_valid valid.1
    obtain ⟨others, distinct, later⟩ := ih valid.2
    refine ⟨by simpa using ⟨fits, others⟩, ?_⟩
    rw [added] at later
    cases label : addedLabel patch with
    | none =>
      rw [filterMap_cons_none label]
      exact ⟨distinct, by simpa [label] using later⟩
    | some name =>
      rw [filterMap_cons_some label, nodup_cons]
      rw [label] at later fresh
      refine ⟨⟨?_, distinct⟩, ?_⟩
      · intro mem
        exact later name mem (by simp)
      · intro other mem
        rcases mem_cons.1 mem with rfl | mem
        · exact fresh other rfl
        · exact fun seen_ => later other mem (by simp [seen_])

/-! ## Applying, step by step -/

section Applied

variable {sha256 : String → String} {patches : List ProfilePatch} {document result : Value}

theorem patchDocument_ok (patched : patchDocument sha256 patches document = .ok result) :
    ∃ root catalog between after, document.asMapping = some root ∧ buildCatalog sha256 root =
    .ok catalog ∧ (∀ evaluated ∈ evaluatePatches patches catalog true, evaluated.result = .valid) ∧
    applyRulePatches root catalog patches = .ok between ∧
    applyGroupPatches between catalog patches = .ok after ∧ result =
    document.modifyMapping fun _ => after := by
  unfold patchDocument at patched
  split at patched
  · cases patched
  · rename_i root isRoot
    obtain ⟨catalog, built, patched⟩ := bind_ok patched
    split at patched
    · cases patched
    · rename_i valid
      obtain ⟨between, rules, patched⟩ := bind_ok patched
      obtain ⟨after, groups, patched⟩ := bind_ok patched
      cases patched
      refine ⟨root, catalog, between, after, isRoot, built, ?_, rules, groups, rfl⟩
      simpa using valid

end Applied

end Mish.Profile
