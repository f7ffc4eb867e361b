import Mish.Profile.PatchApplication
import Mish.Profile.Routes

/-!
# Patched profiles that can be routed

A profile can be routed if its labels are pairwise distinct and no group is a member of
itself, directly or through other groups. The evaluation of patches compares an added
group with the groups of the source only, and leaves it out of its search for cycles.
-/

namespace Mish.Profile
open Yaml Relation Option List

/-- A group names a member. -/
def MemberOf (groups : List Value) (label member : String) : Prop :=
  ∃ group ∈ groups, mappingString group "name" = some label ∧ member ∈ memberNames group

def Acyclic (groups : List Value) : Prop := ∀ label, ¬ TransGen (MemberOf groups) label label

/-- The groups that the reference asks for. -/
def referenceGroups (sha256 : String → String) (catalog : PatchCatalog)
    (patches : List ProfilePatch) (root : Mapping) : List Value :=
  (groupValues root).map (patchedGroup sha256 catalog (enabledPatches patches)) ++
    (enabledPatches patches).filterMap (addedGroupOf catalog)

def addedLabels (patches : List ProfilePatch) : List String :=
  (enabledPatches patches).filterMap addedLabel

structure SafeAdditions (sha256 : String → String) (catalog : PatchCatalog)
    (patches : List ProfilePatch) (root : Mapping) : Prop where
  labels : ∀ label ∈ addedLabels patches, label ∉ builtIns ++ proxyLabels root
  cycles : ∀ label ∈ addedLabels patches,
    ¬ TransGen (MemberOf (referenceGroups sha256 catalog patches root)) label label

/-! ## Labels and members of patched groups -/

variable {group : Value} {label : String}

section Members

variable {sha256 : String → String} {catalog : PatchCatalog} {root : Mapping} {groupId : String}
  {conflict : Bool}

/-- The labels of the entities with these ids. -/
def labelsOf (catalog : PatchCatalog) (ids : List String) : List String :=
  ids.filterMap catalog.entityLabels.get

theorem memberLabels_ok {ids} (exist : allEntitiesExist ids catalog = true) :
    memberLabels ids catalog = .ok ((labelsOf catalog ids).map .string) := by
  unfold memberLabels labelsOf
  induction ids with
  | nil => rfl
  | cons id rest ih =>
    simp only [allEntitiesExist, all_cons, Bool.and_eq_true] at exist
    obtain ⟨label, found⟩ := isSome_iff_exists.1 exist.1
    rw [mapM_cons, ih exist.2, filterMap_cons_some found]
    simp only [entityLabel, found]
    rfl

theorem filterMap_asStr_map_string (labels : List String) :
    (labels.map Value.string).filterMap Value.asStr = labels := by
  rw [filterMap_map]
  exact filterMap_some

theorem memberNames_withMembers (isMapping : group.isMapping = true)
    (labels : List String) : memberNames (withMembers (labels.map .string) group) = labels := by
  obtain ⟨entries, mapping⟩ := isSome_iff_exists.1 isMapping
  unfold memberNames withMembers
  rw [Value.asMapping_modifyMapping, mapping]
  simp only [map_some, bind_some, Mapping.get_insert, if_true]
  exact filterMap_asStr_map_string labels

/-- The members that a patch gives to the group with an id. -/
def updateOf (groupId : String) (patch : ProfilePatch) : Option (List String) :=
  match patch.operation with
  | .groupMembers id memberIds => if id = groupId then some memberIds else none
  | _ => none

theorem newMembers_eq {patch} (fits : Fits catalog conflict patch)
    (identified : groupIdOf sha256 group = some groupId) : newMembers sha256 catalog group patch =
    (updateOf groupId patch).map fun ids => (labelsOf catalog ids).map Value.string := by
  obtain ⟨enabled, id, operation⟩ := patch
  cases operation with
  | groupMembers other memberIds =>
    simp only [newMembers, updateOf, identified, some.injEq]
    by_cases same : other = groupId
    · rw [if_pos same.symm, if_pos same, memberLabels_ok fits.2.2]
      rfl
    · rw [if_neg (Ne.symm same), if_neg same]
      rfl
  | ruleInsert | ruleDisable | ruleDelete | groupAdd | groupReorder => rfl

/-- A group has the members of the last patch for it, or those of the source. -/
theorem memberNames_patchedGroup {patches} (fits : ∀ patch ∈ patches, Fits catalog conflict patch)
    (identified : groupIdOf sha256 group = some groupId) :
    memberNames (patchedGroup sha256 catalog patches group) =
      match (patches.filterMap (updateOf groupId)).getLast? with
      | some ids => labelsOf catalog ids
      | none => memberNames group := by
  have updates : patches.filterMap (newMembers sha256 catalog group) =
      (patches.filterMap (updateOf groupId)).map
        fun ids => (labelsOf catalog ids).map Value.string := by
    rw [map_filterMap]
    exact filterMap_congr fun patch mem => newMembers_eq (fits patch mem) identified
  have isMapping : group.isMapping = true := by
    obtain ⟨label, named, -⟩ := map_eq_some_iff.1 identified
    unfold mappingString at named
    unfold Value.isMapping
    cases mapping : group.asMapping with
    | none => simp [mapping] at named
    | some entries => rfl
  unfold patchedGroup
  rw [updates]
  generalize patches.filterMap (updateOf groupId) = ids
  clear updates fits identified
  induction ids generalizing group with
  | nil => rfl
  | cons first rest ih =>
    have isMapping' :
        (withMembers ((labelsOf catalog first).map Value.string) group).isMapping = true := by
      rw [withMembers, Value.isMapping_modifyMapping, isMapping]
    rw [map_cons, foldl_cons, ih isMapping', memberNames_withMembers isMapping]
    cases rest <;> simp [getLast?_cons]

end Members

/-! ## The graph that the evaluation searches -/

section Searched

variable {sha256 : String → String} {catalog : PatchCatalog} {root : Mapping}
  {patches : List ProfilePatch}

/-- Members that are groups of the source. -/
def amongGroups (catalog : PatchCatalog) (ids : List String) : List String :=
  ids.filter (· ∈ groupIds catalog)

def searchedChildren (patches : List ProfilePatch) (catalog : PatchCatalog) (id : String) :
    List String :=
  ((resultingMembers patches catalog).lookup id).getD []

theorem foldl_members_lookup (groupId : String) (base : List (String × List String)) :
    (patches.foldl
      (fun members patch =>
        match patch.operation with
        | .groupMembers id memberIds => (id, amongGroups catalog memberIds) :: members
        | _ => members) base).lookup groupId =
      ((patches.filterMap (updateOf groupId)).getLast?.map (amongGroups catalog)).or
        (base.lookup groupId) := by
  induction patches generalizing base with
  | nil => rfl
  | cons patch rest ih =>
    obtain ⟨enabled, id, operation⟩ := patch
    rw [foldl_cons, ih, filterMap_cons_toList]
    cases operation with
    | groupMembers other memberIds =>
      simp only [updateOf]
      by_cases same : other = groupId
      · subst same
        cases rest.filterMap (updateOf other) <;> simp [getLast?_cons]
      · rw [lookup_cons, beq_false_of_ne (Ne.symm same)]
        simp [same]
    | ruleInsert | ruleDisable | ruleDelete | groupAdd | groupReorder => rfl

theorem resultingMembers_lookup (groupId : String) :
    (resultingMembers patches catalog).lookup groupId =
    (((enabledPatches patches).filterMap (updateOf groupId)).getLast?.map
    (amongGroups catalog)).or
    ((catalog.groups.map fun group =>
    (group.id, amongGroups catalog group.memberIds)).reverse.lookup groupId) :=
  foldl_members_lookup groupId _

theorem mem_keys_foldl {groupId} {base : List (String × List String)}
    (mem : groupId ∈ base.map Prod.fst) : groupId ∈ (patches.foldl
      (fun members patch =>
        match patch.operation with
        | .groupMembers id memberIds => (id, amongGroups catalog memberIds) :: members
        | _ => members) base).map Prod.fst := by
  induction patches generalizing base with
  | nil => exact mem
  | cons patch rest ih =>
    rw [foldl_cons]
    apply ih
    split
    · exact mem_cons_of_mem _ mem
    · exact mem

theorem groupIds_subset_searched :
    groupIds catalog ⊆ (resultingMembers patches catalog).map Prod.fst := by
  intro id mem
  apply mem_keys_foldl
  rw [List.map_reverse, List.mem_reverse, List.map_map]
  exact mem

theorem searchedChildren_subset (id : String) :
    searchedChildren patches catalog id ⊆ groupIds catalog := by
  intro child mem
  unfold searchedChildren at mem
  rw [resultingMembers_lookup] at mem
  have amongOnly (ids : List String) : amongGroups catalog ids ⊆ groupIds catalog := by
    intro x here
    simpa using (mem_filter.1 here).2
  cases updated : ((enabledPatches patches).filterMap (updateOf id)).getLast? with
  | some ids =>
    rw [updated] at mem
    exact amongOnly ids mem
  | none =>
    rw [updated, map_none, none_or] at mem
    cases found : (catalog.groups.map fun group =>
        (group.id, amongGroups catalog group.memberIds)).reverse.lookup id with
    | none => simp [found] at mem
    | some ids =>
      rw [found] at mem
      obtain ⟨group, -, same⟩ := mem_map.1 (List.mem_reverse.1 (Assoc.mem_of_lookup_eq_some found))
      cases same
      exact amongOnly group.memberIds mem

/-- The evaluation finds a cycle exactly if there is one, in whatever order it looks. -/
theorem resultingGroupGraphHasCycle_iff : resultingGroupGraphHasCycle patches catalog = true ↔
    ∃ id ∈ (resultingMembers patches catalog).map Prod.fst,
    DepthFirst.Reaches (searchedChildren patches catalog) id id :=
  DepthFirst.hasCycle_iff fun id _ _ mem =>
    groupIds_subset_searched (searchedChildren_subset id mem)

theorem map_label_catalogEntities (sha256 : String → String) (root : Mapping) :
    (catalogEntities sha256 root).map CatalogEntity.label = routeLabels root := by
  simp [catalogEntities, routeLabels, Function.comp_def]

/-- With distinct labels, a label of a group belongs to the group's entity only. -/
theorem id_of_groupLabel (distinct : (routeLabels root).Nodup) {entity}
    (mem : entity ∈ catalogEntities sha256 root) (group : entity.label ∈ groupLabels root) :
    entity.id = entityId sha256 "group" entity.label := by
  rw [← map_label_catalogEntities sha256 root] at distinct
  have listed : ⟨entityId sha256 "group" entity.label, .policyGroup, entity.label⟩ ∈
      catalogEntities sha256 root :=
    mem_append_right _ (mem_map.2 ⟨entity.label, group, rfl⟩)
  have same := inj_on_of_nodup_map distinct mem listed rfl
  rw [same]

theorem groupId_mem (built : buildCatalog sha256 root = .ok catalog)
    (mem : label ∈ groupLabels root) : entityId sha256 "group" label ∈ groupIds catalog := by
  rw [groupIds_eq built, filterMap_groupIdOf]
  exact mem_map_of_mem mem

/-- A member of a patched group that is a group of the source is a child in the search. -/
theorem searchedChildren_of_member (built : buildCatalog sha256 root = .ok catalog)
    {conflict} (fits : ∀ patch ∈ enabledPatches patches, Fits catalog conflict patch)
    (distinct : (routeLabels root).Nodup) {label member}
    (inSource : group ∈ groupValues root) (named : mappingString group "name" = some label)
    (isMember : member ∈ memberNames (patchedGroup sha256 catalog (enabledPatches patches) group))
    (isGroup : member ∈ groupLabels root) : entityId sha256 "group" member ∈
    searchedChildren patches catalog (entityId sha256 "group" label) := by
  have identified : groupIdOf sha256 group = some (entityId sha256 "group" label) := by
    rw [groupIdOf, named, map_some]
  have known := groupId_mem built isGroup
  rw [memberNames_patchedGroup fits identified] at isMember
  unfold searchedChildren
  rw [resultingMembers_lookup]
  cases updated : ((enabledPatches patches).filterMap
      (updateOf (entityId sha256 "group" label))).getLast? with
  | some ids =>
    rw [updated] at isMember
    obtain ⟨id, mem, found⟩ := mem_filterMap.1 isMember
    obtain ⟨entity, listed, rfl, rfl⟩ := (entityLabels_get built).1 found
    rw [id_of_groupLabel distinct listed isGroup] at mem
    exact mem_filter.2 ⟨mem, by simpa using known⟩
  | none =>
    rw [updated] at isMember
    obtain ⟨position, at_⟩ := getElem?_of_mem inSource
    obtain ⟨entry, made⟩ := catalogGroup_isSome sha256 (labelIdsOf sha256 root) position named
    obtain ⟨named', identified', rfl, members⟩ := catalogGroup_eq_some made
    have listed := (mem_groups built).2 ⟨group, at_, made⟩
    rw [named, some.injEq] at named'
    rw [← named'] at identified'
    have found : (catalog.groups.map fun group =>
        (group.id, amongGroups catalog group.memberIds)).reverse.lookup
          (entityId sha256 "group" label) = some (amongGroups catalog entry.memberIds) := by
      apply Assoc.lookup_eq_some_of_mem
      · rw [List.map_reverse, List.nodup_reverse, List.map_map]
        exact groupIds_nodup built
      · rw [List.mem_reverse, ← identified']
        exact mem_map.2 ⟨entry, listed, rfl⟩
    rw [map_none, none_or, found]
    refine mem_filter.2 ⟨?_, by simpa using known⟩
    rw [members]
    refine mem_filterMap.2 ⟨member, isMember, ?_⟩
    rw [Table.get_eq_some]
    · refine mem_map.2 ⟨⟨entityId sha256 "group" member, .policyGroup, member⟩, ?_, rfl⟩
      exact mem_append_right _ (mem_map.2 ⟨member, isGroup, rfl⟩)
    · rw [labelIdsOf, List.map_map]
      rw [← map_label_catalogEntities sha256 root] at distinct
      exact distinct

end Searched

/-! ## The patched document -/

section Patched

variable {sha256 : String → String} {patches : List ProfilePatch} {root after : Mapping}
  {catalog : PatchCatalog}

def isNamed (group : Value) : Bool := (mappingString group "name").isSome

/-- What the patched document has to do with the reference groups. -/
structure PatchedGroups (sha256 : String → String) (catalog : PatchCatalog)
    (patches : List ProfilePatch) (root after : Mapping) : Prop where
  built : buildCatalog sha256 root = .ok catalog
  fits : ∀ patch ∈ patches, Fits catalog (resultingGroupGraphHasCycle patches catalog) patch
  addedOnce : (patches.filterMap addedLabel).Nodup
  proxies : proxyLabels after = proxyLabels root
  groups : ((groupValues after).filter isNamed).Perm
    ((referenceGroups sha256 catalog patches root).filter isNamed)

theorem patchedGroups_of_ok {document result}
    (patched : patchDocument sha256 patches document = .ok result)
    (isRoot : document.asMapping = some root) : ∃ catalog after, result.asMapping = some after ∧
    PatchedGroups sha256 catalog patches root after := by
  obtain ⟨root', catalog, between, after, isRoot', built, valid, rules, groups, rfl⟩ :=
    patchDocument_ok patched
  rw [isRoot, some.injEq] at isRoot'
  subst isRoot'
  obtain ⟨fits, addedOnce, -⟩ := evaluateFrom_valid valid
  have kept : groupValues between = groupValues root :=
    groupValues_congr (get_applyRulePatches rules (by decide))
  obtain ⟨arranged, rfl, ordered⟩ := applyGroupPatches_ok built kept groups
  refine ⟨catalog, _, by rw [Value.asMapping_modifyMapping, isRoot, map_some],
    built, fits, addedOnce, ?_, ?_⟩
  · unfold proxyLabels sequence
    rw [Mapping.get_insert, if_neg (by decide), get_applyRulePatches rules (by decide)]
  · have values : groupValues (between.insert (.string "proxy-groups")
        (.sequence (arranged ++ (enabledPatches patches).filterMap (addedGroupOf catalog)))) =
        arranged ++ (enabledPatches patches).filterMap (addedGroupOf catalog) := by
      simp [groupValues, sequence, Mapping.get_insert, Value.asSequence]
    have named : isNamed = fun group => (groupIdOf sha256 group).isSome := by
      funext group
      rw [isNamed, groupIdOf, isSome_map]
    rw [values, referenceGroups, filter_append, filter_append]
    apply Perm.append_right
    cases asked : requestedOrder patches with
    | none =>
      rw [asked] at ordered
      rw [ordered]
    | some ids =>
      rw [asked] at ordered
      obtain ⟨-, complete, counted⟩ := requestedOrder_fits fits asked
      have inPlace : InPlace sha256 root
          ((groupValues root).map (patchedGroup sha256 catalog (enabledPatches patches))) :=
        (InPlace.source sha256 root).map_patchedGroup _
      have perm := arranged_perm built inPlace ordered complete counted
      rw [named]
      have again := perm.filter fun group => (groupIdOf sha256 group).isSome
      simpa [List.filter_filter] using again

variable (result : PatchedGroups sha256 catalog patches root after)

include result

theorem PatchedGroups.memberOf (label member : String) : MemberOf (groupValues after) label member ↔
    MemberOf (referenceGroups sha256 catalog patches root) label member := by
  have same (group : Value) (named : mappingString group "name" = some label) :
      group ∈ groupValues after ↔ group ∈ referenceGroups sha256 catalog patches root := by
    have listed : group ∈ (groupValues after).filter isNamed ↔ group ∈ _ := result.groups.mem_iff
    simpa [mem_filter, isNamed, named] using listed
  constructor
  · rintro ⟨group, mem, named, isMember⟩
    exact ⟨group, (same group named).1 mem, named, isMember⟩
  · rintro ⟨group, mem, named, isMember⟩
    exact ⟨group, (same group named).2 mem, named, isMember⟩

theorem PatchedGroups.fits_enabled : ∀ patch ∈ enabledPatches patches,
    Fits catalog (resultingGroupGraphHasCycle patches catalog) patch :=
  fun patch mem => result.fits patch (mem_of_mem_filter mem)

variable {patch : ProfilePatch}

/-- An added group, with its label and the labels of its members. -/
theorem PatchedGroups.addedGroupOf_eq (mem : patch ∈ enabledPatches patches)
    (adds : addedLabel patch = some label) : ∃ memberIds, addedGroupOf catalog patch =
    some (addedGroup label ((labelsOf catalog memberIds).map .string)) := by
  have fit := result.fits_enabled patch mem
  unfold addedLabel at adds
  split at adds
  · rename_i label' memberIds operation
    cases adds
    simp only [Fits, operation] at fit
    refine ⟨memberIds, ?_⟩
    simp only [addedGroupOf, operation, memberLabels_ok fit.2]
    rfl
  · cases adds

omit result in
theorem addedGroupOf_eq_none (adds : addedLabel patch = none) :
    addedGroupOf catalog patch = none := by
  cases operation : patch.operation with
  | groupAdd label memberIds => simp [addedLabel, operation] at adds
  | _ => simp [addedGroupOf, operation]

theorem PatchedGroups.map_name_added :
    ((enabledPatches patches).filterMap (addedGroupOf catalog)).filterMap
    (mappingString · "name") = addedLabels patches := by
  rw [filterMap_filterMap, addedLabels]
  apply filterMap_congr
  intro patch mem
  cases adds : addedLabel patch with
  | some label =>
    obtain ⟨memberIds, made⟩ := result.addedGroupOf_eq mem adds
    rw [made]
    rfl
  | none =>
    rw [addedGroupOf_eq_none adds]
    rfl

omit result in
theorem filterMap_name_filter (groups : List Value) :
    (groups.filter isNamed).filterMap (mappingString · "name") =
    groups.filterMap (mappingString · "name") := by
  rw [filterMap_filter]
  apply filterMap_congr
  intro group _
  cases named : mappingString group "name" <;> simp [isNamed, named]

omit result in
theorem filterMap_name_map_patchedGroup (groups : List Value) :
    (groups.map (patchedGroup sha256 catalog patches)).filterMap (mappingString · "name") =
    groups.filterMap (mappingString · "name") := by
  rw [filterMap_map]
  apply filterMap_congr
  intro group _
  exact mappingString_patchedGroup patches group

theorem PatchedGroups.groupLabels_perm :
    (groupLabels after).Perm (groupLabels root ++ addedLabels patches) := by
  have perm := result.groups.filterMap (mappingString · "name")
  rw [filterMap_name_filter, filterMap_name_filter, referenceGroups, filterMap_append,
    filterMap_name_map_patchedGroup, result.map_name_added] at perm
  exact perm

theorem PatchedGroups.added_not_source (mem : label ∈ addedLabels patches) :
    label ∉ groupLabels root := by
  obtain ⟨patch, enabled, adds⟩ := mem_filterMap.1 mem
  have fit := result.fits_enabled patch enabled
  unfold addedLabel at adds
  split at adds
  · rename_i label' memberIds operation
    cases adds
    simp only [Fits, operation, map_label_groups result.built] at fit
    exact fit.1
  · cases adds

/-- The labels stay distinct exactly if no added group takes a proxy's or a built-in one. -/
theorem PatchedGroups.routeLabels_nodup_iff (distinct : (routeLabels root).Nodup) :
    (routeLabels after).Nodup ↔
    ∀ label ∈ addedLabels patches, label ∉ builtIns ++ proxyLabels root := by
  have perm : (routeLabels after).Perm (routeLabels root ++ addedLabels patches) := by
    unfold routeLabels
    rw [result.proxies, append_assoc _ (groupLabels root)]
    exact result.groupLabels_perm.append_left _
  have once : (addedLabels patches).Nodup :=
    result.addedOnce.sublist (filter_sublist.filterMap addedLabel)
  rw [perm.nodup_iff, nodup_append]
  constructor
  · rintro ⟨-, -, apart⟩ label added taken
    exact apart label (mem_append_left _ taken) label added rfl
  · intro free
    refine ⟨distinct, once, ?_⟩
    rintro label known other added rfl
    rcases mem_append.1 known with taken | group
    · exact free label added taken
    · exact result.added_not_source added group

variable {member : String}

/-- A group of the patched document that no patch adds is one of the source. -/
theorem PatchedGroups.source_of_memberOf {label}
    (edge : MemberOf (referenceGroups sha256 catalog patches root) label member)
    (notAdded : label ∉ addedLabels patches) :
    ∃ group ∈ groupValues root, mappingString group "name" = some label ∧
    member ∈ memberNames (patchedGroup sha256 catalog (enabledPatches patches) group) := by
  obtain ⟨group, mem, named, isMember⟩ := edge
  rcases mem_append.1 mem with source | added
  · obtain ⟨value, inSource, rfl⟩ := mem_map.1 source
    rw [mappingString_patchedGroup] at named
    exact ⟨value, inSource, named, isMember⟩
  · refine absurd ?_ notAdded
    rw [← result.map_name_added]
    exact mem_filterMap.2 ⟨group, added, named⟩

omit result in
/-- Without a patch for a group, the groups of the source keep their members. -/
theorem patchedGroup_eq_self (none_ : ∀ patch ∈ enabledPatches patches, ∀ groupId memberIds,
    patch.operation ≠ .groupMembers groupId memberIds) (group : Value) :
    patchedGroup sha256 catalog (enabledPatches patches) group = group := by
  have nothing : (enabledPatches patches).filterMap (newMembers sha256 catalog group) = [] := by
    rw [filterMap_eq_nil_iff]
    intro patch mem
    unfold newMembers
    split
    · rename_i groupId memberIds operation
      exact absurd operation (none_ patch mem groupId memberIds)
    · rfl
  unfold patchedGroup
  rw [nothing]
  rfl

/-- The patched document is acyclic exactly if no added group is on a cycle. -/
theorem PatchedGroups.acyclic_iff (distinct : (routeLabels root).Nodup)
    (acyclic : Acyclic (groupValues root)) :
    Acyclic (groupValues after) ↔ ∀ label ∈ addedLabels patches,
    ¬ TransGen (MemberOf (referenceGroups sha256 catalog patches root)) label label := by
  have same : MemberOf (groupValues after) =
      MemberOf (referenceGroups sha256 catalog patches root) := by
    funext label member
    exact propext (result.memberOf label member)
  unfold Acyclic
  rw [same]
  refine ⟨fun none_ label _ => none_ label, ?_⟩
  intro free label cycle
  -- every vertex of the cycle is a group of the source
  have onSource {x y : String} (edge : MemberOf (referenceGroups sha256 catalog patches root) x y)
      (here : TransGen (MemberOf (referenceGroups sha256 catalog patches root)) x x) :=
    result.source_of_memberOf edge fun added => free x added here
  have isGroup {x : String}
      (here : TransGen (MemberOf (referenceGroups sha256 catalog patches root)) x x) :
      x ∈ groupLabels root := by
    obtain ⟨y, edge, -⟩ := TransGen.head'_iff.1 here
    obtain ⟨group, mem, named, -⟩ := onSource edge here
    exact mem_filterMap.2 ⟨group, mem, named⟩
  have circle := DepthFirst.transGen_on_cycles cycle .refl
  by_cases updated : ∃ patch ∈ enabledPatches patches, ∃ groupId memberIds,
      patch.operation = .groupMembers groupId memberIds
  · obtain ⟨patch, mem, groupId, memberIds, operation⟩ := updated
    have fit := result.fits_enabled patch mem
    simp only [Fits, operation] at fit
    have quiet := fit.2.1 (mem_filter.1 mem).2
    have reached : DepthFirst.Reaches (searchedChildren patches catalog)
        (entityId sha256 "group" label) (entityId sha256 "group" label) := by
      refine circle.lift (entityId sha256 "group") ?_
      rintro x y ⟨edge, hx, hy⟩
      obtain ⟨group, inSource, named, isMember⟩ := onSource edge hx
      exact searchedChildren_of_member result.built result.fits_enabled distinct inSource named
        isMember (isGroup hy)
    have found := resultingGroupGraphHasCycle_iff.2 ⟨_,
      groupIds_subset_searched (groupId_mem result.built (isGroup cycle)), reached⟩
    rw [quiet] at found
    cases found
  · refine acyclic label (circle.lift id ?_)
    rintro x y ⟨edge, hx, -⟩
    obtain ⟨group, inSource, named, isMember⟩ := onSource edge hx
    rw [patchedGroup_eq_self] at isMember
    · exact ⟨group, inSource, named, isMember⟩
    · intro patch mem groupId memberIds operation
      exact updated ⟨patch, mem, groupId, memberIds, operation⟩

/-- The members of an added group are entities of the source. -/
theorem PatchedGroups.mem_routeLabels_of_added
    (added : group ∈ (enabledPatches patches).filterMap (addedGroupOf catalog))
    (isMember : member ∈ memberNames group) : member ∈ routeLabels root := by
  obtain ⟨patch, mem, made⟩ := mem_filterMap.1 added
  cases adds : addedLabel patch with
  | none =>
    rw [addedGroupOf_eq_none adds] at made
    cases made
  | some label =>
    obtain ⟨memberIds, eq⟩ := result.addedGroupOf_eq mem adds
    rw [eq, some.injEq] at made
    rw [← made, show memberNames (addedGroup label _) = _ from filterMap_asStr_map_string _]
      at isMember
    obtain ⟨id, -, found⟩ := mem_filterMap.1 isMember
    obtain ⟨entity, listed, -, rfl⟩ := (entityLabels_get result.built).1 found
    rw [← map_label_catalogEntities sha256 root]
    exact mem_map_of_mem listed

/-- An added group that no group of the source names is safe with a label of its own. -/
theorem PatchedGroups.not_on_cycle (added : label ∈ addedLabels patches)
    (free : label ∉ builtIns ++ proxyLabels root) (unnamed : ∀ group ∈ groupValues root,
    label ∉ memberNames (patchedGroup sha256 catalog (enabledPatches patches) group)) :
    ¬ TransGen (MemberOf (referenceGroups sha256 catalog patches root)) label label := by
  intro cycle
  obtain ⟨other, -, group, mem, -, isMember⟩ := TransGen.tail'_iff.1 cycle
  rcases mem_append.1 mem with source | addedGroup_
  · obtain ⟨value, inSource, rfl⟩ := mem_map.1 source
    exact unnamed value inSource isMember
  · rcases mem_append.1 (result.mem_routeLabels_of_added addedGroup_ isMember) with
      taken | isGroup
    · exact free taken
    · exact result.added_not_source added isGroup

end Patched

/-! ## Patched profiles -/

variable {Bytes : Type} {format : Format Bytes} {sha256 : String → String} {document : Value}
  {root : Mapping}

theorem applyProfilePatches_nil {source revision fingerprint patchSet applied}
    (empty : patchSet.patches = [])
    (accepted : applyProfilePatches format sha256 source revision fingerprint patchSet =
    .ok applied) : applied.bytes = source := by
  obtain ⟨-, -, accepted⟩ := bind_ok accepted
  dsimp only at accepted
  split at accepted
  · cases accepted
  · split at accepted
    · cases accepted
      rfl
    · rename_i nonempty
      simp [empty] at nonempty

theorem profileRouteCatalogFromBytes_eq {bytes} (parsed : format.parse bytes = some document)
    (isRoot : document.asMapping = some root) (sha256 : String → String)
    (fingerprint profileId : String) (selections : Table String) :
    profileRouteCatalogFromBytes sha256 fingerprint format profileId bytes selections =
    profileRouteCatalog sha256 fingerprint profileId selections root := by
  unfold profileRouteCatalogFromBytes
  rw [parsed, bind_some, isRoot]

/-- A routable profile: distinct labels, no group within itself, and a catalog. -/
structure Routable {Bytes : Type} (format : Format Bytes) (sha256 : String → String)
    (bytes : Bytes) (root : Mapping) : Prop where
  labels : (routeLabels root).Nodup
  acyclic : Acyclic (groupValues root)
  catalog : ∀ fingerprint profileId selections, ∃ catalog,
    profileRouteCatalogFromBytes sha256 fingerprint format profileId bytes selections = .ok catalog

theorem routable_iff {bytes} (parsed : format.parse bytes = some document)
    (isRoot : document.asMapping = some root) (sha256 : String → String) :
    Routable format sha256 bytes root ↔ (routeLabels root).Nodup ∧ Acyclic (groupValues root) := by
  refine ⟨fun routable => ⟨routable.labels, routable.acyclic⟩, ?_⟩
  rintro ⟨labels, acyclic⟩
  refine ⟨labels, acyclic, ?_⟩
  intro fingerprint profileId selections
  rw [profileRouteCatalogFromBytes_eq parsed isRoot]
  exact (profileRouteCatalog_isOk_iff ..).2 labels

theorem patched_iff_of_ok {patches result}
    (patched : patchDocument sha256 patches document = .ok result)
    (isRoot : document.asMapping = some root) (labels : (routeLabels root).Nodup)
    (acyclic : Acyclic (groupValues root)) : ∃ after catalog, result.asMapping = some after ∧
    buildCatalog sha256 root = .ok catalog ∧ ((routeLabels after).Nodup ∧
    Acyclic (groupValues after) ↔ SafeAdditions sha256 catalog patches root) := by
  obtain ⟨catalog, after, isAfter, groups⟩ := patchedGroups_of_ok patched isRoot
  refine ⟨after, catalog, isAfter, groups.built, ?_⟩
  rw [groups.routeLabels_nodup_iff labels, groups.acyclic_iff labels acyclic]
  exact ⟨fun ⟨labels, cycles⟩ => ⟨labels, cycles⟩, fun safe => ⟨safe.labels, safe.cycles⟩⟩

/-- A patch set accepted for a profile with distinct labels and no cycle leaves a profile
that can be routed exactly if the groups it adds are safe. -/
theorem patched_routable_iff {Bytes : Type} (format : Format Bytes) {sha256 : String → String}
    {source : Bytes} {document : Value} {root : Mapping} {revision : RevisionId}
    {fingerprint : Fingerprint} {patchSet : ProfilePatchSet}
    {applied : AppliedProfilePatches Bytes} (parsed : format.parse source = some document)
    (isRoot : document.asMapping = some root) (labels : (routeLabels root).Nodup)
    (acyclic : Acyclic (groupValues root))
    (accepted : applyProfilePatches format sha256 source revision fingerprint patchSet =
      .ok applied) :
    ∃ result after, format.parse applied.bytes = some result ∧ result.asMapping = some after ∧
      (Routable format sha256 applied.bytes after ↔
        ∀ catalog, buildCatalog sha256 root = .ok catalog →
          SafeAdditions sha256 catalog patchSet.patches root) := by
  by_cases empty : patchSet.patches = []
  · have same := applyProfilePatches_nil empty accepted
    refine ⟨document, root, by rw [same, parsed], isRoot, ?_⟩
    rw [same, routable_iff parsed isRoot, empty]
    refine ⟨fun _ catalog _ => ⟨?_, ?_⟩, fun _ => ⟨labels, acyclic⟩⟩ <;>
      intro label mem <;> cases mem
  · obtain ⟨document', result, parsed', patched, written⟩ := applyProfilePatches_ok empty accepted
    rw [parsed, some.injEq] at parsed'
    subst parsed'
    obtain ⟨after, catalog, isAfter, built, meets⟩ :=
      patched_iff_of_ok patched isRoot labels acyclic
    refine ⟨result, after, written, isAfter, ?_⟩
    rw [routable_iff written isAfter, meets, built]
    constructor
    · rintro safe other ⟨⟩
      exact safe
    · intro safe
      exact safe catalog rfl

/-! ## A group that takes a built-in label -/

theorem acyclic_nil : Acyclic (groupValues []) := by
  intro label cycle
  obtain ⟨-, ⟨group, mem, -⟩, -⟩ := TransGen.head'_iff.1 cycle
  cases mem

def addGroup (label : String) : ProfilePatchOperation :=
  .groupAdd label [entityId sampleDigest "built-in" "DIRECT"]

/-- An empty profile can be routed; with a group added as `DIRECT` it cannot, and has no
catalog. -/
theorem added_direct_not_routable : Routable sampleFormat sampleDigest (.mapping []) [] ∧
    ∃ applied after,
      applyProfilePatches sampleFormat sampleDigest (.mapping []) "revision" "source"
        (samplePatchSet (addGroup "DIRECT")) = .ok applied ∧
      applied.bytes.asMapping = some after ∧ ¬ (routeLabels after).Nodup ∧
      ∀ catalog, profileRouteCatalogFromBytes sampleDigest "effective" sampleFormat "profile"
        applied.bytes [] ≠ .ok catalog := by
  have labels : (routeLabels []).Nodup := by decide
  have parsed : sampleFormat.parse (.mapping []) = some (.mapping []) := rfl
  refine ⟨(routable_iff parsed rfl sampleDigest).2 ⟨labels, acyclic_nil⟩, ?_⟩
  obtain ⟨applied, accepted⟩ := applies_sample (.mapping []) (addGroup "DIRECT") (by decide +kernel)
  obtain ⟨document, result, parsed, patched, written⟩ :=
    applyProfilePatches_ok (by simp [samplePatchSet]) accepted
  cases parsed
  cases written
  obtain ⟨catalog, after, isAfter, groups⟩ := patchedGroups_of_ok patched rfl
  have taken : ¬ (routeLabels after).Nodup := by
    rw [groups.routeLabels_nodup_iff labels]
    intro free
    exact free "DIRECT" (mem_cons_self ..) (by decide)
  refine ⟨applied, after, accepted, isAfter, taken, ?_⟩
  intro catalog made
  rw [profileRouteCatalogFromBytes_eq rfl isAfter] at made
  exact taken ((profileRouteCatalog_isOk_iff ..).1 ⟨catalog, made⟩)

/-- With a label of its own the added group does no harm. -/
theorem patched_routable_own_label : ∃ applied after,
    applyProfilePatches sampleFormat sampleDigest (.mapping []) "revision" "source"
      (samplePatchSet (addGroup "Mine")) = .ok applied ∧
    applied.bytes.asMapping = some after ∧
    Routable sampleFormat sampleDigest applied.bytes after := by
  obtain ⟨applied, accepted⟩ := applies_sample (.mapping []) (addGroup "Mine") (by decide +kernel)
  obtain ⟨result, after, written, isAfter, meets⟩ :=
    patched_routable_iff sampleFormat rfl rfl (by decide) acyclic_nil accepted
  cases written
  refine ⟨applied, after, accepted, isAfter, meets.2 ?_⟩
  intro catalog built
  obtain ⟨document, patchedResult, parsed, patched, -⟩ :=
    applyProfilePatches_ok (by simp [samplePatchSet]) accepted
  cases parsed
  obtain ⟨catalog', after', -, groups⟩ := patchedGroups_of_ok patched rfl
  rw [groups.built, Except.ok.injEq] at built
  subst built
  have free : ∀ label ∈ addedLabels (samplePatchSet (addGroup "Mine")).patches,
      label ∉ builtIns ++ proxyLabels [] := by
    intro label mem
    rcases mem_singleton.1 mem with rfl
    decide
  refine ⟨free, ?_⟩
  intro label mem
  refine groups.not_on_cycle mem (free label mem) ?_
  intro group none_
  cases none_

end Mish.Profile
