import Mish.Profile.PatchCatalog

/-!
# The route catalog of a profile

`profileRouteCatalogFromBytes` derives the nodes and groups that a client shows from a
document. Every label gets one identifier.
-/

namespace Mish.Profile
open Yaml List

inductive ProfileRouteGroupKind where
  | selector | urlTest | fallback | loadBalance | relay | direct | reject | unsupported
  deriving DecidableEq

structure ProfileRouteGroup where
  childIds : List String
  (id label : String)
  selectedChildId : Option String
  kind : ProfileRouteGroupKind
  unsupportedType : Option String

structure ProfileRouteNode where
  (id label : String)
  latencyMilliseconds : Option UInt16
  protocol : String

inductive ProfileRouteMode where
  | rule | global | direct

structure ProfileRouteCatalog where
  fingerprint : String
  groups : List ProfileRouteGroup
  nodes : List ProfileRouteNode
  profileId : String
  routingMode : ProfileRouteMode

/-- An error, or a panic of one of the two `expect`s. -/
inductive RouteFailure where
  | error (error : ProfilePatchError)
  | panicked

def toAsciiLowercase (text : String) : String := String.ofList (text.toList.map Char.toLower)

def mapGroupKind (sourceType : String) : ProfileRouteGroupKind × Option String :=
  let kind : ProfileRouteGroupKind :=
    match toAsciiLowercase sourceType with
    | "select" | "selector" => .selector
    | "url-test" | "urltest" => .urlTest
    | "fallback" => .fallback
    | "load-balance" | "loadbalance" => .loadBalance
    | "relay" => .relay
    | "direct" => .direct
    | "reject" => .reject
    | _ => .unsupported
  (kind, if kind = .unsupported then some sourceType else none)

/-- The identifiers by label, the latest first. -/
abbrev IdsByLabel := List (String × String)

def IdsByLabel.labels (ids : IdsByLabel) : List String := ids.map Prod.fst

@[simp] theorem IdsByLabel.labels_nil : IdsByLabel.labels [] = [] := rfl

section

variable (sha256 : String → String) (fingerprint : String)

def scopedIdentifier (kind identity : String) : String :=
  kind ++ ":" ++ sha256 (kind ++ "\x00" ++ fingerprint ++ "\x00" ++ identity)

def insertEntityId (kind : String) (ids : IdsByLabel) (label : String) :
    Except RouteFailure IdsByLabel :=
  if label ∈ ids.labels then .error (.error .generationFailed)
  else .ok ((label, scopedIdentifier sha256 fingerprint kind label) :: ids)

def routeNode (ids : IdsByLabel) (label protocol : String) : Except RouteFailure ProfileRouteNode :=
  match ids.lookup label with
  | none => .error (.error .generationFailed)
  | some id => .ok ⟨id, label, none, protocol⟩

/-- The identifiers so far, with the labels that only a group names. -/
structure Resolution where
  ids : IdsByLabel
  unresolved : List String

/-- `expect("every configured …")` -/
def identifierOf (ids : IdsByLabel) (label : String) : Except RouteFailure String :=
  match ids.lookup label with
  | none => .error .panicked
  | some id => .ok id

def resolveChild (groupLabels : List String) (resolution : Resolution) (child : String) :
    Except RouteFailure Resolution :=
  let childKind := if child ∈ groupLabels then "group" else "proxy"
  if child ∈ resolution.ids.labels then .ok resolution
  else do
    let ids ← insertEntityId sha256 fingerprint childKind resolution.ids child
    return ⟨ids, resolution.unresolved ++ [child]⟩

/-- The children of a group, one after another. -/
def resolveChildren (groupLabels : List String) :
    Resolution → List String → Except RouteFailure (Resolution × List String)
  | resolution, [] => .ok (resolution, [])
  | resolution, child :: rest => do
    let resolution ← resolveChild sha256 fingerprint groupLabels resolution child
    let id ← identifierOf resolution.ids child
    let (resolution, ids) ← resolveChildren groupLabels resolution rest
    return (resolution, id :: ids)

def selectedChild (selections : Table String) (label : String) (children childIds : List String) :
    Option String :=
  (((selections.get label).bind fun selected => children.idxOf? selected).bind
    (childIds[·]?)).or childIds.head?

def routeGroup (selections : Table String) (group : Value) (label id : String)
    (childIds : List String) : ProfileRouteGroup :=
  let (kind, unsupportedType) := mapGroupKind ((mappingString group "type").getD "unsupported")
  { childIds
    id
    label
    selectedChildId := selectedChild selections label (memberNames group) childIds
    kind
    unsupportedType }

def routeGroups (groupLabels : List String) (selections : Table String) :
    Resolution → List Value → Except RouteFailure (Resolution × List ProfileRouteGroup)
  | resolution, [] => .ok (resolution, [])
  | resolution, group :: rest =>
    match mappingString group "name" with
    | none => routeGroups groupLabels selections resolution rest
    | some label => do
      let (resolution, childIds) ←
        resolveChildren sha256 fingerprint groupLabels resolution (memberNames group)
      let id ← identifierOf resolution.ids label
      let (resolution, groups) ← routeGroups groupLabels selections resolution rest
      return (resolution, routeGroup selections group label id childIds :: groups)

def routingModeOf (root : Mapping) : ProfileRouteMode :=
  match (root.get (.string "mode")).bind Value.asStr with
  | none => .rule
  | some mode =>
    if toAsciiLowercase mode = "global" then .global
    else if toAsciiLowercase mode = "direct" then .direct
    else .rule

def proxyNode (ids : IdsByLabel) (proxy : Value) : Except RouteFailure (Option ProfileRouteNode) :=
  match mappingString proxy "name" with
  | none => .ok none
  | some label => do
    return some (← routeNode ids label ((mappingString proxy "type").getD "Proxy"))

/-- The identifiers of the built-in routes, the proxies and the groups. -/
def identifyLabels (root : Mapping) : Except RouteFailure IdsByLabel := do
  let ids ← builtIns.foldlM (insertEntityId sha256 fingerprint "proxy") []
  let ids ← (proxyLabels root).foldlM (insertEntityId sha256 fingerprint "proxy") ids
  (groupLabels root).foldlM (insertEntityId sha256 fingerprint "group") ids

def profileRouteCatalog (profileId : String) (selections : Table String) (root : Mapping) :
    Except RouteFailure ProfileRouteCatalog := do
  let ids ← identifyLabels sha256 fingerprint root
  let direct ← routeNode ids "DIRECT" "Direct"
  let reject ← routeNode ids "REJECT" "Reject"
  let proxies ← ((sequence root "proxies").getD []).mapM (proxyNode ids)
  let (resolution, groups) ← routeGroups sha256 fingerprint (groupLabels root) selections ⟨ids, []⟩
    (groupValues root)
  let configured ← resolution.unresolved.mapM (routeNode resolution.ids · "Configured")
  return {
    fingerprint
    groups
    nodes := [direct, reject] ++ proxies.reduceOption ++ configured
    profileId
    routingMode := routingModeOf root }

def profileRouteCatalogFromBytes {Bytes : Type} (format : Format Bytes) (profileId : String)
    (bytes : Bytes) (selections : Table String) : Except RouteFailure ProfileRouteCatalog :=
  match (format.parse bytes).bind Value.asMapping with
  | none => .error (.error .generationFailed)
  | some root => profileRouteCatalog sha256 fingerprint profileId selections root

end

/-! ## When there is a catalog -/

section

variable {sha256 : String → String} {fingerprint : String} {ids : IdsByLabel} {label : String}

theorem insertEntityIds_ok {kind ids ids'} {labels : List String}
    (inserted : labels.foldlM (insertEntityId sha256 fingerprint kind) ids = .ok ids') :
    ids'.labels = labels.reverse ++ ids.labels ∧ labels.Nodup ∧
    ∀ label ∈ labels, label ∉ ids.labels := by
  induction labels generalizing ids with
  | nil =>
    cases inserted
    simp
  | cons label rest ih =>
    obtain ⟨between, first, inserted⟩ := bind_ok inserted
    unfold insertEntityId at first
    split at first
    · cases first
    · rename_i fresh
      cases first
      obtain ⟨labels, distinct, others⟩ := ih inserted
      simp only [IdsByLabel.labels, map_cons, mem_cons, not_or] at others labels fresh ⊢
      refine ⟨by simp [labels], ?_, ?_⟩
      · rw [nodup_cons]
        exact ⟨fun mem => (others label mem).1 rfl, distinct⟩
      · rintro other (rfl | mem)
        · exact fresh
        · exact (others other mem).2

theorem insertEntityIds_of_nodup {kind} {labels : List String}
    (distinct : labels.Nodup) (fresh : ∀ label ∈ labels, label ∉ ids.labels) :
    ∃ ids', labels.foldlM (insertEntityId sha256 fingerprint kind) ids = .ok ids' := by
  induction labels generalizing ids with
  | nil => exact ⟨ids, rfl⟩
  | cons label rest ih =>
    rw [nodup_cons] at distinct
    rw [foldlM_cons, insertEntityId, if_neg (fresh label (mem_cons_self ..))]
    apply ih distinct.2
    intro other mem
    simp only [IdsByLabel.labels, map_cons, mem_cons, not_or]
    refine ⟨?_, fresh other (mem_cons_of_mem _ mem)⟩
    rintro rfl
    exact distinct.1 mem

theorem lookup_isSome (mem : label ∈ ids.labels) : ∃ id, ids.lookup label = some id := by
  induction ids with
  | nil => cases mem
  | cons pair rest ih =>
    obtain ⟨k, v⟩ := pair
    by_cases same : label = k
    · subst same
      exact ⟨v, by simp⟩
    · rw [lookup_cons, beq_false_of_ne same]
      exact ih ((mem_cons.1 mem).resolve_left same)

theorem routeNode_of_mem (mem : label ∈ ids.labels)
    (protocol : String) : ∃ node, routeNode ids label protocol = .ok node := by
  obtain ⟨id, found⟩ := lookup_isSome mem
  unfold routeNode
  rw [found]
  exact ⟨_, rfl⟩

theorem identifierOf_of_mem (mem : label ∈ ids.labels) : ∃ id, identifierOf ids label = .ok id := by
  obtain ⟨id, found⟩ := lookup_isSome mem
  unfold identifierOf
  rw [found]
  exact ⟨id, rfl⟩

/-- What a step of the group loop keeps: labels stay, and unresolved ones have an id. -/
structure Resolution.Extends (before after : Resolution) : Prop where
  labels : before.ids.labels ⊆ after.ids.labels
  unresolved : (∀ label ∈ before.unresolved, label ∈ before.ids.labels) →
    ∀ label ∈ after.unresolved, label ∈ after.ids.labels

theorem Resolution.Extends.refl (resolution : Resolution) : resolution.Extends resolution :=
  ⟨Subset.refl _, id⟩

theorem Resolution.Extends.trans {first second third : Resolution} (one : first.Extends second)
    (two : second.Extends third) : first.Extends third :=
  ⟨Subset.trans one.labels two.labels, fun known => two.unresolved (one.unresolved known)⟩

theorem resolveChild_ok (sha256 : String → String) (fingerprint : String)
    (groupLabels : List String) (resolution : Resolution) (child : String) :
    ∃ after, resolveChild sha256 fingerprint groupLabels resolution child = .ok after ∧
    resolution.Extends after ∧ child ∈ after.ids.labels := by
  unfold resolveChild
  by_cases known : child ∈ resolution.ids.labels
  · exact ⟨resolution, by simp [known], .refl resolution, known⟩
  · simp only [known, if_false, insertEntityId]
    refine ⟨_, rfl, ⟨?_, ?_⟩, ?_⟩
    · exact subset_cons_self ..
    · intro before label mem
      simp only [IdsByLabel.labels, map_cons, mem_cons]
      rcases mem_append.1 mem with mem | mem
      · exact .inr (before label mem)
      · exact .inl (mem_singleton.1 mem)
    · exact mem_cons_self ..

theorem resolveChildren_ok (sha256 : String → String) (fingerprint : String)
    (groupLabels : List String) (resolution : Resolution) (children : List String) :
    ∃ after ids, resolveChildren sha256 fingerprint groupLabels resolution children =
    .ok (after, ids) ∧ resolution.Extends after := by
  induction children generalizing resolution with
  | nil => exact ⟨resolution, [], rfl, .refl resolution⟩
  | cons child rest ih =>
    obtain ⟨between, resolved, extended, mem⟩ :=
      resolveChild_ok sha256 fingerprint groupLabels resolution child
    obtain ⟨id, identified⟩ := identifierOf_of_mem mem
    obtain ⟨after, ids, others, extended'⟩ := ih between
    refine ⟨after, id :: ids, ?_, extended.trans extended'⟩
    simp only [resolveChildren, resolved, ok_bind, identified, others]
    rfl

theorem routeGroups_ok (sha256 : String → String) (fingerprint : String) (groupLabels : List String)
    (selections : Table String) (resolution : Resolution) (groups : List Value)
    (known : ∀ group ∈ groups, ∀ label, mappingString group "name" = some label →
    label ∈ resolution.ids.labels) :
    ∃ after made, routeGroups sha256 fingerprint groupLabels selections resolution groups =
    .ok (after, made) ∧ resolution.Extends after := by
  induction groups generalizing resolution with
  | nil => exact ⟨resolution, [], rfl, .refl resolution⟩
  | cons group rest ih =>
    have others : ∀ group ∈ rest, ∀ label, mappingString group "name" = some label →
        label ∈ resolution.ids.labels :=
      fun group mem => known group (mem_cons_of_mem _ mem)
    rw [routeGroups]
    cases named : mappingString group "name" with
    | none => exact ih resolution others
    | some label =>
      obtain ⟨between, childIds, resolved, extended⟩ :=
        resolveChildren_ok sha256 fingerprint groupLabels resolution (memberNames group)
      obtain ⟨id, identified⟩ := identifierOf_of_mem
        (extended.labels (known group (mem_cons_self ..) label named))
      obtain ⟨after, made, rest_ok, extended'⟩ := ih between
        (fun group mem label named => extended.labels (others group mem label named))
      refine ⟨after, routeGroup selections group label id childIds :: made, ?_,
        extended.trans extended'⟩
      simp only [resolved, ok_bind, identified, rest_ok]
      rfl

theorem mapM_ok {α β ε : Type} {f : α → Except ε β} {l : List α}
    (each : ∀ x ∈ l, ∃ y, f x = .ok y) : ∃ ys, l.mapM f = .ok ys := by
  induction l with
  | nil => exact ⟨[], rfl⟩
  | cons x rest ih =>
    obtain ⟨y, first⟩ := each x (mem_cons_self ..)
    obtain ⟨ys, others⟩ := ih fun z mem => each z (mem_cons_of_mem _ mem)
    refine ⟨y :: ys, ?_⟩
    rw [mapM_cons, first, ok_bind, others]
    rfl

/-- The labels that get an identifier of their own. -/
def routeLabels (root : Mapping) : List String := builtIns ++ proxyLabels root ++ groupLabels root

theorem identifyLabels_ok {root : Mapping}
    (identified : identifyLabels sha256 fingerprint root = .ok ids) :
    (routeLabels root).Nodup ∧ ∀ label ∈ routeLabels root, label ∈ ids.labels := by
  obtain ⟨ids₁, first, identified⟩ := bind_ok identified
  obtain ⟨ids₂, second, third⟩ := bind_ok identified
  obtain ⟨labels₁, distinct₁, -⟩ := insertEntityIds_ok first
  obtain ⟨labels₂, distinct₂, fresh₂⟩ := insertEntityIds_ok second
  obtain ⟨labels₃, distinct₃, fresh₃⟩ := insertEntityIds_ok third
  rw [IdsByLabel.labels_nil, append_nil] at labels₁
  rw [labels₁] at labels₂ fresh₂
  rw [labels₂] at labels₃ fresh₃
  simp only [mem_append, mem_reverse, not_or] at fresh₂ fresh₃
  constructor
  · simp only [routeLabels, nodup_append, mem_append]
    refine ⟨⟨distinct₁, distinct₂, ?_⟩, distinct₃, ?_⟩
    · rintro label builtIn other mem rfl
      exact fresh₂ label mem builtIn
    · rintro label mem other group rfl
      exact mem.elim (fresh₃ label group).2 (fresh₃ label group).1
  · intro label mem
    simp only [routeLabels, mem_append] at mem
    simp only [labels₃, mem_append, mem_reverse]
    rcases mem with (builtIn | proxy) | group
    · exact .inr (.inr builtIn)
    · exact .inr (.inl proxy)
    · exact .inl group

theorem identifyLabels_of_nodup (sha256 : String → String) (fingerprint : String) {root : Mapping}
    (distinct : (routeLabels root).Nodup) :
    ∃ ids, identifyLabels sha256 fingerprint root = .ok ids := by
  simp only [routeLabels, nodup_append, mem_append] at distinct
  obtain ⟨⟨distinct₁, distinct₂, apart₂⟩, distinct₃, apart₃⟩ := distinct
  unfold identifyLabels
  obtain ⟨ids₁, first⟩ :
      ∃ ids, builtIns.foldlM (insertEntityId sha256 fingerprint "proxy") [] = .ok ids :=
    insertEntityIds_of_nodup distinct₁ (by simp)
  have labels₁ := (insertEntityIds_ok first).1
  rw [IdsByLabel.labels_nil, append_nil] at labels₁
  obtain ⟨ids₂, second⟩ : ∃ ids,
      (proxyLabels root).foldlM (insertEntityId sha256 fingerprint "proxy") ids₁ = .ok ids := by
    apply insertEntityIds_of_nodup distinct₂
    intro label mem builtIn
    rw [labels₁, mem_reverse] at builtIn
    exact apart₂ label builtIn label mem rfl
  have labels₂ := (insertEntityIds_ok second).1
  rw [first, ok_bind, second, ok_bind]
  apply insertEntityIds_of_nodup distinct₃
  intro label mem known
  rw [labels₂, labels₁, mem_append, mem_reverse, mem_reverse] at known
  exact apart₃ label known.symm label mem rfl

/-- There is a catalog exactly if no two labels are one. -/
theorem profileRouteCatalog_isOk_iff (sha256 : String → String) (fingerprint profileId : String)
    (selections : Table String) (root : Mapping) :
    (∃ catalog, profileRouteCatalog sha256 fingerprint profileId selections root = .ok catalog) ↔
    (routeLabels root).Nodup := by
  constructor
  · rintro ⟨catalog, made⟩
    obtain ⟨ids, identified, -⟩ := bind_ok made
    exact (identifyLabels_ok identified).1
  · intro distinct
    obtain ⟨ids, identified⟩ := identifyLabels_of_nodup sha256 fingerprint distinct
    have known := (identifyLabels_ok identified).2
    obtain ⟨direct, direct_ok⟩ :=
      routeNode_of_mem (known "DIRECT" (by simp [routeLabels, builtIns])) "Direct"
    obtain ⟨reject, reject_ok⟩ :=
      routeNode_of_mem (known "REJECT" (by simp [routeLabels, builtIns])) "Reject"
    obtain ⟨proxies, proxies_ok⟩ :
        ∃ nodes, ((sequence root "proxies").getD []).mapM (proxyNode ids) = .ok nodes := by
      apply mapM_ok
      intro proxy mem
      unfold proxyNode
      split
      · exact ⟨none, rfl⟩
      · rename_i label named
        have listed : label ∈ proxyLabels root := mem_filterMap.2 ⟨proxy, mem, named⟩
        obtain ⟨node, made⟩ := routeNode_of_mem
          (known label (by simp [routeLabels, listed])) ((mappingString proxy "type").getD "Proxy")
        exact ⟨some node, by rw [made, ok_bind]; rfl⟩
    obtain ⟨resolution, groups, groups_ok, extended⟩ := routeGroups_ok sha256 fingerprint
      (groupLabels root) selections ⟨ids, []⟩ (groupValues root) (by
        intro group mem label named
        have listed : label ∈ groupLabels root := mem_filterMap.2 ⟨group, mem, named⟩
        exact known label (by simp [routeLabels, listed]))
    obtain ⟨configured, configured_ok⟩ :
        ∃ nodes, resolution.unresolved.mapM (routeNode resolution.ids · "Configured") =
          .ok nodes := by
      apply mapM_ok
      intro label mem
      exact routeNode_of_mem (extended.unresolved (by simp) label mem) _
    unfold profileRouteCatalog
    simp only [identified, ok_bind, direct_ok, reject_ok, proxies_ok, groups_ok, configured_ok]
    exact ⟨_, rfl⟩

end

end Mish.Profile
