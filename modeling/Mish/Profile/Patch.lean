import Mathlib.Data.List.Dedup
import Mish.Data.Text
import Mish.Graph.DepthFirst
import Mish.Profile.Model
import Mish.Yaml.Value

/-!
# Profile patches

The typed changes a user makes to a profile: how a set of them is checked and applied.
Entities and rules are addressed by a digest of what they are. The digest stays a
parameter, `sha256`, in hexadecimal; so does the text format of documents (`Format`).
-/

namespace Mish.Profile

open Yaml

abbrev Fingerprint := String

abbrev RevisionId := String

/-- A text format of documents that reads back what it writes. -/
structure Format (Bytes : Type) where
  parse : Bytes → Option Value
  serialize : Value → Option Bytes
  fingerprint : Bytes → Fingerprint
  parse_serialize : ∀ document bytes, serialize document = some bytes → parse bytes = some document

def profilePatchSchemaVersion : Nat := 1
def maxProfilePatches : Nat := 128
def maxLabelLength : Nat := 256
def maxRuleValueLength : Nat := 1024

inductive RuleInsertPosition where
  | prefix_ | suffix
  deriving DecidableEq

inductive CommonRuleType where
  | domain | domainSuffix | domainKeyword | ipCidr | ipCidr6 | geoIp | geoSite | processName
  deriving DecidableEq

def CommonRuleType.mihomoName : CommonRuleType → String
  | .domain => "DOMAIN"
  | .domainSuffix => "DOMAIN-SUFFIX"
  | .domainKeyword => "DOMAIN-KEYWORD"
  | .ipCidr => "IP-CIDR"
  | .ipCidr6 => "IP-CIDR6"
  | .geoIp => "GEOIP"
  | .geoSite => "GEOSITE"
  | .processName => "PROCESS-NAME"

def CommonRuleType.supportsNoResolve : CommonRuleType → Bool
  | .ipCidr | .ipCidr6 | .geoIp => true
  | _ => false

inductive StructuredRule where
  | match_ (targetId : String)
  | ruleSet (noResolve : Bool) (providerId targetId : String)
  | standard (noResolve : Bool) (ruleType : CommonRuleType) (targetId value : String)
  deriving DecidableEq

def StructuredRule.targetId : StructuredRule → String
  | .match_ targetId | .ruleSet _ _ targetId | .standard _ _ targetId _ => targetId

inductive ProfilePatchOperation where
  | ruleInsert (position : RuleInsertPosition) (rule : StructuredRule)
  | ruleDisable (ruleId : String)
  | ruleDelete (ruleId : String)
  | groupAdd (label : String) (memberIds : List String)
  | groupMembers (groupId : String) (memberIds : List String)
  | groupReorder (groupIds : List String)
  deriving DecidableEq

structure ProfilePatch where
  enabled : Bool
  id : String
  operation : ProfilePatchOperation
  deriving DecidableEq

structure ProfilePatchSet where
  effectiveFingerprint : Fingerprint
  patches : List ProfilePatch
  schemaVersion : Nat
  sourceFingerprint : Fingerprint
  sourceRevision : RevisionId
  deriving DecidableEq

def ProfilePatchSet.isBoundTo (patchSet : ProfilePatchSet) (revision : RevisionId)
    (fingerprint : Fingerprint) : Bool :=
  patchSet.sourceRevision == revision && patchSet.sourceFingerprint == fingerprint

inductive ProfilePatchError where
  | unsupportedSchema | staleAuthority | invalidPatch | validationFailed | generationFailed

/-! ## The shape of a patch set -/

def isHexDigit (c : Char) : Bool :=
  ('0' ≤ c && c ≤ '9') || ('a' ≤ c && c ≤ 'f') || ('A' ≤ c && c ≤ 'F')

def isHyphenatedUuid (text : List Char) : Bool :=
  text.length == 36 && text.zipIdx.all fun (c, i) =>
    if i ∈ [8, 13, 18, 23] then c == '-' else isHexDigit c

/-- What `Uuid::parse_str` takes: the plain, the hyphenated, the braced and the URN
spelling, in either case. -/
def isUuid (value : String) : Bool :=
  let text := value.toList
  (text.length == 32 && text.all isHexDigit) || isHyphenatedUuid text ||
    (text.head? == some '\x7b' && text.getLast? == some '\x7d' &&
      isHyphenatedUuid (text.drop 1).dropLast) ||
    ("urn:uuid:".toList.isPrefixOf text && isHyphenatedUuid (text.drop 9))

def validateLabel (label : String) : Except ProfilePatchError Unit :=
  if label.toList.isEmpty || maxLabelLength < label.toList.length || hasControl label
  then .error .invalidPatch
  else .ok ()

def validateRuleValue (value : String) : Except ProfilePatchError Unit :=
  if value.toList.isEmpty || maxRuleValueLength < value.toList.length ||
    value.toList.contains ',' || hasControl value
  then .error .invalidPatch
  else .ok ()

def validateEntityId (id : String) : Except ProfilePatchError Unit :=
  if id.toList.length == 64 && id.toList.all fun c => ('0' ≤ c && c ≤ '9') || ('a' ≤ c && c ≤ 'f')
  then .ok ()
  else .error .invalidPatch

def validateIds (ids : List String) : Except ProfilePatchError Unit := do
  if 1024 < ids.length then throw .invalidPatch
  ids.forM validateEntityId
  if ¬ ids.Nodup then throw .invalidPatch

def validateStructuredRule : StructuredRule → Except ProfilePatchError Unit
  | .match_ targetId => validateEntityId targetId
  | .ruleSet _ providerId targetId => do
    validateEntityId providerId
    validateEntityId targetId
  | .standard noResolve ruleType targetId value => do
    validateEntityId targetId
    if noResolve && !ruleType.supportsNoResolve then throw .invalidPatch
    validateRuleValue value

def validateOperation : ProfilePatchOperation → Except ProfilePatchError Unit
  | .ruleInsert _ rule => validateStructuredRule rule
  | .ruleDisable ruleId | .ruleDelete ruleId => validateEntityId ruleId
  | .groupAdd label memberIds => do
    validateLabel label
    validateIds memberIds
    if memberIds.isEmpty then throw .invalidPatch
  | .groupMembers groupId memberIds => do
    validateEntityId groupId
    validateIds memberIds
    if memberIds.isEmpty then throw .invalidPatch
  | .groupReorder groupIds => validateIds groupIds

/-- Every failure past the schema is `InvalidPatch`, so that the ids may be compared
after the loop. -/
def validatePatchSetShape (patchSet : ProfilePatchSet) : Except ProfilePatchError Unit := do
  if patchSet.schemaVersion ≠ profilePatchSchemaVersion then throw .unsupportedSchema
  if maxProfilePatches < patchSet.patches.length then throw .invalidPatch
  patchSet.patches.forM fun patch => do
    if ¬ isUuid patch.id then throw .invalidPatch
    validateOperation patch.operation
  if ¬ (patchSet.patches.map ProfilePatch.id).Nodup then throw .invalidPatch

/-! ## The catalog -/

inductive PatchEntityKind where
  | builtIn | policyGroup | proxy | ruleProvider

structure CatalogEntity where
  id : String
  kind : PatchEntityKind
  label : String

structure CatalogGroup where
  (id label : String)
  memberIds : List String
  position : Nat
  supported : Bool

structure CatalogRule where
  (id line : String)
  position : Nat
  (ruleType target : String)

/-- A hash map, by the pairs it was collected from. -/
abbrev Table (β : Type) := List (String × β)

/-- Of two pairs with one key the later stands. -/
def Table.get {β : Type} (table : Table β) (key : String) : Option β := table.reverse.lookup key

structure PatchCatalog where
  (entityLabels groupLabels : Table String)
  groups : List CatalogGroup
  providerLabels : Table String
  rules : List CatalogRule

variable (root : Mapping) (patches : List ProfilePatch) (catalog : PatchCatalog)

def sequence (key : String) : Option (List Value) :=
  (root.get (.string key)).bind Value.asSequence

def mapping (key : String) : Option Mapping :=
  (root.get (.string key)).bind Value.asMapping

def mappingString (value : Value) (key : String) : Option String :=
  (value.asMapping.bind (·.get (.string key))).bind Value.asStr

def builtIns : List String := ["DIRECT", "REJECT"]

def proxyLabels : List String :=
  ((sequence root "proxies").getD []).filterMap (mappingString · "name")

def groupValues : List Value := (sequence root "proxy-groups").getD []

def groupLabels : List String :=
  (groupValues root).filterMap (mappingString · "name")

/-- The strings among a group's `proxies`. -/
def memberNames (group : Value) : List String :=
  (((group.asMapping.bind (·.get (.string "proxies"))).bind Value.asSequence).getD []).filterMap
    Value.asStr

def ruleValues : List Value := (sequence root "rules").getD []

section

variable (sha256 : String → String)

def entityId (kind label : String) : String := sha256 (kind ++ "\x00" ++ label)

def ruleId (line : String) (position : Nat) : String :=
  sha256 ("rule\x00" ++ toString position ++ "\x00" ++ line)

def catalogEntities (root : Mapping) : List CatalogEntity :=
  builtIns.map (fun label => ⟨entityId sha256 "built-in" label, .builtIn, label⟩) ++
    (proxyLabels root).map (fun label => ⟨entityId sha256 "proxy" label, .proxy, label⟩) ++
    (groupLabels root).map (fun label => ⟨entityId sha256 "group" label, .policyGroup, label⟩)

def catalogGroup (labelIds : Table String) : Value × Nat → Option CatalogGroup
  | (group, position) => do
    let label ← mappingString group "name"
    let groupType := (mappingString group "type").getD ""
    some {
      id := entityId sha256 "group" label
      label
      memberIds := (memberNames group).filterMap labelIds.get
      position
      supported := ["select", "url-test", "fallback", "load-balance"].contains groupType &&
        (group.asMapping.bind (·.get (.string "proxies"))).any Value.isSequence }

/-- `line.split(',')` -/
def ruleParts (line : String) : List String := (line.toList.splitOn ',').map String.ofList

def supportedRuleTypes : List String :=
  ["DOMAIN", "DOMAIN-SUFFIX", "DOMAIN-KEYWORD", "IP-CIDR", "IP-CIDR6", "GEOIP", "GEOSITE",
    "PROCESS-NAME", "RULE-SET", "MATCH"]

def catalogRule (labelIds : Table String) : Value × Nat → Option CatalogRule
  | (value, position) => do
    let line ← value.asStr
    let parts := ruleParts line
    let sourceRuleType := parts.head?.getD ""
    let supportedRuleType := supportedRuleTypes.contains sourceRuleType
    let candidateTarget :=
      if sourceRuleType = "MATCH" then parts[1]?
      else if supportedRuleType then parts[2]?
      else none
    some {
      id := ruleId sha256 line position
      line
      position
      ruleType := if supportedRuleType then sourceRuleType else "OTHER"
      target := (candidateTarget.filter fun label => (labelIds.get label).isSome).getD
        "unavailable" }

def buildCatalog (root : Mapping) : Except ProfilePatchError PatchCatalog :=
  let entities := catalogEntities sha256 root
  -- the map of labels by id is smaller than the list where two ids are one
  if ¬ (entities.map CatalogEntity.id).Nodup then .error .generationFailed
  else
    let labelIds : Table String := entities.map fun entity => (entity.label, entity.id)
    let groups := (groupValues root).zipIdx.filterMap (catalogGroup sha256 labelIds)
    .ok {
      entityLabels := entities.map fun entity => (entity.id, entity.label)
      groupLabels := groups.map fun group => (group.id, group.label)
      groups
      providerLabels := (((mapping root "rule-providers").getD []).filterMap (·.1.asStr)).map
        fun key => (entityId sha256 "rule-provider" key, key)
      rules := (ruleValues root).zipIdx.filterMap (catalogRule sha256 labelIds) }

end

/-! ## Evaluating patches against the catalog -/

inductive PatchValidationResult where
  | valid | stale | invalid
  deriving DecidableEq

inductive PatchValidationCode where
  | valid | disabled | revisionMismatch | targetMissing | duplicateTarget | duplicateLabel
  | unsafeReference | invalidValue | invalidOrder | semanticConflict

inductive PatchActivationImpact where
  | insertRule | excludeRule | addGroup | replaceGroupMembers | reorderGroups | noChange
  | blocksActivation

structure EvaluatedPatch where
  activationImpact : PatchActivationImpact
  code : PatchValidationCode
  result : PatchValidationResult
  target : String

def allEntitiesExist (ids : List String) (catalog : PatchCatalog) : Bool :=
  ids.all fun id => (catalog.entityLabels.get id).isSome

def validateRuleReferences (rule : StructuredRule) (catalog : PatchCatalog) :
    Except PatchValidationCode Unit :=
  if (catalog.entityLabels.get rule.targetId).isNone then .error .unsafeReference
  else
    match rule with
    | .ruleSet _ providerId _ =>
      if (catalog.providerLabels.get providerId).isNone then .error .unsafeReference else .ok ()
    | _ => .ok ()

def patchTarget (patch : ProfilePatch) (catalog : PatchCatalog) : String :=
  match patch.operation with
  | .ruleInsert .prefix_ _ => "Rules · prefix"
  | .ruleInsert .suffix _ => "Rules · suffix"
  | .ruleDisable ruleId | .ruleDelete ruleId =>
    match catalog.rules.find? (·.id = ruleId) with
    | some rule => "Rule " ++ toString (rule.position + 1) ++ " · " ++ rule.ruleType ++ " → " ++
        rule.target
    | none => "Rule · unavailable"
  | .groupAdd label _ => label
  | .groupMembers groupId _ =>
    (catalog.groupLabels.get groupId).getD "Policy group · unavailable"
  | .groupReorder _ => "Policy groups"

def groupIds : List String := catalog.groups.map CatalogGroup.id

/-- The members of each group among the groups, the latest entry first. -/
def resultingMembers : List (String × List String) :=
  let among (ids : List String) := ids.filter (· ∈ groupIds catalog)
  (patches.filter ProfilePatch.enabled).foldl
    (fun members patch =>
      match patch.operation with
      | .groupMembers groupId memberIds => (groupId, among memberIds) :: members
      | _ => members)
    (catalog.groups.map fun group => (group.id, among group.memberIds)).reverse

/-- The source visits the groups in the order of a hash map. -/
def resultingGroupGraphHasCycle : Bool :=
  let members := resultingMembers patches catalog
  DepthFirst.hasCycle (fun id => (members.lookup id).getD []) (members.map Prod.fst)

/-- What the evaluation of the earlier patches has seen. -/
structure Seen where
  (ruleTargets groupTargets addedLabels : List String)
  reorderSeen : Bool

def Seen.nothing : Seen := ⟨[], [], [], false⟩

abbrev Verdict := PatchValidationResult × PatchValidationCode × PatchActivationImpact

def blocked (result : PatchValidationResult) (code : PatchValidationCode) : Verdict :=
  (result, code, .blocksActivation)

def evaluateOperation (groupMembersConflict : Bool) (seen : Seen)
    (patch : ProfilePatch) : Verdict × Seen :=
  match patch.operation with
  | .ruleInsert _ rule =>
    match validateRuleReferences rule catalog with
    | .ok () => ((.valid, .valid, .insertRule), seen)
    | .error code => (blocked .stale code, seen)
  | .ruleDisable ruleId | .ruleDelete ruleId =>
    if ¬ catalog.rules.any (·.id = ruleId) then (blocked .stale .targetMissing, seen)
    else if ruleId ∈ seen.ruleTargets then (blocked .invalid .duplicateTarget, seen)
    else ((.valid, .valid, .excludeRule), { seen with ruleTargets := ruleId :: seen.ruleTargets })
  | .groupAdd label memberIds =>
    if catalog.groups.any (·.label = label) then (blocked .invalid .duplicateLabel, seen)
    else if label ∈ seen.addedLabels then (blocked .invalid .duplicateLabel, seen)
    else
      let seen := { seen with addedLabels := label :: seen.addedLabels }
      if ¬ allEntitiesExist memberIds catalog then (blocked .stale .unsafeReference, seen)
      else ((.valid, .valid, .addGroup), seen)
  | .groupMembers groupId memberIds =>
    match catalog.groups.find? (·.id = groupId) with
    | none => (blocked .stale .targetMissing, seen)
    | some group =>
      if !group.supported || (patch.enabled && groupMembersConflict) then
        (blocked .invalid .semanticConflict, seen)
      else if groupId ∈ seen.groupTargets then (blocked .invalid .duplicateTarget, seen)
      else
        let seen := { seen with groupTargets := groupId :: seen.groupTargets }
        if ¬ allEntitiesExist memberIds catalog then (blocked .stale .unsafeReference, seen)
        else ((.valid, .valid, .replaceGroupMembers), seen)
  | .groupReorder ids =>
    if seen.reorderSeen ∨ ¬ (ids ⊆ groupIds catalog ∧ groupIds catalog ⊆ ids) ∨
      ids.length ≠ (groupIds catalog).dedup.length then (blocked .invalid .invalidOrder, seen)
    else ((.valid, .valid, .reorderGroups), { seen with reorderSeen := true })

def evaluateFrom (catalog : PatchCatalog) (groupMembersConflict : Bool) :
    Seen → List ProfilePatch → List EvaluatedPatch
  | _, [] => []
  | seen, patch :: rest =>
    let ((result, code, impact), seen) := evaluateOperation catalog groupMembersConflict seen patch
    ⟨impact, code, result, patchTarget patch catalog⟩ ::
      evaluateFrom catalog groupMembersConflict seen rest

def evaluatePatches (bound : Bool) : List EvaluatedPatch :=
  if !bound then
    patches.map fun patch =>
      ⟨.blocksActivation, .revisionMismatch, .stale, patchTarget patch catalog⟩
  else
    evaluateFrom catalog (resultingGroupGraphHasCycle patches catalog) .nothing patches

/-! ## Applying patches -/

def entityLabel (id : String) : Except ProfilePatchError String :=
  match catalog.entityLabels.get id with
  | some label => .ok label
  | none => .error .validationFailed

def noResolveSuffix (noResolve : Bool) : String := if noResolve then ",no-resolve" else ""

def serializeRule (rule : StructuredRule) (catalog : PatchCatalog) :
    Except ProfilePatchError String :=
  match rule with
  | .match_ targetId => do return "MATCH," ++ (← entityLabel catalog targetId)
  | .ruleSet noResolve providerId targetId =>
    match catalog.providerLabels.get providerId with
    | none => .error .validationFailed
    | some provider => do
      return "RULE-SET," ++ provider ++ "," ++ (← entityLabel catalog targetId) ++
        noResolveSuffix noResolve
  | .standard noResolve ruleType targetId value => do
    return ruleType.mihomoName ++ "," ++ value ++ "," ++ (← entityLabel catalog targetId) ++
      noResolveSuffix noResolve

/-- What the enabled patches do to the rules. -/
structure RuleEdits where
  excluded : List String
  (prefix_ suffix : List Value)

def collectRuleEdit (edits : RuleEdits) (patch : ProfilePatch) :
    Except ProfilePatchError RuleEdits :=
  match patch.operation with
  | .ruleDisable ruleId | .ruleDelete ruleId =>
    .ok { edits with excluded := edits.excluded ++ [ruleId] }
  | .ruleInsert position rule => do
    let line ← serializeRule rule catalog
    match position with
    | .prefix_ => return { edits with prefix_ := edits.prefix_ ++ [.string line] }
    | .suffix => return { edits with suffix := edits.suffix ++ [.string line] }
  | _ => .ok edits

def applyRulePatches (root : Mapping) (catalog : PatchCatalog) (patches : List ProfilePatch) :
    Except ProfilePatchError Mapping := do
  let edits ← (patches.filter ProfilePatch.enabled).foldlM (collectRuleEdit catalog) ⟨[], [], []⟩
  if edits.excluded.isEmpty && edits.prefix_.isEmpty && edits.suffix.isEmpty then
    return root
  let kept := (catalog.rules.filter fun rule => rule.id ∉ edits.excluded).map
    fun rule => Value.string rule.line
  return root.insert (.string "rules") (.sequence (edits.prefix_ ++ kept ++ edits.suffix))

def memberLabels (ids : List String) (catalog : PatchCatalog) :
    Except ProfilePatchError (List Value) :=
  ids.mapM fun id => do return Value.string (← entityLabel catalog id)

def sourceById : Table Nat :=
  catalog.groups.map fun group => (group.id, group.position)

/-- The groups as the enabled patches so far leave them. -/
structure GroupEdits where
  (groups added : List Value)
  reorder : Option (List String)

def addedGroup (label : String) (members : List Value) : Value :=
  .mapping [(.string "name", .string label), (.string "type", .string "select"),
    (.string "proxies", .sequence members)]

/-- A group with other members. -/
def withMembers (members : List Value) (group : Value) : Value :=
  group.modifyMapping (·.insert (.string "proxies") (.sequence members))

def collectGroupEdit (edits : GroupEdits) (patch : ProfilePatch) :
    Except ProfilePatchError GroupEdits :=
  match patch.operation with
  | .groupAdd label memberIds => do
    let members ← memberLabels memberIds catalog
    return { edits with added := edits.added ++ [addedGroup label members] }
  | .groupMembers groupId memberIds =>
    match (sourceById catalog).get groupId with
    | none => .error .validationFailed
    | some position =>
      match edits.groups[position]? with
      | none => .error .generationFailed
      | some group =>
        if ¬ group.isMapping then .error .generationFailed
        else do
          let members ← memberLabels memberIds catalog
          return { edits with groups := edits.groups.set position (withMembers members group) }
  | .groupReorder groupIds => .ok { edits with reorder := some groupIds }
  | _ => .ok edits

def reorderGroups (groups : List Value) (ids : List String) :
    Except ProfilePatchError (List Value) :=
  ids.mapM fun id =>
    match ((sourceById catalog).get id).bind (groups[·]?) with
    | some group => .ok group
    | none => .error .validationFailed

def arrangeGroups (edits : GroupEdits) : Except ProfilePatchError (List Value) :=
  match edits.reorder with
  | some ids => reorderGroups catalog edits.groups ids
  | none => .ok edits.groups

def applyGroupPatches (root : Mapping) (catalog : PatchCatalog) (patches : List ProfilePatch) :
    Except ProfilePatchError Mapping := do
  let edits ← (patches.filter ProfilePatch.enabled).foldlM (collectGroupEdit catalog)
    ⟨groupValues root, [], none⟩
  let groups ← arrangeGroups catalog edits
  return root.insert (.string "proxy-groups") (.sequence (groups ++ edits.added))

structure AppliedProfilePatches (Bytes : Type) where
  bytes : Bytes
  effectiveFingerprint : Fingerprint

section

variable {Bytes : Type} (format : Format Bytes) (sha256 : String → String)

/-- The part of `apply_profile_patches` that works on the parsed document. -/
def patchDocument (patches : List ProfilePatch) (document : Value) :
    Except ProfilePatchError Value :=
  match document.asMapping with
  | none => .error .generationFailed
  | some root => do
    let catalog ← buildCatalog sha256 root
    if (evaluatePatches patches catalog true).any (·.result ≠ .valid) then
      throw .validationFailed
    let root ← applyRulePatches root catalog patches
    let root ← applyGroupPatches root catalog patches
    return document.modifyMapping fun _ => root

def applyProfilePatches (normalizedSource : Bytes) (revision : RevisionId)
    (sourceFingerprint : Fingerprint) (patchSet : ProfilePatchSet) :
    Except ProfilePatchError (AppliedProfilePatches Bytes) := do
  validatePatchSetShape patchSet
  if !patchSet.isBoundTo revision sourceFingerprint then throw .staleAuthority
  if patchSet.patches.isEmpty then return ⟨normalizedSource, sourceFingerprint⟩
  match format.parse normalizedSource with
  | none => throw .generationFailed
  | some document =>
    let document ← patchDocument sha256 patchSet.patches document
    match format.serialize document with
    | none => throw .generationFailed
    | some bytes =>
      let effectiveFingerprint := format.fingerprint bytes
      if patchSet.effectiveFingerprint = "" ∨ patchSet.effectiveFingerprint = sourceFingerprint then
        return ⟨bytes, effectiveFingerprint⟩
      if patchSet.effectiveFingerprint ≠ effectiveFingerprint then throw .validationFailed
      return ⟨bytes, effectiveFingerprint⟩

end

end Mish.Profile
