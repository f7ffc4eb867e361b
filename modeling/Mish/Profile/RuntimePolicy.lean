import Mathlib.Data.List.Basic
import Mish.Yaml.Value

/-!
# The runtime policy

Which fields of a source profile the application and the platform manage, and how
they are written: `normalizeSourcePolicy` when a profile is imported, without values,
and `applyRuntimePolicy` when its runtime document is made.
-/

namespace Mish.Profile
open Yaml List

inductive PolicyOwner where
  | source | applicationPolicy | platformIntegration

inductive PolicyDisposition where
  | preserved | applicationOverridden | platformOverridden | disabled | rejected

inductive PolicyReason where
  | portableSourcePolicy | unknownKeyPreserved | managedProxyIngress | loopbackOnlyBinding
  | privateController | managedRuntimeBehavior | captureRequiresExplicitPermission
  | passiveInspectionOnly | runtimePersistenceDisabled | dnsIntegrationManaged
  | externalSurfaceDisabled | deviceIntegrationUnsafe | providerPathUnsafe | relativeProviderPath

inductive ActivationImpact where
  | preservedInEffectiveRuntime | replacedByApplicationValue | replacedByPlatformValue | forcedOff
  | blocksImport | excludedFromEffectiveRuntime

structure PolicyClassification where
  activationImpact : ActivationImpact
  disposition : PolicyDisposition
  fieldIdentity : String
  owner : PolicyOwner
  reason : PolicyReason
  sourcePresent : Bool

inductive PolicyViolationKind where
  | invalidManagedShape | unsafeDeviceIntegration | unsafeProviderPath

structure PolicyViolation where
  fieldIdentity : String
  kind : PolicyViolationKind

structure ManagedRuntimeValues where
  (controllerAddress controllerSecret : String)
  mixedPort : UInt16
  (proxyHost processDiscoveryMode : String)
  tunEnabled : Bool

/-! ## The rules -/

inductive RuleOperation where
  | remove | setZero | setMixedPort | setFalse | setProxyHost | setController | setSecret
  | setProcessDiscoveryMode | setWarning | setRule | setEmptySequence | setManagedTun
  deriving DecidableEq

structure ManagedFieldRule where
  fieldIdentity : String
  owner : PolicyOwner
  disposition : PolicyDisposition
  reason : PolicyReason
  activationImpact : ActivationImpact
  operation : RuleOperation

variable (fieldIdentity : String) (rule : ManagedFieldRule) (field : String)
  (written : Option (Option Value)) {document : Value} {items : List PolicyClassification}
  {root : Mapping}

def app (reason : PolicyReason) (operation : RuleOperation) : ManagedFieldRule where
  fieldIdentity := fieldIdentity
  owner := .applicationPolicy
  disposition := .applicationOverridden
  reason := reason
  activationImpact := .replacedByApplicationValue
  operation := operation

def appRemove (reason : PolicyReason) : ManagedFieldRule :=
  { app fieldIdentity reason .remove with
    activationImpact := .excludedFromEffectiveRuntime
    operation := .remove }

def appNested (reason : PolicyReason) (operation : RuleOperation) : ManagedFieldRule :=
  app fieldIdentity reason operation

def platform (disposition : PolicyDisposition) (reason : PolicyReason)
    (activationImpact : ActivationImpact) (operation : RuleOperation) : ManagedFieldRule where
  fieldIdentity := fieldIdentity
  owner := .platformIntegration
  disposition := disposition
  reason := reason
  activationImpact := activationImpact
  operation := operation

def applicationRules : List ManagedFieldRule :=
  [ app "port" .managedProxyIngress .setZero,
    app "socks-port" .managedProxyIngress .setZero,
    app "redir-port" .managedProxyIngress .setZero,
    app "tproxy-port" .managedProxyIngress .setZero,
    app "mixed-port" .managedProxyIngress .setMixedPort,
    app "allow-lan" .loopbackOnlyBinding .setFalse,
    app "bind-address" .loopbackOnlyBinding .setProxyHost,
    appRemove "authentication" .loopbackOnlyBinding,
    appRemove "skip-auth-prefixes" .loopbackOnlyBinding,
    appRemove "lan-allowed-ips" .loopbackOnlyBinding,
    appRemove "lan-disallowed-ips" .loopbackOnlyBinding,
    app "external-controller" .privateController .setController,
    app "secret" .privateController .setSecret,
    appRemove "external-controller-tls" .externalSurfaceDisabled,
    appRemove "external-controller-unix" .externalSurfaceDisabled,
    appRemove "external-controller-pipe" .externalSurfaceDisabled,
    appRemove "external-controller-cors" .externalSurfaceDisabled,
    appRemove "external-ui" .externalSurfaceDisabled,
    appRemove "external-ui-name" .externalSurfaceDisabled,
    appRemove "external-ui-url" .externalSurfaceDisabled,
    appRemove "external-doh-server" .externalSurfaceDisabled,
    app "mode" .managedRuntimeBehavior .setRule,
    app "log-level" .managedRuntimeBehavior .setWarning,
    app "find-process-mode" .managedRuntimeBehavior .setProcessDiscoveryMode,
    appNested "profile.store-fake-ip" .runtimePersistenceDisabled .setFalse ]

def platformRules : List ManagedFieldRule :=
  [ platform "listeners" .rejected .deviceIntegrationUnsafe .blocksImport .setEmptySequence,
    platform "interface-name" .rejected .deviceIntegrationUnsafe .blocksImport .remove,
    platform "routing-mark" .rejected .deviceIntegrationUnsafe .blocksImport .remove,
    platform "tun" .platformOverridden .captureRequiresExplicitPermission
      .excludedFromEffectiveRuntime .setManagedTun,
    platform "sniffer.enable" .disabled .passiveInspectionOnly .forcedOff .setFalse,
    platform "dns.listen" .platformOverridden .dnsIntegrationManaged
      .excludedFromEffectiveRuntime .remove ]

/-- `APPLICATION_RULES.iter().chain(PLATFORM_RULES)` -/
def managedRules : List ManagedFieldRule := applicationRules ++ platformRules

def portableRootKeys : List String :=
  [ "proxies", "proxy-groups", "proxy-providers", "rules", "rule-providers", "sub-rules", "dns",
    "hosts", "sniffer", "tun", "profile", "geodata-mode", "geodata-loader", "geo-auto-update",
    "geo-update-interval", "geox-url", "unified-delay", "tcp-concurrent",
    "global-client-fingerprint", "global-ua", "ntp", "keep-alive-interval", "keep-alive-idle",
    "disable-keep-alive" ]

/-- `field_identity.split('.')` -/
def ManagedFieldRule.parts : List String :=
  (rule.fieldIdentity.toList.splitOn '.').map String.ofList

/-! ## Applying the rules -/

def managedTun (enabled : Bool) : Value :=
  .mapping ((.string "enable", .bool enabled) ::
    if enabled then
      [ (.string "stack", .string "gvisor"),
        (.string "dns-hijack", .sequence [.string "any:53"]),
        (.string "auto-route", .bool true),
        (.string "auto-detect-interface", .bool true),
        (.string "strict-route", .bool true) ]
    else [])

/-- What a rule for a root field writes; `none` where it removes the field. -/
def RuleOperation.rootValue (values : ManagedRuntimeValues) : RuleOperation → Option Value
  | .remove => none
  | .setZero => some (.number 0)
  | .setMixedPort => some (.number values.mixedPort.toNat)
  | .setFalse => some (.bool false)
  | .setProxyHost => some (.string values.proxyHost)
  | .setController => some (.string values.controllerAddress)
  | .setSecret => some (.string values.controllerSecret)
  | .setProcessDiscoveryMode => some (.string values.processDiscoveryMode)
  | .setWarning => some (.string "warning")
  | .setRule => some (.string "rule")
  | .setEmptySequence => some (.sequence [])
  | .setManagedTun => some (managedTun values.tunEnabled)

def applyRootRule (root : Mapping) (rule : ManagedFieldRule)
    (values : Option ManagedRuntimeValues) : Mapping :=
  match values.bind rule.operation.rootValue with
  | none => root.remove (.string rule.fieldIdentity)
  | some value => root.insert (.string rule.fieldIdentity) value

/-- What a rule for a nested field writes: `none` where it leaves the field,
`some none` where it removes it. -/
def RuleOperation.nestedValue : RuleOperation → Option ManagedRuntimeValues →
    Option (Option Value)
  | .remove, _ => some none
  | .setFalse, _ => some (some (.bool false))
  | _, none => some none
  | _, some _ => none

def writeNested (m : Mapping) : Mapping :=
  match written with
  | none => m
  | some none => m.remove (.string field)
  | some (some value) => m.insert (.string field) value

def applyNestedRule (root : Mapping) (section_ field : String) (rule : ManagedFieldRule)
    (values : Option ManagedRuntimeValues) : Mapping :=
  match values, root.get (.string section_) with
  | none, none => root
  | values, found =>
    root.insert (.string section_) ((found.getD (.mapping [])).modifyMapping
      (writeNested field (rule.operation.nestedValue values)))

def applyRule (values : Option ManagedRuntimeValues) (root : Mapping) (rule : ManagedFieldRule) :
    Mapping :=
  match rule.parts with
  | section_ :: field :: _ => applyNestedRule root section_ field rule values
  | _ => applyRootRule root rule values

def applyRules (root : Mapping) (rules : List ManagedFieldRule)
    (values : Option ManagedRuntimeValues) : Mapping :=
  rules.foldl (applyRule values) root

/-! ## Checks and reviews -/

/-- On Unix the components of a path are what `/` separates, and a leading `/` is the
root. The checks of `Path` find nothing there that the other three do not. -/
def unsafeProviderPath (value : String) : Bool :=
  let path := value.toList
  let normalized := path.map fun c => if c = '\\' then '/' else c
  let hasWindowsDrivePrefix :=
    match normalized with
    | letter :: ':' :: _ => letter.isAlpha
    | _ => false
  path.head? == some '/' || normalized.head? == some '/' || hasWindowsDrivePrefix ||
    (normalized.splitOn '/').contains ['.', '.'] || (path.splitOn '/').contains ['.', '.']

/-- The paths of a section's providers. -/
def providerPaths (root : Mapping) (section_ : String) : List String :=
  match (root.get (.string section_)).bind Value.asMapping with
  | none => []
  | some providers => providers.filterMap fun (_, provider) =>
    (provider.asMapping.bind (·.get (.string "path"))).bind Value.asStr

def validateProviderPaths (root : Mapping) : Except PolicyViolation Unit :=
  match [("proxy-providers", "proxy-providers.*.path"),
      ("rule-providers", "rule-providers.*.path")].find?
      fun (section_, _) => (providerPaths root section_).any unsafeProviderPath with
  | some (_, fieldIdentity) => .error ⟨fieldIdentity, .unsafeProviderPath⟩
  | none => .ok ()

def hasRelativeProviderPath (root : Mapping) (section_ : String) : Bool :=
  (providerPaths root section_).any (!unsafeProviderPath ·)

def unsafeSourceFields : List String := ["listeners", "interface-name", "routing-mark"]

def rejectUnsafeSourceFields (root : Mapping) : Except PolicyViolation Unit :=
  match unsafeSourceFields.find? fun field => (root.get (.string field)).isSome with
  | some fieldIdentity => .error ⟨fieldIdentity, .unsafeDeviceIntegration⟩
  | none => validateProviderPaths root

def pathExists (root : Mapping) (rule : ManagedFieldRule) : Bool :=
  match rule.parts with
  | [] => false
  | [rootKey] => (root.get (.string rootKey)).isSome
  | rootKey :: nestedKey :: _ =>
    ((root.get (.string rootKey)).bind Value.asMapping).any
      fun m => (m.get (.string nestedKey)).isSome

def managedReview (root : Mapping) : List PolicyClassification :=
  managedRules.map fun rule =>
    { activationImpact := rule.activationImpact
      disposition := rule.disposition
      fieldIdentity := rule.fieldIdentity
      owner := rule.owner
      reason := rule.reason
      sourcePresent := pathExists root rule }

def preserved (fieldIdentity : String) (reason : PolicyReason) : PolicyClassification where
  activationImpact := .preservedInEffectiveRuntime
  disposition := .preserved
  fieldIdentity := fieldIdentity
  owner := .source
  reason := reason
  sourcePresent := true

def managedRootKeys : List String :=
  managedRules.map fun rule => rule.parts.head?.getD rule.fieldIdentity

def applyPolicy (values : Option ManagedRuntimeValues) (root : Mapping) : Mapping :=
  applyRules (applyRules root applicationRules values) platformRules values

/-- `none` where the source panics: its caller has checked the root. -/
def normalizeSourcePolicy (document : Value) :
    Option (Except PolicyViolation (Value × List PolicyClassification × Nat)) :=
  document.asMapping.map fun root => do
    rejectUnsafeSourceFields root
    let sourceKeys := root.filterMap fun (key, _) => key.asStr
    let normalized := applyPolicy none root
    let unknownKeyCount := sourceKeys.countP fun key =>
      !portableRootKeys.contains key && !managedRootKeys.contains key
    let items := managedReview root ++
      (portableRootKeys.filter sourceKeys.contains).map (preserved · .portableSourcePolicy) ++
      (if 0 < unknownKeyCount then [preserved "source.extension-key" .unknownKeyPreserved]
        else []) ++
      (if hasRelativeProviderPath normalized "proxy-providers"
        then [preserved "proxy-providers.*.path" .relativeProviderPath] else []) ++
      (if hasRelativeProviderPath normalized "rule-providers"
        then [preserved "rule-providers.*.path" .relativeProviderPath] else [])
    return (document.modifyMapping (applyPolicy none), items, unknownKeyCount)

/-- The sections that have to be mappings where they are there. -/
def managedSections : List String := ["dns", "profile", "sniffer", "tun"]

def invalidSection (root : Mapping) : Option String :=
  managedSections.find? fun name => (root.get (.string name)).any (!·.isMapping)

def applyRuntimePolicy (document : Value) (values : ManagedRuntimeValues) :
    Except PolicyViolation (Value × List PolicyClassification) :=
  match document.asMapping with
  | none => .error ⟨"profile.root", .invalidManagedShape⟩
  | some root =>
    match invalidSection root with
    | some name => .error ⟨name, .invalidManagedShape⟩
    | none => do
      validateProviderPaths root
      return (document.modifyMapping (applyPolicy (some values)), managedReview root)

/-! ## One edit a key -/

/-- The root key that a rule edits. -/
def ManagedFieldRule.rootKey : Key :=
  match rule.parts with
  | section_ :: _ :: _ => .string section_
  | _ => .string rule.fieldIdentity

/-- What a rule makes of the value at its root key. -/
def ManagedFieldRule.edit (values : Option ManagedRuntimeValues) (rule : ManagedFieldRule)
    (found : Option Value) : Option Value :=
  match rule.parts with
  | _ :: field :: _ =>
    match values, found with
    | none, none => none
    | values, found => some ((found.getD (.mapping [])).modifyMapping
        (writeNested field (rule.operation.nestedValue values)))
  | _ => values.bind rule.operation.rootValue

open ManagedFieldRule

/-- What the results read off the two lists: no two rules share a root key, none edits
the providers, every nested rule removes its field or sets it to `false`, and the rules
for `dns`, `profile` and `sniffer` are nested ones. -/
theorem managedRules_table : (managedRules.map rootKey).Nodup ∧
    (∀ name ∈ ["proxy-providers", "rule-providers"], .string name ∉ managedRules.map rootKey) ∧
    (∀ rule ∈ managedRules, 1 < rule.parts.length → rule.operation = .remove ∨
    rule.operation = .setFalse) ∧
    (∀ rule ∈ managedRules, ∀ name ∈ ["dns", "profile", "sniffer"], rule.rootKey = .string name →
    1 < rule.parts.length) := by
  decide +kernel

theorem get_applyRule (values : Option ManagedRuntimeValues) (root : Mapping)
    (rule : ManagedFieldRule) : (applyRule values root rule).get =
    Function.update root.get rule.rootKey (rule.edit values (root.get rule.rootKey)) := by
  funext key
  unfold applyRule rootKey edit
  split
  · rename_i section_ field _ _
    simp only [Function.update_apply]
    unfold applyNestedRule
    split
    · rename_i absent
      split
      · rename_i same
        rw [same, absent]
      · rfl
    · rw [Mapping.get_insert]
  · simp only [Function.update_apply]
    unfold applyRootRule
    cases values.bind rule.operation.rootValue with
    | none => rw [Mapping.get_remove]
    | some value => rw [Mapping.get_insert]

theorem get_foldl_applyRule (values : Option ManagedRuntimeValues)
    (rules : List ManagedFieldRule) (root : Mapping) : (rules.foldl (applyRule values) root).get =
    rules.foldl (fun f rule => Function.update f rule.rootKey (rule.edit values (f rule.rootKey)))
    root.get := by
  induction rules generalizing root with
  | nil => rfl
  | cons rule rest ih => rw [foldl_cons, foldl_cons, ih, get_applyRule]

/-- The policy edits each key once. -/
theorem get_applyPolicy (values : Option ManagedRuntimeValues) (root : Mapping) (key : Key) :
    (applyPolicy values root).get key =
    editAt managedRules rootKey (edit values) key (root.get key) := by
  unfold applyPolicy applyRules
  rw [← foldl_append, get_foldl_applyRule]
  exact foldl_edit_apply _ managedRules_table.1

/-! ## Documents without their managed fields -/

/-- `writeNested` on what a section denotes. -/
def writeField (f : Fields) : Fields :=
  match written with
  | none => f
  | some value => Function.update f (.string field) (value.map Value.denote)

theorem denoteEntries_writeNested (m : Mapping) :
    denoteEntries (writeNested field written m) = writeField field written (denoteEntries m) := by
  match written with
  | none => rfl
  | some none => exact denoteEntries_remove m
  | some (some value) => exact denoteEntries_insert m value

/-- A section that is absent, read as an empty one. -/
def sectionOf (found : Option Meaning) : Meaning := found.getD (.mapping fun _ => none)

/-- `edit` on what the value at the key denotes. -/
def ManagedFieldRule.editField (values : Option ManagedRuntimeValues) (rule : ManagedFieldRule)
    (found : Option Meaning) : Option Meaning :=
  match rule.parts with
  | _ :: field :: _ =>
    match values, found with
    | none, none => none
    | values, found =>
      some ((sectionOf found).modify (writeField field (rule.operation.nestedValue values)))
  | _ => (values.bind rule.operation.rootValue).map Value.denote

theorem denote_edit (values : Option ManagedRuntimeValues) (rule : ManagedFieldRule)
    (found : Option Value) :
    (rule.edit values found).map Value.denote = rule.editField values (found.map Value.denote) := by
  unfold edit editField
  split
  · rename_i field _ _
    match values, found with
    | none, none => rfl
    | none, some value =>
      exact congrArg some (Value.denote_modifyMapping (denoteEntries_writeNested field _) value)
    | some values, none =>
      exact congrArg some (Value.denote_modifyMapping (denoteEntries_writeNested field _) _)
    | some values, some value =>
      exact congrArg some (Value.denote_modifyMapping (denoteEntries_writeNested field _) value)
  · rfl

/-- The policy, on what a root denotes. -/
def policyFields (values : Option ManagedRuntimeValues) (f : Fields) : Fields := fun key =>
  editAt managedRules ManagedFieldRule.rootKey (ManagedFieldRule.editField values) key (f key)

theorem denoteEntries_applyPolicy (values : Option ManagedRuntimeValues) (root : Mapping) :
    denoteEntries (applyPolicy values root) = policyFields values (denoteEntries root) := by
  funext key
  rw [denoteEntries_apply, get_applyPolicy, policyFields, denoteEntries_apply]
  exact editAt_congr (fun rule _ => denote_edit values rule) _

/-- Takes a rule's field away: the root key itself, or the field of a section, which
counts as empty where it is absent. -/
def ManagedFieldRule.eraseField (found : Option Meaning) : Option Meaning :=
  match rule.parts with
  | _ :: field :: _ => some ((sectionOf found).modify (writeField field (some none)))
  | _ => none

def unmanagedFields (f : Fields) : Fields := fun key =>
  editAt managedRules ManagedFieldRule.rootKey ManagedFieldRule.eraseField key (f key)

/-- A document without its managed fields, and with the sections that hold one. -/
def unmanaged (document : Meaning) : Meaning := document.modify unmanagedFields

theorem writeField_writeField (first : Option (Option Value)) (value : Option Value) (f : Fields) :
    writeField field (some value) (writeField field first f) = writeField field (some value) f := by
  cases first with
  | none => rfl
  | some other => exact Function.update_idem ..

theorem sectionOf_some (d : Meaning) : sectionOf (some d) = d := rfl

/-- Every rule for a nested field writes it, whether there are values or not. -/
theorem nested_rules_write : ∀ rule ∈ managedRules, ∀ values,
    1 < rule.parts.length → (rule.operation.nestedValue values).isSome := by
  intro rule mem values nested
  rcases managedRules_table.2.2.1 rule mem nested with same | same <;> rw [same] <;> rfl

theorem editField_eraseField {rule} (mem : rule ∈ managedRules)
    (values : ManagedRuntimeValues) (found : Option Meaning) :
    rule.editField (some values) (rule.eraseField found) = rule.editField (some values) found := by
  have writes := nested_rules_write rule mem (some values)
  unfold editField eraseField
  cases parts : rule.parts with
  | nil => rfl
  | cons section_ rest =>
    cases rest with
    | nil => rfl
    | cons field more =>
      obtain ⟨value, written⟩ := Option.isSome_iff_exists.1 (writes (by simp [parts]))
      simp only [written, sectionOf_some, Meaning.modify_modify]
      congr 2
      funext f
      exact writeField_writeField field _ value f

theorem eraseField_editField (values : Option ManagedRuntimeValues) (found : Option Meaning) :
    rule.eraseField (rule.editField values found) = rule.eraseField found := by
  unfold editField eraseField
  cases rule.parts with
  | nil => rfl
  | cons section_ rest =>
    cases rest with
    | nil => rfl
    | cons field more =>
      have same (d : Meaning) (written : Option (Option Value)) :
          (d.modify (writeField field written)).modify (writeField field (some none)) =
            d.modify (writeField field (some none)) := by
        rw [Meaning.modify_modify]
        congr 1
        funext f
        exact writeField_writeField field written none f
      match values, found with
      | none, none => rfl
      | none, some d => exact congrArg some (same d _)
      | some _, none => exact congrArg some (same _ _)
      | some _, some d => exact congrArg some (same d _)

theorem editField_editField (found : Option Meaning) :
    rule.editField none (rule.editField none found) = rule.editField none found := by
  unfold editField
  cases rule.parts with
  | nil => rfl
  | cons section_ rest =>
    cases rest with
    | nil => rfl
    | cons field more =>
      cases found with
      | none => rfl
      | some d =>
        simp only [sectionOf_some, Meaning.modify_modify]
        congr 2
        funext f
        cases written : rule.operation.nestedValue none with
        | none => rfl
        | some value => exact writeField_writeField field _ value f

/-! ## The policy reads and changes managed fields only -/

theorem policyFields_unmanaged (values : ManagedRuntimeValues) (f : Fields) :
    policyFields (some values) (unmanagedFields f) = policyFields (some values) f := by
  funext key
  unfold policyFields unmanagedFields
  rw [editAt_comp]
  exact editAt_congr (g := id) (fun rule mem => editField_eraseField mem values) (f key)

theorem unmanaged_policyFields (values : Option ManagedRuntimeValues) (f : Fields) :
    unmanagedFields (policyFields values f) = unmanagedFields f := by
  funext key
  unfold policyFields unmanagedFields
  rw [editAt_comp]
  exact editAt_congr (g := id) (fun rule _ => eraseField_editField rule values) (f key)

theorem policyFields_policyFields (f : Fields) :
    policyFields none (policyFields none f) = policyFields none f := by
  funext key
  unfold policyFields
  rw [editAt_comp]
  exact editAt_congr (g := id) (fun rule _ => editField_editField rule) (f key)

theorem denote_applyPolicy (values : Option ManagedRuntimeValues) (document : Value) :
    (document.modifyMapping (applyPolicy values)).denote =
    document.denote.modify (policyFields values) :=
  Value.denote_modifyMapping (denoteEntries_applyPolicy values) document

theorem unmanaged_modify_policyFields (values : Option ManagedRuntimeValues) (d : Meaning) :
    unmanaged (d.modify (policyFields values)) = unmanaged d := by
  unfold unmanaged
  rw [Meaning.modify_modify]
  congr 1
  funext f
  exact unmanaged_policyFields values f

/-- The runtime document is a function of the source without its managed fields. -/
theorem modify_policyFields_unmanaged (values : ManagedRuntimeValues) (d : Meaning) :
    (unmanaged d).modify (policyFields (some values)) = d.modify (policyFields (some values)) := by
  unfold unmanaged
  rw [Meaning.modify_modify]
  congr 1
  funext f
  exact policyFields_unmanaged values f

/-! ## Accepted documents -/

theorem applyRuntimePolicy_ok {values result}
    (applied : applyRuntimePolicy document values = .ok (result, items)) : result =
    document.modifyMapping (applyPolicy (some values)) ∧ ∃ root, document.asMapping = some root ∧
    invalidSection root = none ∧ validateProviderPaths root = .ok () := by
  unfold applyRuntimePolicy at applied
  split at applied
  · cases applied
  · rename_i root mapping
    split at applied
    · cases applied
    · rename_i shapes
      cases paths : validateProviderPaths root with
      | error violation => rw [paths] at applied; cases applied
      | ok _ =>
        rw [paths] at applied
        cases applied
        exact ⟨rfl, root, mapping, shapes, paths⟩

theorem applyRuntimePolicy_of_shape (mapping : document.asMapping = some root)
    (shapes : invalidSection root = none) (paths : validateProviderPaths root = .ok ())
    (values : ManagedRuntimeValues) : applyRuntimePolicy document values =
    .ok (document.modifyMapping (applyPolicy (some values)), managedReview root) := by
  simp only [applyRuntimePolicy, mapping, shapes, paths]
  rfl

theorem normalizeSourcePolicy_ok {result unknownKeyCount}
    (normalized : normalizeSourcePolicy document = some (.ok (result, items, unknownKeyCount))) :
    result = document.modifyMapping (applyPolicy none) ∧
    ∃ root, document.asMapping = some root ∧ rejectUnsafeSourceFields root = .ok () := by
  unfold normalizeSourcePolicy at normalized
  cases mapping : document.asMapping with
  | none => rw [mapping] at normalized; cases normalized
  | some root =>
    rw [mapping, Option.map_some] at normalized
    cases checked : rejectUnsafeSourceFields root with
    | error violation => rw [checked] at normalized; cases normalized
    | ok _ =>
      rw [checked] at normalized
      cases normalized
      exact ⟨rfl, root, rfl, checked⟩

theorem normalizeSourcePolicy_of_root
    (mapping : document.asMapping = some root) (checked : rejectUnsafeSourceFields root = .ok ()) :
    ∃ items unknownKeyCount, normalizeSourcePolicy document =
    some (.ok (document.modifyMapping (applyPolicy none), items, unknownKeyCount)) := by
  simp only [normalizeSourcePolicy, mapping, Option.map_some, checked]
  exact ⟨_, _, rfl⟩

theorem rejectUnsafeSourceFields_ok (checked : rejectUnsafeSourceFields root = .ok ()) :
    validateProviderPaths root = .ok () ∧
    ∀ field ∈ unsafeSourceFields, root.get (.string field) = none := by
  unfold rejectUnsafeSourceFields at checked
  split at checked
  · cases checked
  · rename_i absent
    refine ⟨checked, ?_⟩
    intro field mem
    simpa using find?_eq_none.1 absent field mem

theorem get_applyPolicy_of_not_managed (values : Option ManagedRuntimeValues) (root : Mapping)
    {key} (other : key ∉ managedRules.map rootKey) :
    (applyPolicy values root).get key = root.get key := by
  rw [get_applyPolicy, editAt]
  have unnamed : managedRules.find? (·.rootKey = key) = none := by
    rw [find?_eq_none]
    intro rule mem same
    exact other (mem_map.2 ⟨rule, mem, by simpa using same⟩)
  rw [unnamed]

/-- The policy leaves the providers alone. -/
theorem validateProviderPaths_applyPolicy (values : Option ManagedRuntimeValues) (root : Mapping) :
    validateProviderPaths (applyPolicy values root) = validateProviderPaths root := by
  have proxies : (applyPolicy values root).get (.string "proxy-providers") = root.get _ :=
    get_applyPolicy_of_not_managed values root (managedRules_table.2.1 _ (by simp))
  have rules : (applyPolicy values root).get (.string "rule-providers") = root.get _ :=
    get_applyPolicy_of_not_managed values root (managedRules_table.2.1 _ (by simp))
  unfold validateProviderPaths
  simp only [find?, providerPaths, proxies, rules]

/-- Normalizing a section leaves it absent or a mapping where it was. -/
theorem edit_none_isMapping {found} (shape : found.any (!·.isMapping) = false) :
    (rule.edit none found).any (!·.isMapping) = false := by
  unfold edit
  split
  · cases found with
    | none => rfl
    | some value => simpa using shape
  · rfl

theorem invalidSection_applyPolicy (shapes : invalidSection root = none) :
    invalidSection (applyPolicy none root) = none := by
  unfold invalidSection at shapes ⊢
  rw [find?_eq_none] at shapes ⊢
  intro name mem
  have shape := Bool.eq_false_iff.2 (shapes name mem)
  rw [get_applyPolicy, editAt]
  refine Bool.eq_false_iff.1 ?_
  split
  · exact edit_none_isMapping _ shape
  · exact shape

/-- `tun` is the one section whose shape normalizing forgets: it goes. -/
theorem invalidSection_of_applyPolicy (shapes : invalidSection (applyPolicy none root) = none) :
    invalidSection root = none ∨ invalidSection root = some "tun" := by
  cases invalid : invalidSection root with
  | none => exact .inl rfl
  | some name =>
    right
    have mem := mem_of_find?_eq_some invalid
    have wrong := find?_some invalid
    have shape := find?_eq_none.1 shapes name mem
    rw [Option.some.injEq]
    by_contra other
    apply shape
    rw [get_applyPolicy, editAt]
    split
    · rename_i rule found
      have rootKey : rule.rootKey = .string name := by simpa using find?_some found
      have nested := managedRules_table.2.2.2 rule (mem_of_find?_eq_some found) name
        (by simpa [managedSections, other] using mem) rootKey
      unfold edit
      split
      · cases present : root.get (.string name) with
        | none => simp [present] at wrong
        | some value => simpa [present] using wrong
      · rename_i short
        match parts : rule.parts with
        | [] | [_] => simp [parts] at nested
        | section_ :: field :: more => exact absurd parts (short section_ field more)
    · exact wrong

theorem rejectUnsafeSourceFields_applyPolicy (checked : rejectUnsafeSourceFields root = .ok ()) :
    rejectUnsafeSourceFields (applyPolicy none root) = .ok () := by
  obtain ⟨paths, absent⟩ := rejectUnsafeSourceFields_ok checked
  have gone : unsafeSourceFields.find?
      (fun field => ((applyPolicy none root).get (.string field)).isSome) = none := by
    rw [find?_eq_none]
    intro field mem
    rw [get_applyPolicy, absent field mem, editAt]
    split
    · rename_i rule _
      simp only [edit]
      split <;> simp
    · simp
  unfold rejectUnsafeSourceFields
  rw [gone]
  exact (validateProviderPaths_applyPolicy none root).trans paths

/-! ## Sources cannot influence managed fields -/

section Documents

variable {values : ManagedRuntimeValues} {d d' e : Value} {items items' : List PolicyClassification}
  {n : Nat}

/-- What a runtime document is made of. -/
theorem denote_applyRuntimePolicy (applied : applyRuntimePolicy d values = .ok (e, items)) :
    e.denote = (unmanaged d.denote).modify (policyFields (some values)) := by
  rw [(applyRuntimePolicy_ok applied).1, denote_applyPolicy, modify_policyFields_unmanaged]

theorem unmanaged_applyRuntimePolicy (applied : applyRuntimePolicy d values = .ok (e, items)) :
    unmanaged e.denote = unmanaged d.denote := by
  rw [(applyRuntimePolicy_ok applied).1, denote_applyPolicy, unmanaged_modify_policyFields]

section
variable (normalized : normalizeSourcePolicy d = some (.ok (d', items, n)))
include normalized

theorem unmanaged_normalizeSourcePolicy : unmanaged d'.denote = unmanaged d.denote := by
  rw [(normalizeSourcePolicy_ok normalized).1, denote_applyPolicy, unmanaged_modify_policyFields]

theorem normalizeSourcePolicy_again : ∃ d'' items' n', normalizeSourcePolicy d' =
    some (.ok (d'', items', n')) ∧ d''.denote = d'.denote := by
  obtain ⟨rfl, root, mapping, checked⟩ := normalizeSourcePolicy_ok normalized
  have mapping' : (d.modifyMapping (applyPolicy none)).asMapping =
      some (applyPolicy none root) := by simp [mapping]
  obtain ⟨items', n', again⟩ := normalizeSourcePolicy_of_root mapping'
    (rejectUnsafeSourceFields_applyPolicy checked)
  refine ⟨_, items', n', again, ?_⟩
  rw [denote_applyPolicy, denote_applyPolicy, Meaning.modify_modify]
  congr 1
  funext f
  exact policyFields_policyFields f

/-- Normalizing a source that `applyRuntimePolicy` takes gives one that it takes. -/
theorem applyRuntimePolicy_normalized (applied : applyRuntimePolicy d values = .ok (e, items')) :
    ∃ e' items'', applyRuntimePolicy d' values = .ok (e', items'') := by
  obtain ⟨rfl, -⟩ := normalizeSourcePolicy_ok normalized
  obtain ⟨-, root, mapping, shapes, paths⟩ := applyRuntimePolicy_ok applied
  have mapping' : (d.modifyMapping (applyPolicy none)).asMapping =
      some (applyPolicy none root) := by simp [mapping]
  exact ⟨_, _, applyRuntimePolicy_of_shape mapping' (invalidSection_applyPolicy shapes)
    ((validateProviderPaths_applyPolicy none root).trans paths) values⟩

/-- The converse, but for a source whose `tun` is no mapping: normalizing drops it. -/
theorem applyRuntimePolicy_of_normalized
    (applied : applyRuntimePolicy d' values = .ok (e, items')) :
    (∃ e' items'', applyRuntimePolicy d values = .ok (e', items'')) ∨
    applyRuntimePolicy d values = .error ⟨"tun", .invalidManagedShape⟩ := by
  obtain ⟨rfl, root, mapping, checked⟩ := normalizeSourcePolicy_ok normalized
  obtain ⟨-, root', mapping', shapes, -⟩ := applyRuntimePolicy_ok applied
  rw [Value.asMapping_modifyMapping, mapping, Option.map_some, Option.some.injEq] at mapping'
  subst mapping'
  rcases invalidSection_of_applyPolicy shapes with valid | tun
  · exact .inl ⟨_, _, applyRuntimePolicy_of_shape mapping valid
      (rejectUnsafeSourceFields_ok checked).1 values⟩
  · right
    simp only [applyRuntimePolicy, mapping, tun]

end

end Documents

/-- Two accepted sources with the same unmanaged fields give one runtime document, in
which the unmanaged fields are the source's; normalizing a source twice is normalizing
it once, and a normalized source gives the runtime document of the source. -/
theorem source_cannot_influence_managed (values : ManagedRuntimeValues) :
    (∀ d₁ d₂ e₁ e₂ items₁ items₂, unmanaged d₁.denote = unmanaged d₂.denote →
      applyRuntimePolicy d₁ values = .ok (e₁, items₁) →
      applyRuntimePolicy d₂ values = .ok (e₂, items₂) → e₁.denote = e₂.denote) ∧
    (∀ d e items, applyRuntimePolicy d values = .ok (e, items) →
      unmanaged e.denote = unmanaged d.denote) ∧
    (∀ d d' items n, normalizeSourcePolicy d = some (.ok (d', items, n)) →
      ∃ d'' items' n', normalizeSourcePolicy d' = some (.ok (d'', items', n')) ∧
        d''.denote = d'.denote) ∧
    (∀ d d' items n e items', normalizeSourcePolicy d = some (.ok (d', items, n)) →
      applyRuntimePolicy d values = .ok (e, items') →
      ∃ e' items'', applyRuntimePolicy d' values = .ok (e', items'') ∧ e'.denote = e.denote) ∧
    (∀ d d' items n e' items', normalizeSourcePolicy d = some (.ok (d', items, n)) →
      applyRuntimePolicy d' values = .ok (e', items') →
      (∃ e items'', applyRuntimePolicy d values = .ok (e, items'') ∧ e'.denote = e.denote) ∨
        applyRuntimePolicy d values = .error ⟨"tun", .invalidManagedShape⟩) := by
  refine ⟨?_, ?_, ?_, ?_, ?_⟩
  · intro d₁ d₂ e₁ e₂ items₁ items₂ agree first second
    rw [denote_applyRuntimePolicy first, denote_applyRuntimePolicy second, agree]
  · intro d e items applied
    exact unmanaged_applyRuntimePolicy applied
  · intro d d' items n normalized
    exact normalizeSourcePolicy_again normalized
  · intro d d' items n e items' normalized applied
    -- a normalized source has the unmanaged fields of the source
    obtain ⟨e', items'', after⟩ := applyRuntimePolicy_normalized normalized applied
    refine ⟨e', items'', after, ?_⟩
    rw [denote_applyRuntimePolicy after, denote_applyRuntimePolicy applied,
      unmanaged_normalizeSourcePolicy normalized]
  · intro d d' items n e' items' normalized after
    rcases applyRuntimePolicy_of_normalized normalized after with ⟨e, items'', applied⟩ | refused
    · refine .inl ⟨e, items'', applied, ?_⟩
      rw [denote_applyRuntimePolicy after, denote_applyRuntimePolicy applied,
        unmanaged_normalizeSourcePolicy normalized]
    · exact .inr refused

def sampleSource : Value :=
  .mapping [(.string "port", .number 7890), (.string "rules", .sequence []),
    (.string "dns", .mapping [(.string "listen", .string ":53"), (.string "enable", .bool true)])]

def sampleValues : ManagedRuntimeValues where
  controllerAddress := "127.0.0.1:9090"
  controllerSecret := "secret"
  mixedPort := 7890
  proxyHost := "127.0.0.1"
  processDiscoveryMode := "off"
  tunEnabled := true

/-- A source and its normal form. -/
theorem source_cannot_influence_managed_sample : ∃ d' items n e items' e' items'',
    normalizeSourcePolicy sampleSource = some (.ok (d', items, n)) ∧
    applyRuntimePolicy sampleSource sampleValues = .ok (e, items') ∧
    applyRuntimePolicy d' sampleValues = .ok (e', items'') ∧ e.denote = e'.denote ∧
    unmanaged e.denote = unmanaged sampleSource.denote := by
  obtain ⟨agreeing, keeping, -, normalizing, -⟩ := source_cannot_influence_managed sampleValues
  have mapping : sampleSource.asMapping = some _ := rfl
  obtain ⟨items, n, normalized⟩ := normalizeSourcePolicy_of_root mapping rfl
  have applied := applyRuntimePolicy_of_shape mapping rfl rfl sampleValues
  obtain ⟨e', items'', after, -⟩ := normalizing _ _ _ _ _ _ normalized applied
  exact ⟨_, items, n, _, _, e', items'', normalized, applied, after,
    agreeing _ _ _ _ _ _ (unmanaged_normalizeSourcePolicy normalized).symm applied after,
    keeping _ _ _ applied⟩

end Mish.Profile
