import Mish.Data.Text
import Mish.Interaction.Program

/-!
# DNS ownership of the TUN service

The recovery journal and the transactions of `network_ownership.rs`, as programs that make one
request for each file operation of the journal and for each call on the system's DNS settings.
The helper applies and restores transactions, and a watchdog restores the one it was started for.
-/

namespace Mish.TunService
open Interaction

/-! ## Values -/

inductive IpAddr where
  | v4 (bits : BitVec 32)
  | v6 (bits : BitVec 128)
  deriving DecidableEq

/-- 198.18.0.1 -/
def managedDnsAddress : IpAddr := .v4 0xC6120001#32

def managedServers : List IpAddr := [managedDnsAddress]

def managedNetworkStateVersion : Nat := 2
def networkRecoveryRecordVersion : Nat := 1
def networkServiceLimit : Nat := 64
def tunDnsNameserverLimit : Nat := 8

inductive EligibleNetworkKind where
  | ethernet | wifi
  deriving DecidableEq

structure ManagedNetworkService where
  (id interface : String)
  kind : EligibleNetworkKind
  name : String
  deriving DecidableEq

structure ManagedDnsState where
  priorServers : List IpAddr
  schemaVersion : Nat
  service : ManagedNetworkService
  transactionId : String
  deriving DecidableEq

inductive NetworkRecoveryPhase where
  | applied | prepared
  deriving DecidableEq

structure NetworkRecoveryRecord where
  phase : NetworkRecoveryPhase
  recordSchemaVersion : Nat
  state : ManagedDnsState
  deriving DecidableEq

structure TunSystemRoute where
  (destination flags gateway interface : String)
  deriving DecidableEq

structure TunSystemDnsResolver where
  domains : List String
  interface : Option String
  nameservers : List IpAddr
  port : Option Nat
  deriving DecidableEq

structure TunSystemInterface where
  addresses : List String
  name : String

structure TunSystemSnapshot where
  dnsResolvers : List TunSystemDnsResolver
  interfaces : List TunSystemInterface
  routes : List TunSystemRoute

structure NetworkOwnershipSnapshot where
  baselineInterfaceAddresses : List String
  baselineMdns : List TunSystemDnsResolver
  baselineRoutes : List TunSystemRoute
  dns : ManagedDnsState

inductive NetworkApplyFailure where
  | clean | recoveryRequired
  deriving DecidableEq

/-- `NetworkControllerApplyFailure` and `NetworkDnsMutationFailure` -/
inductive MutationFailure where
  | mayHaveChanged | unchanged

structure NetworkServiceRecord where
  enabled : Bool
  id : String
  inCurrentSet : Bool
  interface : String
  kind : Option EligibleNetworkKind
  name : String
  order : Nat

/-- `TunObservationComponentState` -/
inductive ComponentState where
  | absent | partially | confirmed | foreign | unknown
  deriving DecidableEq

/-- The text formats: how a UUID is parsed and printed again, and whether a record is encoded in
the bytes a journal may have. -/
structure Codec where
  parseUuid : String → Option String
  fits : NetworkRecoveryRecord → Bool

/-! ## Checks -/

section
variable (codec : Codec)

def validInterfaceName (value : String) : Bool :=
  !value.isEmpty && value.utf8ByteSize ≤ 64 &&
    value.toList.all fun c => c.isAlphanum || c == '.' || c == '_' || c == '-'

def validServiceName (value : String) : Bool :=
  !value.isEmpty && value.utf8ByteSize ≤ 253 && !hasControl value

def validServiceRecord (service : NetworkServiceRecord) : Bool :=
  (codec.parseUuid service.id).isSome && validInterfaceName service.interface &&
    validServiceName service.name && service.order < networkServiceLimit

def validManagedService (service : ManagedNetworkService) : Bool :=
  (codec.parseUuid service.id).isSome && validInterfaceName service.interface &&
    validServiceName service.name

/-- `validate_managed_dns_state` -/
def validManagedDnsState (state : ManagedDnsState) : Bool :=
  state.schemaVersion == managedNetworkStateVersion &&
    state.priorServers.length ≤ tunDnsNameserverLimit && validManagedService codec state.service &&
    codec.parseUuid state.transactionId == some state.transactionId

def selectService (services : List NetworkServiceRecord) (defaultInterface : String) :
    Option ManagedNetworkService :=
  if services.length > networkServiceLimit || !validInterfaceName defaultInterface then none
  else
    match services.filter fun service => service.enabled && service.inCurrentSet &&
        service.interface == defaultInterface && service.kind.isSome &&
        validServiceRecord codec service with
    | [service] => service.kind.map fun kind => ⟨service.id, service.interface, kind, service.name⟩
    | _ => none

/-- `exact_service(..).is_ok()` -/
def exactService (services : List NetworkServiceRecord) (expected : ManagedNetworkService) : Bool :=
  validManagedService codec expected &&
    (services.filter fun service => service.enabled && service.inCurrentSet &&
      service.id == expected.id && service.interface == expected.interface &&
      service.kind == some expected.kind && service.name == expected.name &&
      validServiceRecord codec service).length == 1

def validatePreservedNetwork (snapshot : NetworkOwnershipSnapshot) (system : TunSystemSnapshot) :
    Bool :=
  match system.interfaces.find? (·.name == snapshot.dns.service.interface) with
  | none => false
  | some interface =>
    interface.addresses == snapshot.baselineInterfaceAddresses &&
      snapshot.baselineRoutes.all (system.routes.contains ·) &&
      snapshot.baselineMdns.all (system.dnsResolvers.contains ·)

end

/-! ## Requests -/

/-- What a look at the record's directory entry finds. -/
inductive Lookup where
  | missing | usable | unusable

/-- On whose behalf a DNS value is written. Nothing reads it. -/
inductive Purpose where
  | apply (transaction : ManagedDnsState)
  | restore (transaction : ManagedDnsState)
  deriving DecidableEq

inductive Request where
  -- the journal
  | parentMetadata
  | recordMetadata
  | readRecord
  | createTemporary
  | writeTemporary
  | endTemporary
  | syncTemporary
  | temporaryMetadata
  | removeTemporary
  | rename (record : NetworkRecoveryRecord)
  | syncDirectory
  | removeRecord (transaction : ManagedDnsState)
  -- the system
  | defaultRouteInterface
  | inventory
  | observeDns (service : ManagedNetworkService)
  | compareAndSet (service : ManagedNetworkService) (expected replacement : List IpAddr)
      (purpose : Purpose)
  | sleep
  -- made by other programs only
  | writeDns (service : String) (servers : List IpAddr)
  deriving DecidableEq

abbrev Reply : Request → Type
  | .parentMetadata | .createTemporary | .writeTemporary | .endTemporary | .syncTemporary
  | .temporaryMetadata | .removeTemporary | .rename _ | .syncDirectory | .removeRecord _ => Bool
  | .recordMetadata => Lookup
  | .readRecord => Option NetworkRecoveryRecord
  | .defaultRouteInterface => Option String
  | .inventory => Option (List NetworkServiceRecord)
  | .observeDns _ => Option (List IpAddr)
  | .compareAndSet _ _ _ _ => Except MutationFailure Unit
  | .sleep | .writeDns _ _ => Unit

abbrev Action := Program Request Reply
abbrev Attempt := ExceptT Unit Action

def ask (r : Request) : Action (Reply r) := request r

/-- A call whose failure ends the attempt. -/
def succeeds (p : Action Bool) : Attempt Unit :=
  ExceptT.mk do
    let ok ← p
    return if ok then .ok () else .error ()

def provides {α : Type} (p : Action (Option α)) : Attempt α :=
  ExceptT.mk do
    let value ← p
    return value.elim (.error ()) .ok

def ensure (condition : Bool) : Attempt Unit :=
  ExceptT.mk (return if condition then .ok () else .error ())

/-! ## The journal -/

section
variable (codec : Codec) (snapshot : NetworkOwnershipSnapshot) (state : ManagedDnsState)
  (system : TunSystemSnapshot) (expected : ManagedDnsState)

/-- The part of `load_record` after the entry has been found. -/
def readRecord : Attempt (Option NetworkRecoveryRecord) := do
  let record ← provides (ask .readRecord)
  ensure (record.recordSchemaVersion == networkRecoveryRecordVersion)
  ensure (validManagedDnsState codec record.state)
  return some record

def lookedUp : Lookup → Attempt (Option NetworkRecoveryRecord)
  | .missing => return none
  | .unusable => throw ()
  | .usable => readRecord codec

def loadRecord : Attempt (Option NetworkRecoveryRecord) := do
  succeeds (ask .parentMetadata)
  let found ← (ask .recordMetadata : Action Lookup)
  lookedUp codec found

/-- The closure of `write_record`. -/
def publishRecord (record : NetworkRecoveryRecord) : Attempt Unit := do
  succeeds (ask .createTemporary)
  succeeds (ask .writeTemporary)
  succeeds (ask .endTemporary)
  succeeds (ask .syncTemporary)
  succeeds (ask .temporaryMetadata)
  succeeds (ask (.rename record))
  succeeds (ask .syncDirectory)

def discardTemporary : Except Unit Unit → Action (Except Unit Unit)
  | .ok () => return .ok ()
  | .error () => do
    let _ ← ask .removeTemporary
    return .error ()

def writeRecord (record : NetworkRecoveryRecord) : Attempt Unit := do
  ensure (codec.fits record)
  ExceptT.mk ((publishRecord record).run >>= discardTemporary)

def persistOver : Option NetworkRecoveryRecord → Attempt Unit
  | some existing => ensure (existing.state == state)
  | none => writeRecord codec ⟨.prepared, networkRecoveryRecordVersion, state⟩

def persist : Attempt Unit := do
  ensure (validManagedDnsState codec state)
  let existing ← loadRecord codec
  persistOver codec state existing

def markOver : Option NetworkRecoveryRecord → Attempt Unit
  | some record =>
    if record.state = state then
      match record.phase with
      | .applied => return ()
      | .prepared => writeRecord codec ⟨.applied, networkRecoveryRecordVersion, state⟩
    else throw ()
  | none => throw ()

def markApplied : Attempt Unit := do
  ensure (validManagedDnsState codec state)
  let record ← loadRecord codec
  markOver codec state record

/-- `NetworkRecoveryJournal::remove` -/
def remove (transaction : ManagedDnsState) : Attempt Unit := do
  succeeds (ask (.removeRecord transaction))
  succeeds (ask .syncDirectory)

def clear : Attempt Unit := do
  let record ← loadRecord codec
  ensure (record.map (·.state) == some expected)
  remove expected

def clearOver : Option NetworkRecoveryRecord → Attempt Unit
  | none => return ()
  | some current => if current.state = expected then remove expected else throw ()

def clearIfPresent : Attempt Unit := do
  let record ← loadRecord codec
  clearOver expected record

/-! ## The controller -/

abbrev Mutation := ExceptT MutationFailure Action

/-- The value read back after it has been set. -/
def readBack (replacement : List IpAddr) (observed : Option (List IpAddr)) :
    Except MutationFailure Unit :=
  if observed = some replacement then .ok () else .error .mayHaveChanged

def setDns (service : ManagedNetworkService) (expected replacement : List IpAddr)
    (purpose : Purpose) : Mutation Unit :=
  if expected.length > tunDnsNameserverLimit || replacement.length > tunDnsNameserverLimit then
    throw .unchanged
  else do
    ExceptT.mk (ask (.compareAndSet service expected replacement purpose))
    ExceptT.mk (readBack replacement <$> ask (.observeDns service))

def serviceIsSelected (service : ManagedNetworkService) : Attempt Unit := do
  let defaultInterface ← provides (ask .defaultRouteInterface)
  let services ← provides (ask .inventory)
  ensure (selectService codec services defaultInterface == some service)

/-- What fails before the DNS is touched leaves it unchanged. -/
def untouched (p : Attempt Unit) : Mutation Unit :=
  ExceptT.mk ((fun result => result.mapError fun _ => .unchanged) <$> p.run)

/-- `MacOsTunNetworkController::apply` -/
def applyDns : Mutation Unit := do
  untouched (serviceIsSelected codec snapshot.dns.service)
  untouched (ensure (validatePreservedNetwork snapshot system))
  setDns snapshot.dns.service snapshot.dns.priorServers managedServers (.apply snapshot.dns)

/-- What is made of the result of the write. -/
def restored : Except MutationFailure Unit → Attempt Unit
  | .ok () => return ()
  | .error .unchanged => do
    let observed ← provides (ask (.observeDns state.service))
    ensure (observed == state.priorServers)
  | .error .mayHaveChanged => throw ()

def restoreFrom (observed : List IpAddr) : Attempt Unit :=
  if observed = state.priorServers then return ()
  else if observed ≠ managedServers then throw ()
  else do
    let result ← ((setDns state.service managedServers state.priorServers (.restore state)).run :
      Action (Except MutationFailure Unit))
    restored state result

/-- `MacOsTunNetworkController::restore` -/
def restoreDns : Attempt Unit := do
  ensure (validManagedDnsState codec state)
  let observed ← provides (ask (.observeDns state.service))
  restoreFrom state observed

def recoveryState (observed : List IpAddr) : ComponentState :=
  if observed = state.priorServers then .confirmed
  else if observed = managedServers then .partially
  else .foreign

def observeExact (services : List NetworkServiceRecord) : Attempt ComponentState :=
  if exactService codec services state.service then
    recoveryState state <$> provides (ask (.observeDns state.service))
  else return .foreign

def observeRecovery : Attempt ComponentState := do
  let services ← provides (ask .inventory)
  observeExact codec state services

/-! ## The transactions -/

/-- The DNS is put back and the record removed, or recovery is required. -/
def undoneBy (undo : Attempt Unit) : Action (Except NetworkApplyFailure Unit) := do
  match ← undo.run with
  | .ok () => return .error .clean
  | .error () => return .error .recoveryRequired

def afterMark : Except Unit Unit → Action (Except NetworkApplyFailure Unit)
  | .ok () => return .ok ()
  | .error () => undoneBy (do restoreDns codec snapshot.dns; clearIfPresent codec snapshot.dns)

def afterApply : Except MutationFailure Unit → Action (Except NetworkApplyFailure Unit)
  | .ok () => (markApplied codec snapshot.dns).run >>= afterMark codec snapshot
  | .error .unchanged => undoneBy (clear codec snapshot.dns)
  | .error .mayHaveChanged =>
    undoneBy (do restoreDns codec snapshot.dns; clear codec snapshot.dns)

def afterPersist :
    Except Unit Unit → Action (Except NetworkApplyFailure Unit)
  | .error () => return .error .clean
  | .ok () => (applyDns codec snapshot system).run >>= afterApply codec snapshot

def applyNetworkTransaction :
    Action (Except NetworkApplyFailure Unit) :=
  (persist codec snapshot.dns).run >>= afterPersist codec snapshot system

def restoreOver : Option NetworkRecoveryRecord → Attempt Unit
  | some recorded =>
    if recorded.state = state then do
      restoreDns codec state
      clearIfPresent codec state
    else throw ()
  | none => do
    let observed ← observeRecovery codec state
    ensure (observed == .confirmed)

def restoreNetworkTransaction : Attempt Unit := do
  let recorded ← loadRecord codec
  restoreOver codec state recorded

end

end Mish.TunService
