import Mathlib.Algebra.Group.Nat.Defs
import Mish.Capture.Reconciler

/-!
# The TUN reconciler

`TunReconciler` over the part of `TunHelperController` it calls. As for the
System Proxy, each function is a program over the calls it makes: to the helper
platform, to the clock, and to the two cells it shares with other tasks.
-/

namespace Mish.Capture

inductive TunHelperAvailability where
  | available | permissionRequired | recoveryRequired | repairRequired | unpackaged | unsignedApp
  | unsupportedSystem | unavailable
  deriving DecidableEq

inductive TunHelperHealth where
  | healthy | invalidSignature | notInstalled | unknown | unreachable | versionMismatch
  deriving DecidableEq

inductive TunHelperLifecyclePhase where
  | failed | idle | installing | removing | repairing
  deriving DecidableEq

inductive TunHelperFailureKind where
  | authorizationCancelled | confirmationFailed | connectionFailed | identityRejected
  | installationFailed | installerUnavailable | invalidSignature | messageTooLarge | operationFailed
  | observationForeign | observationPartial | observationStale | permissionDenied
  | preparationFailed | protocolMismatch | registrationFailed | registrationRequiresApproval
  | unpackaged | unsignedApp | unsupportedSystem | versionMismatch

structure TunHelperError where
  kind : TunHelperFailureKind
  message : String

/-- What is known of the installed helper. -/
structure TunHelperSnapshot where
  availability : TunHelperAvailability
  expectedVersion : String
  health : TunHelperHealth
  installedVersion : Option String
  lastFailure : Option TunHelperFailureKind
  phase : TunHelperLifecyclePhase

namespace TunHelperSnapshot

def hasHealthyIdentity (s : TunHelperSnapshot) : Bool :=
  s.availability = .available && s.health = .healthy && s.installedVersion == some s.expectedVersion

def isHealthy (s : TunHelperSnapshot) : Bool :=
  s.hasHealthyIdentity && s.phase = .idle && s.lastFailure.isNone

end TunHelperSnapshot

namespace TunNetworkObservation

def schema : UInt16 := 1

def maxAgeMilliseconds : Nat := 10000

variable (o : TunNetworkObservation) (now : UInt64)

/-- The sums and differences of the source saturate. -/
def isFreshAt : Bool :=
  o.schemaVersion == schema && o.observedAt.toNat ≤ min (now.toNat + 1000) (2 ^ 64 - 1) &&
    now.toNat - o.observedAt.toNat ≤ maxAgeMilliseconds

def confirmsEnabledAt : Bool :=
  o.isFreshAt now && o.core = .confirmed && o.interface = .confirmed && o.routes = .confirmed &&
    o.dns = .confirmed

def confirmsDisabledAt : Bool :=
  o.isFreshAt now && o.interface = .absent && o.routes = .absent && o.dns = .absent

def anyForeign : Bool :=
  [o.core, o.interface, o.routes, o.dns].contains .foreign

def failureKindAt : TunHelperFailureKind :=
  if !o.isFreshAt now then .observationStale
  else if o.anyForeign then .observationForeign
  else .observationPartial

/-- `tun_observed_state`, at the time it reads. -/
def observedStateAt : TunObservedState :=
  if !o.isFreshAt now then .stale
  else if o.confirmsEnabledAt now then .enabled
  else if o.confirmsDisabledAt now then .disabled
  else if o.anyForeign then .foreign
  else .partial_

/-- What is disabled at one time is not enabled at another. -/
theorem observedStateAt_ne_enabled {o : TunNetworkObservation} {now}
    (disabled : o.confirmsDisabledAt now = true) (later : UInt64) :
    o.observedStateAt later ≠ .enabled := by
  have absent : o.interface = .absent := by
    simp only [confirmsDisabledAt, Bool.and_eq_true, decide_eq_true_eq] at disabled
    exact disabled.1.1.2
  have unconfirmed : o.confirmsEnabledAt later = false := by
    simp [confirmsEnabledAt, absent]
  simp only [observedStateAt, unconfirmed, Bool.false_eq_true, if_false]
  split
  · simp
  · split
    · simp
    · split <;> simp

end TunNetworkObservation

def mapHelperFailure : TunHelperFailureKind → TunFailureKind
  | .confirmationFailed => .confirmationFailed
  | .identityRejected => .helperIdentityRejected
  | .invalidSignature | .unsignedApp => .helperInvalidSignature
  | .authorizationCancelled | .permissionDenied | .registrationRequiresApproval =>
    .helperPermissionDenied
  | .protocolMismatch | .messageTooLarge => .helperProtocolMismatch
  | .versionMismatch => .helperVersionMismatch
  | .observationForeign => .observationForeign
  | .observationPartial => .observationPartial
  | .observationStale => .observationStale
  | .installationFailed | .installerUnavailable | .operationFailed | .preparationFailed =>
    .helperOperationFailed
  | .connectionFailed | .registrationFailed | .unpackaged | .unsupportedSystem =>
    .helperConnectionFailed

def helperSnapshotFailure (snapshot : TunHelperSnapshot) : TunFailureKind :=
  if snapshot.health = .versionMismatch then .helperVersionMismatch
  else if snapshot.health = .invalidSignature then .helperInvalidSignature
  else
    match snapshot.lastFailure with
    | some failure => mapHelperFailure failure
    | none => .capabilityUnavailable

def tunFailureKind : TunFailureKind → CaptureFailureKind
  | .helperPermissionDenied => .permissionDenied
  | .confirmationFailed => .confirmationFailed
  | .coreUnhealthy => .coreUnhealthy
  | .rollbackFailed => .rollbackFailed
  | .runtimeTransition => .runtimeTransition
  | .observationForeign => .externalDrift
  | .observationPartial => .confirmationFailed
  | .observationStale => .observationFailed
  | .helperOperationFailed => .applyFailed
  | .capabilityUnavailable | .helperConnectionFailed | .helperIdentityRejected
  | .helperInvalidSignature | .helperProtocolMismatch | .helperVersionMismatch =>
    .capabilityUnavailable

def captureErrorFromTunFailure (failure : TunFailureKind) : CaptureTransitionError :=
  ⟨tunFailureKind failure, "TUN reconciliation failed", none, none⟩

namespace Tun
open Interaction

inductive Request where
  | readStatus
  | writeStatus (status : TunRuntimeStatus)
  | snapshot
  | clearFailure
  | lockOperation
  | setTunEnabled (enabled : Bool)
  | observeTun
  | now

abbrev HelperResult := Except TunHelperError

@[reducible] def Reply : Request → Type
  | .readStatus => TunRuntimeStatus
  | .writeStatus _ | .clearFailure | .lockOperation => Unit
  | .snapshot => TunHelperSnapshot
  | .setTunEnabled _ => HelperResult Unit
  | .observeTun => HelperResult TunNetworkObservation
  | .now => UInt64

abbrev Operation := Program Request Reply

def call (r : Request) : Operation (Reply r) := request r

/-! ## The helper controller -/

namespace Helper

def unhealthy : TunHelperError := ⟨.connectionFailed, "The TUN helper is not healthy"⟩

def observeTunLocked : Operation (HelperResult TunNetworkObservation) := do
  if !(← call .snapshot).hasHealthyIdentity then return .error unhealthy
  call .observeTun

def observeTun : Operation (HelperResult TunNetworkObservation) := do
  call .lockOperation
  observeTunLocked

/-- Succeeds with an observation that confirms the requested state. -/
def setTunEnabled (enabled : Bool) : Operation (HelperResult TunNetworkObservation) := do
  call .lockOperation
  if !(← call .snapshot).hasHealthyIdentity then return .error unhealthy
  match ← call (.setTunEnabled enabled) with
  | .error error => return .error error
  | .ok () =>
    match ← observeTunLocked with
    | .error error => return .error error
    | .ok observed =>
      let now ← call .now
      let confirmed :=
        if enabled then observed.confirmsEnabledAt now else observed.confirmsDisabledAt now
      if !confirmed then
        let now ← call .now
        return .error ⟨observed.failureKindAt now,
          "The TUN helper did not confirm the requested state"⟩
      call .clearFailure
      return .ok observed

end Helper

/-! ## The reconciler -/

variable (desired : Bool) (failure : TunFailureKind) (observation : TunNetworkObservation)

def observedState : Operation TunObservedState := do
  let now ← call .now
  return observation.observedStateAt now

/-- The snapshot is read again for the health of an available helper. -/
def availability : Operation CapabilityAvailability := do
  match (← call .snapshot).availability with
  | .available => if (← call .snapshot).isHealthy then return .supported else return .unavailable
  | .permissionRequired => return .permissionRequired
  | .recoveryRequired => return .recoveryRequired
  | .repairRequired => return .repairRequired
  | .unpackaged | .unsignedApp | .unsupportedSystem | .unavailable => return .unavailable

def isConverged (status : TunRuntimeStatus) (desired : Bool) : Bool :=
  if desired then status.desired && status.phase = .applied && status.observed = .enabled
  else !status.desired && status.phase = .off

def setPending : Operation Unit := do
  let previous ← call .readStatus
  call (.writeStatus ⟨desired, none, previous.observation, previous.observed, .pending⟩)

def recordFailure (observed : TunObservedState)
    (observation : Option TunNetworkObservation) : Operation Unit :=
  call (.writeStatus ⟨desired, some failure, observation, observed, .failed⟩)

def recordDrift : Operation Unit := do
  let status ← call .readStatus
  call (.writeStatus { status with
    failure := some failure, phase := .drift, observed := .unknown, observation := none })

def recordObservedDrift :
    Operation Unit := do
  let status ← call .readStatus
  let observed ← observedState observation
  call (.writeStatus { status with
    failure := some failure, phase := .drift, observed
    observation := some observation })

/-- The status of an observation that confirmed what was asked for. -/
def confirmedStatus
    (observed : TunObservedState) : TunRuntimeStatus where
  desired := desired
  failure := none
  observation := some observation
  observed := observed
  phase := if observed = .enabled then .applied else .off

/-- `reconcile` from the pending status on. -/
def switch : Operation (SystemProxy.Fallible TunRuntimeStatus) := do
  setPending desired
  match ← Helper.setTunEnabled desired with
  | .ok observation =>
    let observed ← observedState observation
    let status := confirmedStatus desired observation observed
    call (.writeStatus status)
    return .ok status
  | .error error =>
    let failure := mapHelperFailure error.kind
    match ← Helper.observeTun with
    | .ok observation =>
      let observed ← observedState observation
      recordFailure desired failure observed (some observation)
      return .error (captureErrorFromTunFailure failure)
    | .error _ =>
      recordFailure desired failure .unknown none
      return .error (captureErrorFromTunFailure failure)

def reconcile (desired coreHealthy : Bool) : Operation (SystemProxy.Fallible TunRuntimeStatus) := do
  let previous ← call .readStatus
  if !desired && previous.phase = .off && !previous.desired then return .ok previous
  if desired && previous.desired && previous.phase = .applied && previous.observed = .enabled then
    return .ok previous
  if desired then
    if (← availability) ≠ .supported then
      let failure := helperSnapshotFailure (← call .snapshot)
      recordFailure true failure previous.observed previous.observation
      return .error (captureErrorFromTunFailure failure)
    if !coreHealthy then
      recordFailure true .coreUnhealthy previous.observed previous.observation
      return .error ⟨.coreUnhealthy, "TUN capture requires a healthy Mihomo core", none, none⟩
  switch desired

/-- `audit` from the observation on. -/
def auditObserved (current : TunRuntimeStatus) (observed : TunNetworkObservation) :
    Operation (SystemProxy.Fallible (TunRuntimeStatus × Bool)) := do
  let now ← call .now
  let matchesDesired :=
    if current.desired then observed.confirmsEnabledAt now else observed.confirmsDisabledAt now
  if matchesDesired then
    let state ← observedState observed
    let status := confirmedStatus current.desired observed state
    call (.writeStatus status)
    return .ok (status, false)
  let now ← call .now
  recordObservedDrift (mapHelperFailure (observed.failureKindAt now)) observed
  return .error ⟨.externalDrift, "TUN state changed outside Mish", none, none⟩

def audit (coreHealthy : Bool) : Operation (SystemProxy.Fallible (TunRuntimeStatus × Bool)) := do
  let current ← call .readStatus
  if current.desired && !coreHealthy then
    match ← reconcile false false with
    | .error error => return .error error
    | .ok status =>
      let status :=
        { status with desired := true, failure := some .coreUnhealthy, phase := .failed }
      call (.writeStatus status)
      return .ok (status, true)
  if (← availability) ≠ .supported then
    if current.desired || current.observed = .enabled then
      let failure := helperSnapshotFailure (← call .snapshot)
      recordDrift failure
      return .error (captureErrorFromTunFailure failure)
    return .ok (current, false)
  match ← Helper.observeTun with
  | .error error =>
    let failure := mapHelperFailure error.kind
    recordDrift failure
    return .error (captureErrorFromTunFailure failure)
  | .ok observed => auditObserved current observed

/-! ## What it runs against -/

/-- `behaves s r a s'`: with the network in state `s` the request `r` may be
answered `a`, which leaves it in state `s'`. -/
abbrev Behaviour (τ : Type) := Environment Request Reply τ

structure World (τ : Type) where
  status : TunRuntimeStatus
  network : τ

def statusAfter (status : TunRuntimeStatus) : Request → TunRuntimeStatus
  | .writeStatus written => written
  | _ => status

/-- The replies the status cell allows. Other tasks refresh the snapshot. -/
def Answers {τ : Type} (w : World τ) : (r : Request) → Reply r → Prop
  | .readStatus, status => status = w.status
  | _, _ => True

def helper {τ : Type} (behaves : Behaviour τ) : Environment Request Reply (World τ) :=
  fun w r a t => Answers w r a ∧ behaves w.network r a t.network ∧ t.status = statusAfter w.status r

/-! ## One rule per request -/

section
variable {τ : Type} {behaves : Behaviour τ} {allowed : World τ → Request → Prop} {w : World τ}
  {post : Unit → World τ → Prop}

theorem safe_call {r post} : Safe (helper behaves) allowed post (call r) w ↔ allowed w r ∧
    ∀ a, Answers w r a → ∀ s, behaves w.network r a s → post a ⟨statusAfter w.status r, s⟩ := by
  constructor
  · rintro ⟨ok, later⟩
    exact ⟨ok, fun a answers s b => later a ⟨_, s⟩ ⟨answers, b, rfl⟩⟩
  · rintro ⟨ok, later⟩
    refine ⟨ok, fun a ⟨status, network⟩ ⟨answers, b, same⟩ => ?_⟩
    obtain rfl : status = statusAfter w.status r := same
    exact later a answers network b

/-- The reply is not bound to the status, and says something. -/
abbrev Request.isFree : Request → Bool
  | .readStatus | .writeStatus _ | .lockOperation | .clearFailure => false
  | _ => true

@[simp] theorem safe_free {r} {post : no_index (Reply r) → World τ → Prop}
    (free : r.isFree = true) : Safe (helper behaves) allowed post (call r) w ↔ allowed w r ∧
    ∀ a s, behaves w.network r a s → post a ⟨w.status, s⟩ := by
  refine safe_call.trans (and_congr_right fun _ => forall_congr' fun a => ?_)
  cases r with
  | readStatus | writeStatus | lockOperation | clearFailure => cases free
  | _ => exact ⟨fun h => h trivial, fun h _ => h⟩

@[simp] theorem safe_observeTun {post : HelperResult TunNetworkObservation → World τ → Prop} :
    Safe (helper behaves) allowed post (call .observeTun) w ↔ allowed w .observeTun ∧
    ∀ a s, behaves w.network .observeTun a s → post a ⟨w.status, s⟩ :=
  safe_free rfl

@[simp] theorem safe_readStatus {post : TunRuntimeStatus → World τ → Prop} :
    Safe (helper behaves) allowed post (call .readStatus) w ↔ allowed w .readStatus ∧
    ∀ s, behaves w.network .readStatus w.status s → post w.status ⟨w.status, s⟩ := by
  refine safe_call.trans (and_congr_right fun _ => ⟨fun h => h _ rfl, fun h a same => ?_⟩)
  obtain rfl : a = w.status := same
  exact h

@[simp] theorem safe_writeStatus {status} :
    Safe (helper behaves) allowed post (call (.writeStatus status)) w ↔
    allowed w (.writeStatus status) ∧
    ∀ s, behaves w.network (.writeStatus status) () s → post () ⟨status, s⟩ :=
  safe_call.trans (and_congr_right fun _ => ⟨fun h => h () trivial, fun h _ _ => h⟩)

@[simp] theorem safe_lockOperation : Safe (helper behaves) allowed post (call .lockOperation) w ↔
    allowed w .lockOperation ∧ ∀ s, behaves w.network .lockOperation () s → post () ⟨w.status, s⟩ :=
  safe_call.trans (and_congr_right fun _ => ⟨fun h => h () trivial, fun h _ _ => h⟩)

@[simp] theorem safe_clearFailure : Safe (helper behaves) allowed post (call .clearFailure) w ↔
    allowed w .clearFailure ∧ ∀ s, behaves w.network .clearFailure () s → post () ⟨w.status, s⟩ :=
  safe_call.trans (and_congr_right fun _ => ⟨fun h => h () trivial, fun h _ _ => h⟩)

end

end Tun

end Mish.Capture
