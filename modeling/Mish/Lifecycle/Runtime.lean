import Mish.Capture.CaptureReconciler

/-!
# The runtime

What `MishRuntime` does for the user's Capture commands and for the lifecycle
coordinator. The functions are programs over the calls they make: to the Capture
reconciler, to the core, to the observation source and to the traffic record.
-/

namespace Mish.Lifecycle
open Interaction Capture
open SystemProxy (Fallible)

inductive CorePhase where
  | stopped | starting | running | stopping | failed
  deriving DecidableEq

inductive PlatformSleepState where
  | awake | sleeping
  deriving DecidableEq

/-- The sequence numbers are `u64`s. -/
structure PlatformSleepObservation where
  sequence : Nat
  state : PlatformSleepState

/-- The answer of the platform within the observation timeout. -/
inductive SleepAnswer where
  | timedOut
  | unavailable
  | observed (observation : PlatformSleepObservation)

inductive RuntimeObservationPauseReason where
  | coreUnavailable | lifecycleGap | networkChanged | sleep
  deriving DecidableEq

inductive RecentTrafficContinuity where
  | continue_ | discontinue
  deriving DecidableEq

inductive LifecycleAuthorityState where
  | awake | sleeping | unknownAfterGap
  deriving DecidableEq

inductive LifecycleRecoveryState where
  | current | observationTimedOut | observationUnavailable | observingAfterGap | staleObservation
  | streamClosed
  deriving DecidableEq

structure LifecycleAuthoritySnapshot where
  generation : Nat
  recovery : LifecycleRecoveryState
  sequence : Nat
  state : LifecycleAuthorityState
  deriving DecidableEq

def LifecycleAuthoritySnapshot.initial : LifecycleAuthoritySnapshot := ⟨1, .current, 0, .awake⟩

inductive Request where
  | lockTransition
  | readAuthority
  | writeAuthority (authority : LifecycleAuthoritySnapshot)
  | observeSleepState
  | coreStatus
  | coreConfigured
  | runtimeTransitionPending
  | captureStatus
  | reconcile (req : CaptureRequest) (coreHealthy : Bool)
  | audit (reason : CaptureAuditReason) (coreHealthy : Bool)
  | pauseObservations (reason : RuntimeObservationPauseReason)
  | resumeObservations
  | recentTrafficRevision
  | recentTrafficProfile
  | captureApplied (profileId : String)
  | stopRecentTraffic
  | suspendRecentTraffic
  | discontinueRecentTraffic
  | resumeRecentTraffic (continuity : RecentTrafficContinuity)
  | publishStatus
  | publishCoordinatorObservation
  | invalidateNetworkDns
  | refreshNetworkDns
  | recordCaptureFailure (error : CaptureTransitionError)
  | recordApplicationEvent (error : CaptureTransitionError)
  | resolveCaptureFailureNotifications
  deriving DecidableEq

@[reducible] def Reply : Request → Type
  | .readAuthority => LifecycleAuthoritySnapshot
  | .observeSleepState => SleepAnswer
  | .coreStatus => CorePhase
  | .coreConfigured | .runtimeTransitionPending => Bool
  | .captureStatus => CaptureRuntimeStatus
  | .reconcile _ _ | .audit _ _ => Fallible CaptureRuntimeStatus
  | .recentTrafficRevision => Nat
  | .recentTrafficProfile => Option String
  | _ => Unit

abbrev Action := Program Request Reply

def call (r : Request) : Action (Reply r) := request r

/-- What the host was composed of: a runtime may have no Capture reconciler, and
the coordinator no platform source and no settings. -/
structure Host where
  (hasCapture hasSource hasSettings : Bool)

namespace Host
variable (h : Host)

def coreHealthy : Action Bool := do
  let phase ← call .coreStatus
  let configured ← call .coreConfigured
  return configured && phase = .running

def reconcileRecentTrafficAfterCapture (explicitActive : Bool) : Action Unit := do
  let status ← call .captureStatus
  if status.systemProxyEnabled || status.tunEnabled then
    match ← call .recentTrafficProfile with
    | some profileId => call (.captureApplied profileId)
    | none => return ()
  else if !explicitActive then call .stopRecentTraffic

/-- `finish_capture_reconciliation`, with an immediate notification. -/
def finishCaptureReconciliation (result : Fallible CaptureRuntimeStatus) (explicitActive : Bool) :
    Action (Fallible Unit) := do
  match result with
  | .error error =>
    call (.recordCaptureFailure error)
    return .error error
  | .ok _ =>
    let recentRevision ← call .recentTrafficRevision
    reconcileRecentTrafficAfterCapture explicitActive
    if (← call .recentTrafficRevision) ≠ recentRevision then call .publishStatus
    call .resolveCaptureFailureNotifications
    return .ok ()

def setCapture (req : CaptureRequest) : Action (Fallible Unit) := do
  if h.hasCapture then
    let healthy ← coreHealthy
    let result ← call (.reconcile req healthy)
    finishCaptureReconciliation result req.active
  else return .error ⟨.capabilityUnavailable, "System Proxy is unavailable in this runtime",
    none, none⟩

/-- Tells whether the published status has changed. -/
def auditCapture (reason : CaptureAuditReason) : Action (Fallible Bool) := do
  if h.hasCapture then
    let before ← call .captureStatus
    let healthy ← coreHealthy
    let result ← call (.audit reason healthy)
    let after ← call .captureStatus
    match result with
    | .ok _ => return .ok (before ≠ after)
    | .error error =>
      call (.recordCaptureFailure error)
      return .error error
  else return .ok false

/-- The request `restore_capture_intent` makes of a selection. -/
def restoreRequest (selection : CaptureSelection) (healthy : Bool) :
    Action (Fallible CaptureRuntimeStatus) :=
  if selection.systemProxy || selection.tun then call (.reconcile ⟨true, selection⟩ healthy)
  else call (.audit .coreHealthChanged healthy)

def restoreCaptureIntent : Action (Fallible Bool) := do
  if h.hasCapture then
    if ← call .runtimeTransitionPending then return .ok false
    else
      let before ← call .captureStatus
      let aggregateTransitionPending :=
        before.systemProxy.phase = .pending || before.tun.phase = .pending
      let healthy ← coreHealthy
      let result ← restoreRequest before.captureSelection healthy
      let after ← call .captureStatus
      match result with
      | .ok _ => return .ok (before ≠ after)
      | .error error =>
        if aggregateTransitionPending then call (.recordApplicationEvent error)
        else call (.recordCaptureFailure error)
        return .error error
  else return .ok false

def captureOperationPending : Action Bool := do
  if h.hasCapture then
    let status ← call .captureStatus
    return status.captureOperation.isBusy
  else return false

end Host

/-! ## What it runs against -/

/-- The whole desktop: the Capture reconciler, which every runtime of the host
shares, the coordinator's authority, and everything else. -/
structure Desktop (m : CaptureMachine) (σ τ ρ : Type) where
  capture : CaptureReconciler.Live m σ τ
  authority : LifecycleAuthoritySnapshot
  surroundings : ρ

/-- The call of the Capture reconciler behind a request. -/
def onCapture : (r : Request) → Option (CaptureReconciler.Operation (Reply r))
  | .runtimeTransitionPending => some (CaptureReconciler.call .runtimeTransition)
  | .captureStatus => some CaptureReconciler.status
  | .reconcile req coreHealthy => some (CaptureReconciler.reconcile req coreHealthy)
  | .audit reason coreHealthy => some (CaptureReconciler.audit reason coreHealthy)
  | _ => none

def authorityAfter (authority : LifecycleAuthoritySnapshot) : Request → LifecycleAuthoritySnapshot
  | .writeAuthority written => written
  | _ => authority

/-- The authority cell is read by the coordinator only. -/
def ReadsAuthority (authority : LifecycleAuthoritySnapshot) : (r : Request) → Reply r → Prop
  | .readAuthority, read => read = authority
  | _, _ => True

section
variable {m : CaptureMachine} {σ τ ρ : Type} (c : CaptureEffectAdapter)
  (services : SystemProxy.Behaviour σ) (network : Tun.Behaviour τ)
  (behaves : Environment Request Reply ρ)

/-- A call of the reconciler runs to its end before it is answered. -/
def Captures (d : CaptureReconciler.Live m σ τ) (r : Request) (a : Reply r)
    (t : CaptureReconciler.Live m σ τ) : Prop :=
  match onCapture r with
  | some p => Exec (CaptureReconciler.live c services network) p d (.done a) t
  | none => t = d

def desktop : Environment Request Reply (Desktop m σ τ ρ) := fun d r a t =>
  Captures c services network d.capture r a t.capture ∧ ReadsAuthority d.authority r a ∧
    t.authority = authorityAfter d.authority r ∧ behaves d.surroundings r a t.surroundings

end

end Mish.Lifecycle
