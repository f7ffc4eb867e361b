import Mish.Lifecycle.Runtime

/-!
# The lifecycle coordinator

`DesktopLifecycleCoordinator`: the handlers of platform events, of the core's
availability, of runtime replacement and of the periodic audit. All of them hold
the transition lock to their end.
-/

namespace Mish.Lifecycle
open Interaction Capture
open SystemProxy (Fallible)

inductive PlatformLifecycleEventKind where
  | networkChanged | sleep | wake
  deriving DecidableEq

structure PlatformLifecycleEvent where
  kind : PlatformLifecycleEventKind
  sequence : Nat

inductive LifecycleEventDisposition where
  | applied | awaitingRecovery | recoveredAfterGap | staleIgnored

structure LifecycleCoordinationError where
  captureFailure : CaptureFailureKind

abbrev Coordinated := Except LifecycleCoordinationError

def captureError (error : CaptureTransitionError) : LifecycleCoordinationError := ⟨error.kind⟩

/-- `result.map(|_| ()).map_err(capture_error)`. -/
def coordinated {α : Type} : Fallible α → Coordinated Unit
  | .ok _ => .ok ()
  | .error error => .error (captureError error)

def authorityState : PlatformSleepState → LifecycleAuthorityState
  | .awake => .awake
  | .sleeping => .sleeping

def pauseReasonFor : LifecycleAuthorityState → RuntimeObservationPauseReason
  | .awake => .networkChanged
  | .sleeping => .sleep
  | .unknownAfterGap => .lifecycleGap

/-- `saturating_add(1)` on a `u64`. -/
def saturatingSucc (n : Nat) : Nat := min (n + 1) StateMachine.maxU64

namespace Host
variable (h : Host)

def invalidateNetworkDns : Action Unit :=
  if h.hasSettings then call .invalidateNetworkDns else return ()

def refreshNetworkDns : Action Unit :=
  if h.hasSettings then call .refreshNetworkDns else return ()

/-- A change of the traffic record that is published if it shows. -/
def publishing (change : Action Unit) : Action Unit := do
  let recentRevision ← call .recentTrafficRevision
  change
  if (← call .recentTrafficRevision) ≠ recentRevision then call .publishCoordinatorObservation

def markUnknown (recovery : LifecycleRecoveryState) : Action Unit := do
  let authority ← call .readAuthority
  call (.writeAuthority { authority with
    generation := saturatingSucc authority.generation, recovery
    state := .unknownAfterGap })

def setRecovery (recovery : LifecycleRecoveryState) : Action Unit := do
  let authority ← call .readAuthority
  call (.writeAuthority { authority with recovery })

/-- The authority adopts an observation of the platform. -/
def adoptObservation (observation : PlatformSleepObservation) : Action Unit := do
  let authority ← call .readAuthority
  call (.writeAuthority { authority with
    sequence := observation.sequence, recovery := .current
    state := authorityState observation.state })

def suspendConsumers (reason : RuntimeObservationPauseReason) : Action Unit := do
  h.invalidateNetworkDns
  publishing (call .suspendRecentTraffic)
  call (.pauseObservations reason)

def discontinueConsumersAfterGap : Action Unit := do
  h.invalidateNetworkDns
  publishing (call .discontinueRecentTraffic)
  call (.pauseObservations .lifecycleGap)

def initializePlatformAuthority : Action Unit := do
  call .lockTransition
  if h.hasSource then
    match ← call .observeSleepState with
    | .timedOut =>
      markUnknown .observationTimedOut
      h.discontinueConsumersAfterGap
    | .unavailable =>
      markUnknown .observationUnavailable
      h.discontinueConsumersAfterGap
    | .observed observation =>
      let previous := (← call .readAuthority).state
      adoptObservation observation
      if previous = .awake ∧ observation.state = .sleeping then h.suspendConsumers .sleep

/-- The capture intent is restored, and the traffic record continues if that
succeeds. -/
def restoreAndContinue : Action (Coordinated Unit) := do
  match ← h.restoreCaptureIntent with
  | .ok _ =>
    publishing (call (.resumeRecentTraffic .continue_))
    return .ok ()
  | .error error =>
    publishing (call .discontinueRecentTraffic)
    return .error (captureError error)

/-- A core that is not running is not asked whether it is configured. -/
def coreReady : Action Bool := do
  let phase ← call .coreStatus
  if phase = .running then call .coreConfigured else return false

def rebuildCurrentAuthorityLocked (reason : RuntimeObservationPauseReason)
    (pauseBeforeRebuild : Bool) : Action (Coordinated Unit) := do
  if (← call .readAuthority).state ≠ .awake then return .ok ()
  else if ← h.captureOperationPending then return .ok ()
  else
    if pauseBeforeRebuild then
      publishing (call .suspendRecentTraffic)
      call (.pauseObservations reason)
    if ← coreReady then
      call .resumeObservations
      h.restoreAndContinue
    else return coordinated (← h.auditCapture .coreHealthChanged)

def acceptPlatformObservation (observation : PlatformSleepObservation) :
    Action (Coordinated Unit) := do
  if observation.sequence ≤ (← call .readAuthority).sequence then
    setRecovery .staleObservation
    return .ok ()
  else
    adoptObservation observation
    if observation.state = .awake then
      match ← h.rebuildCurrentAuthorityLocked .lifecycleGap false with
      | .error error => return .error error
      | .ok () =>
        h.refreshNetworkDns
        return .ok ()
    else return .ok ()

def recoverAfterEventGapLocked : Action (Coordinated Unit) := do
  markUnknown .observingAfterGap
  h.discontinueConsumersAfterGap
  if h.hasSource then
    match ← call .observeSleepState with
    | .timedOut =>
      setRecovery .observationTimedOut
      return .ok ()
    | .unavailable =>
      setRecovery .observationUnavailable
      return .ok ()
    | .observed observation => h.acceptPlatformObservation observation
  else
    setRecovery .observationUnavailable
    return .ok ()

/-- A network change that cannot be judged only moves the sequence on. -/
def awaitRecovery (event : PlatformLifecycleEvent) :
    Action (Coordinated LifecycleEventDisposition) := do
  let authority ← call .readAuthority
  call (.writeAuthority { authority with sequence := event.sequence })
  return .ok .awaitingRecovery

/-- The rebuild an event asks for. -/
def rebuildForEvent (pauseBeforeRebuild : Bool) :
    Action (Coordinated LifecycleEventDisposition) := do
  h.invalidateNetworkDns
  match ← h.rebuildCurrentAuthorityLocked .networkChanged pauseBeforeRebuild with
  | .error error => return .error error
  | .ok () =>
    h.refreshNetworkDns
    return .ok .applied

/-- `handle_platform_event` for an event that is next in sequence. -/
def applyEvent (event : PlatformLifecycleEvent) :
    Action (Coordinated LifecycleEventDisposition) := do
  let previous := (← call .readAuthority).state
  if previous = .unknownAfterGap ∧ event.kind = .networkChanged then awaitRecovery event
  else
    let authority ← call .readAuthority
    call (.writeAuthority { authority with
      sequence := event.sequence, recovery := .current
      state := match event.kind with
        | .sleep => .sleeping
        | .wake => .awake
        | .networkChanged => authority.state })
    match event.kind with
    | .sleep =>
      if previous = .awake then h.suspendConsumers .sleep
      return .ok .applied
    | .wake => if previous ≠ .awake then h.rebuildForEvent false else return .ok .applied
    | .networkChanged =>
      if (← call .readAuthority).state ≠ .awake then return .ok .applied
      else h.rebuildForEvent true

def handlePlatformEvent (event : PlatformLifecycleEvent) :
    Action (Coordinated LifecycleEventDisposition) := do
  call .lockTransition
  let authority ← call .readAuthority
  if event.sequence ≤ authority.sequence then return .ok .staleIgnored
  else if h.hasSource ∧ saturatingSucc authority.sequence < event.sequence then
    match ← h.recoverAfterEventGapLocked with
    | .error error => return .error error
    | .ok () =>
      let recovered ← call .readAuthority
      if event.sequence ≤ recovered.sequence then return .ok .recoveredAfterGap
      else if recovered.state = .unknownAfterGap ∧ event.kind = .networkChanged then
        awaitRecovery event
      else h.applyEvent event
  else h.applyEvent event

/-- The core is not running while the desktop is awake. -/
def auditWithoutCore : Action (Coordinated Unit) := do
  call .suspendRecentTraffic
  call (.pauseObservations .coreUnavailable)
  return coordinated (← h.auditCapture .coreHealthChanged)

def handleCoreAvailability (running : Bool) : Action (Coordinated Unit) := do
  call .lockTransition
  let state := (← call .readAuthority).state
  h.invalidateNetworkDns
  if state ≠ .awake then
    if running then
      call .suspendRecentTraffic
      call (.pauseObservations (pauseReasonFor state))
    return .ok ()
  else if running then
    call .resumeObservations
    match ← h.restoreAndContinue with
    | .error error => return .error error
    | .ok () =>
      h.refreshNetworkDns
      return .ok ()
  else h.auditWithoutCore

def handleRuntimeReplacement (running : Bool) : Action (Coordinated Unit) := do
  call .lockTransition
  let state := (← call .readAuthority).state
  h.invalidateNetworkDns
  if state ≠ .awake then
    call .suspendRecentTraffic
    call (.pauseObservations (pauseReasonFor state))
    return .ok ()
  else if running then
    call .resumeObservations
    publishing (call (.resumeRecentTraffic .continue_))
    h.refreshNetworkDns
    return .ok ()
  else h.auditWithoutCore

def periodicAudit : Action (Coordinated Unit) := do
  call .lockTransition
  if (← call .readAuthority).state ≠ .awake then return .ok ()
  else return coordinated (← h.auditCapture .periodic)

def reconcileAfterEventGap : Action (Coordinated Unit) := do
  call .lockTransition
  h.recoverAfterEventGapLocked

def handleEventStreamClosed : Action Unit := do
  call .lockTransition
  markUnknown .streamClosed
  h.discontinueConsumersAfterGap

/-- The audit that follows the coordinator's start. -/
def restartAudit : Action Unit := do
  if (← call .readAuthority).state = .awake then
    let _ ← h.auditCapture .restart

end Host

/-- The calls of the coordination task, which drops their results. -/
inductive Call where
  | initializePlatformAuthority
  | restartAudit
  | platformEvent (event : PlatformLifecycleEvent)
  | coreAvailability (running : Bool)
  | runtimeReplacement (running : Bool)
  | periodicAudit
  | reconcileAfterEventGap
  | eventStreamClosed

def Call.program (h : Host) : Call → Action Unit
  | .initializePlatformAuthority => h.initializePlatformAuthority
  | .restartAudit => h.restartAudit
  | .platformEvent event => do let _ ← h.handlePlatformEvent event
  | .coreAvailability running => do let _ ← h.handleCoreAvailability running
  | .runtimeReplacement running => do let _ ← h.handleRuntimeReplacement running
  | .periodicAudit => do let _ ← h.periodicAudit
  | .reconcileAfterEventGap => do let _ ← h.reconcileAfterEventGap
  | .eventStreamClosed => h.handleEventStreamClosed

end Mish.Lifecycle
