import Mish.Lifecycle.Runtime
import Mish.ProfileActivation.Finalizer

/-!
# The activation manager

`MihomoActivationManager` of `activation.rs`: `activate_cancellable_observed_for_operation` and
`shutdown`, with the helpers they roll back and restore with. The state under the lock is passed
on; every call on a core, the capture reconciler, the listeners and the disk is a request that may
be answered in any way.
-/

namespace Mish.Activation
open Interaction
open Capture (CaptureFailureKind CaptureRequest CaptureSelection)
open Lifecycle (CorePhase)
open ProfileActivation (MihomoActivationError MihomoResolveError ActivationCommit)

/-! ## Values -/

structure SocketAddr where
  host : String
  port : Nat

/-- As the source prints it. -/
def SocketAddr.text (endpoint : SocketAddr) : String :=
  endpoint.host ++ ":" ++ toString endpoint.port

inductive ActivationOutcome where
  | succeeded | failed

inductive ActivationFailureKind where
  | invalidArtifact | resolve | staging | validation | geodataFailed | geodataTimeout | start
  | earlyExit | managedListenerConflict | versionMismatch | controller | timeout | cancelled
  | capture | priorStop | stateCommit

def failureKind : MihomoActivationError → ActivationFailureKind
  | .invalidArtifact | .invalidTiming => .invalidArtifact
  | .resolve _ => .resolve
  | .stagingFailed => .staging
  | .validationFailed => .validation
  | .geodataFailed _ => .geodataFailed
  | .geodataTimeout _ => .geodataTimeout
  | .startFailed | .tunHelperUnavailable | .tunNetworkOwnershipConflict => .start
  | .earlyExit => .earlyExit
  | .managedListenerConflict _ => .managedListenerConflict
  | .versionMismatch => .versionMismatch
  | .controllerFailure => .controller
  | .readinessTimeout => .timeout
  | .cancelled => .cancelled
  | .captureFailed _ => .capture
  | .priorStopFailed => .priorStop
  | .stateCommitFailed | .rollbackFailedSafeStopped | .shutdownFailed | .ownershipFailed =>
    .stateCommit

structure ActivationAttempt where
  attemptedAtUnixMilliseconds : Nat
  failure : Option ActivationFailureKind
  fingerprint : String
  outcome : ActivationOutcome
  profileId : String

structure ManagedActivationState extends ProfileActivation.ManagedActivationState where
  lastSuccessfulProfileId : Option String
  lastAttempt : Option ActivationAttempt
  schemaVersion : Nat

/-- `ActiveMihomo` -/
structure Generation where
  controllerAddress : SocketAddr
  (fingerprint profileId : String)
  proxyEndpoint : SocketAddr
  (revision runtimeId : String)

/-- `captureTransition` says whether the manager holds a transition of the capture reconciler. -/
structure ActivationState where
  active : Option Generation
  captureTransition : Bool
  managed : ManagedActivationState

/-- The profile record; `valid` is what `validate_activation_record` says of it. -/
structure ProfileRecord where
  (fingerprint profileId revision : String)
  valid : Bool

structure ManagedRuntimePolicy where
  (controllerAddress proxyEndpoint : SocketAddr)

/-- What a manager is built with: a capture reconciler, managed ownership of the cores, and timing
that is valid. -/
structure Setup where
  (capture ownership timing : Bool)

/-- The part of the confirmed capture status that is read. -/
structure ConfirmedCapture where
  captureSelection : CaptureSelection
  (systemProxyDesired tunDesired : Bool)

inductive PrivilegedCoreHostError where
  | unavailable | networkOwnershipConflict | rejected | operationFailed

/-! ## Requests -/

/-- The helper that a call is made from. -/
inductive Stage where
  | prior | candidate | handoff | abort | rollback | restore | shutdown
  deriving DecidableEq

inductive Request where
  | recoverStartup
  | resolve
  | beginListenerPreparation
  | finishListenerPreparation
  -- with the cancellation it is raced against
  | earlyListenerConflict (active : Option Generation) (policy : ManagedRuntimePolicy)
  | prepareGeneration
  | isCancelled
  | beginRuntimeTransition
  | pauseObservations (generation : Generation)
  | resumeObservations (generation : Generation)
  | confirmedStatus
  -- the core that the capture is to point at is not passed to the reconciler
  | reconcile (request : CaptureRequest) (healthy : Bool) (stage : Stage)
      (core : Option Generation)
  | start (generation : Generation) (stage : Stage)
  | stop (generation : Generation) (stage : Stage)
  | coreStatus (generation : Generation)
  | coreConfigured (generation : Generation)
  | seedBundledGeodata
  | commitListenerConflict (proxy controller : SocketAddr)
  | listenerRelease (endpoints : List SocketAddr) (core : Generation)
  | privilegedStartFailure (generation : Generation)
  | processError (generation : Generation)
  | listenerConflict (generation : Generation) (unowned : Bool)
  | startSource (generation : Generation)
  | waitForCandidate (generation : Generation) (stage : Stage)
  | closeSource (generation : Generation)
  | removeGenerationConfig (generation : Generation)
  | nowUnixMilliseconds
  | persistManagedState (managed : ManagedActivationState)

abbrev Reply : Request → Type
  | .recoverStartup | .isCancelled | .beginRuntimeTransition | .start _ _ | .stop _ _
  | .coreConfigured _ | .persistManagedState _ => Bool
  | .resolve => Except MihomoResolveError Unit
  | .beginListenerPreparation | .finishListenerPreparation | .seedBundledGeodata
  | .waitForCandidate _ _ => Except MihomoActivationError Unit
  | .earlyListenerConflict _ _ | .commitListenerConflict _ _ =>
    Except MihomoActivationError (Option SocketAddr)
  | .prepareGeneration => Except MihomoActivationError String
  | .confirmedStatus => ConfirmedCapture
  | .reconcile _ _ _ _ => Except CaptureFailureKind Unit
  | .coreStatus _ => CorePhase
  | .listenerRelease _ _ | .listenerConflict _ _ => Option SocketAddr
  | .privilegedStartFailure _ => Option PrivilegedCoreHostError
  | .processError _ => Option String
  | .nowUnixMilliseconds => Nat
  | .pauseObservations _ | .resumeObservations _ | .startSource _ | .closeSource _
  | .removeGenerationConfig _ => Unit

abbrev Action := Program Request Reply

def ask (r : Request) : Action (Reply r) := request r

/-- The result of a call, and the state it leaves. -/
abbrev Outcome (α : Type) := Except MihomoActivationError α × ActivationState

/-! ## Bookkeeping -/

def ManagedActivationState.withoutActive (managed : ManagedActivationState) :
    ManagedActivationState :=
  { managed with
    activeFingerprint := none
    activeProfileId := none
    activeRevision := none
    activeRuntimeId := none }

def recordFailedAttempt (managed : ManagedActivationState) (record : ProfileRecord)
    (error : MihomoActivationError) (now : Nat) : ManagedActivationState :=
  { managed with
    lastAttempt := some ⟨now, some (failureKind error), record.fingerprint, .failed,
      record.profileId⟩ }

def committedState (candidate : Generation) (now : Nat) : ManagedActivationState where
  activeFingerprint := some candidate.fingerprint
  activeProfileId := some candidate.profileId
  activeRevision := some candidate.revision
  activeRuntimeId := some candidate.runtimeId
  lastSuccessfulProfileId := some candidate.profileId
  lastAttempt := some ⟨now, none, candidate.fingerprint, .succeeded, candidate.profileId⟩
  schemaVersion := 2

/-- How a failed call ends that writes the record: `persist_managed_state(..)?`, in some arms
followed by `finish_listener_preparation().await?`. -/
def conclude {α : Type} (finishes : Bool) (state : ActivationState)
    (error : MihomoActivationError) : Action (Outcome α) := do
  match ← ask (.persistManagedState state.managed) with
  | false => return (.error .stateCommitFailed, state)
  | true =>
    if finishes then
      match ← ask .finishListenerPreparation with
      | .error failure => return (.error failure, state)
      | .ok () => return (.error error, state)
    else return (.error error, state)

/-- How a call ends whose record could not be written. -/
def concludeUnwritten {α : Type} (state : ActivationState) (error : MihomoActivationError) :
    Action (Outcome α) :=
  return (.error error, state)

def withFailedAttempt (record : ProfileRecord) (error : MihomoActivationError)
    (state : ActivationState) : Action ActivationState := do
  let now ← ask .nowUnixMilliseconds
  return { state with managed := recordFailedAttempt state.managed record error now }

/-- A failure before the previous generation has been touched. -/
def failAttempt {α : Type} (record : ProfileRecord) (finishes : Bool)
    (error : MihomoActivationError) (state : ActivationState) : Action (Outcome α) := do
  let state ← withFailedAttempt record error state
  conclude finishes state error

/-- The previous generation is given up. -/
def dropActive (state : ActivationState) : Action ActivationState := do
  match state.active with
  | some previous =>
    ask (.closeSource previous)
    ask (.removeGenerationConfig previous)
  | none => pure ()
  return { state with active := none, managed := state.managed.withoutActive }

/-! ## Helpers -/

section
variable (setup : Setup) (candidate : Generation)

def rollbackCandidate : Action Unit := do
  ask (.closeSource candidate)
  let _ ← ask (.stop candidate .rollback)
  ask (.removeGenerationConfig candidate)

def suspendConfirmed (transition : Bool) (stage : Stage) (core : Generation)
    (status : ConfirmedCapture) : Action (Except MihomoActivationError (Option CaptureSelection)) :=
  if !status.systemProxyDesired && !status.tunDesired then return .ok none
  else if !transition then return .error (.captureFailed .runtimeTransition)
  else do
    match ← ask (.reconcile ⟨false, status.captureSelection⟩ false stage (some core)) with
    | .error kind => return .error (.captureFailed kind)
    | .ok () => return .ok (some status.captureSelection)

def suspendCapture (transition : Bool) (stage : Stage) (core : Generation) :
    Action (Except MihomoActivationError (Option CaptureSelection)) :=
  if !setup.capture then return .ok none
  else do
    let status ← ask .confirmedStatus
    suspendConfirmed transition stage core status

def resumeCapture (selection : CaptureSelection) (transition : Bool) (stage : Stage)
    (core : Option Generation) : Action (Except CaptureFailureKind Unit) :=
  if !setup.capture then return .ok ()
  else if !transition then return .error .runtimeTransition
  else ask (.reconcile ⟨true, selection⟩ true stage core)

def Generation.endpoints (generation : Generation) : List SocketAddr :=
  generation.proxyEndpoint :: if setup.ownership then [generation.controllerAddress] else []

/-- `core_restored` of `restore_previous`. -/
def restoreCore (previous : Generation) : Action Bool := do
  match ← ask (.coreStatus previous) with
  | .running => return true
  | _ =>
    match ← ask (.listenerRelease (previous.endpoints setup) previous) with
    | some _ => return false
    | none => ask (.start previous .restore)

def restoreCapture (capture : Option CaptureSelection) (transition : Bool)
    (core : Option Generation) : Action Bool :=
  match capture with
  | none => return true
  | some selection => do
    match ← resumeCapture setup selection transition .restore core with
    | .ok () => return true
    | .error _ => return false

/-- `restore_previous` with a previous generation. -/
def restoreGeneration (previous : Generation) (capture : Option CaptureSelection)
    (transition : Bool) : Action Bool := do
  match ← restoreCore setup previous with
  | false => return false
  | true =>
    ask (.resumeObservations previous)
    match ← ask (.waitForCandidate previous .restore) with
    | .error _ => return false
    | .ok () => restoreCapture setup capture transition (some previous)

def restorePrevious (previous : Option Generation) (capture : Option CaptureSelection)
    (transition : Bool) : Action Bool :=
  match previous with
  | some previous => restoreGeneration setup previous capture transition
  | none => restoreCapture setup capture transition none

def versionMismatchText : String := "managed Mihomo version does not match the pinned version"

def startFailure : Action MihomoActivationError := do
  match ← ask (.privilegedStartFailure candidate) with
  | some .unavailable => return .tunHelperUnavailable
  | some .networkOwnershipConflict => return .tunNetworkOwnershipConflict
  | _ =>
    let error ← (ask (.processError candidate) : Action (Option String))
    if error = some versionMismatchText then return .versionMismatch
    else
      match ← ask (.listenerConflict candidate setup.ownership) with
      | some endpoint => return .managedListenerConflict endpoint.text
      | none => return .startFailed

def startCandidate : Action (Except MihomoActivationError Unit) := do
  match ← ask (.start candidate .candidate) with
  | false => return .error (← startFailure setup candidate)
  | true =>
    ask (.startSource candidate)
    ask (.waitForCandidate candidate .candidate)

/-- `set_capture_runtime_transition` of the candidate's runtime. -/
def setCaptureRuntimeTransition (request : CaptureRequest) :
    Action (Except CaptureFailureKind Unit) :=
  if !setup.capture then return .error .capabilityUnavailable
  else do
    let phase ← (ask (.coreStatus candidate) : Action CorePhase)
    let configured ← (ask (.coreConfigured candidate) : Action Bool)
    ask (.reconcile request (configured && phase == .running) .handoff (some candidate))

/-- `capture_handoff_failure` -/
def handOffCapture (finalCapture : Option CaptureRequest)
    (suspended : Option CaptureSelection) (transition : Bool) :
    Action (Except CaptureFailureKind Unit) :=
  match finalCapture, suspended with
  | some request, _ =>
    if transition then setCaptureRuntimeTransition setup candidate request
    else return .error .runtimeTransition
  | none, some selection => resumeCapture setup selection transition .handoff (some candidate)
  | none, none => return .ok ()

end

/-! ## Activation -/

section
variable (setup : Setup) (record : ProfileRecord) (finalCapture : Option CaptureRequest)
  (policy : ManagedRuntimePolicy) (candidate : Generation) (suspended : Option CaptureSelection)
  (transition : Bool) (state : ActivationState)

/-- The candidate is rolled back and the previous generation restored, or given up. -/
def fallBack {α : Type} (error : MihomoActivationError)
    (ending : ActivationState → MihomoActivationError → Action (Outcome α))
    (state : ActivationState) : Action (Outcome α) := do
  rollbackCandidate candidate
  match ← restorePrevious setup state.active suspended transition with
  | true =>
    let state ← withFailedAttempt record error state
    ending state error
  | false =>
    let state ← withFailedAttempt record error state
    let state ← dropActive state
    ending state .rollbackFailedSafeStopped

/-- What was applied for the candidate is suspended again, whether that succeeds or not. -/
def suspendAgain : Action Unit :=
  if suspended.isSome || finalCapture.isSome then do
    let _ ← suspendCapture setup transition .abort candidate
    return ()
  else return ()

def commitOf : ActivationCommit :=
  ⟨record.fingerprint, record.profileId, record.revision, candidate.runtimeId⟩

/-- From the decision to commit. -/
def commitCandidate : Action (Outcome ActivationCommit) := do
  let now ← (ask .nowUnixMilliseconds : Action Nat)
  match ← ask (.persistManagedState (committedState candidate now)) with
  | false =>
    suspendAgain setup finalCapture candidate suspended transition
    fallBack setup record candidate suspended transition .stateCommitFailed concludeUnwritten state
  | true =>
    match state.active with
    | some previous =>
      ask (.closeSource previous)
      ask (.removeGenerationConfig previous)
    | none => pure ()
    return (.ok (commitOf record candidate),
      ⟨some candidate, transition, committedState candidate now⟩)

/-- From the handoff of the capture. -/
def handOff : Action (Outcome ActivationCommit) := do
  match ← handOffCapture setup candidate finalCapture suspended transition with
  | .error kind =>
    fallBack setup record candidate suspended transition (.captureFailed kind) (conclude false) state
  | .ok () =>
    match ← ask .isCancelled with
    | true =>
      suspendAgain setup finalCapture candidate suspended transition
      fallBack setup record candidate suspended transition .cancelled (conclude false) state
    | false => commitCandidate setup record finalCapture candidate suspended transition state

/-- From the start of the candidate. -/
def launch : Action (Outcome ActivationCommit) := do
  match ← startCandidate setup candidate with
  | .error error =>
    fallBack setup record candidate suspended transition error (conclude false) state
  | .ok () => handOff setup record finalCapture candidate suspended transition state

/-- From the geodata and the second look at the listeners. -/
def checkListeners : Action (Outcome ActivationCommit) := do
  match ← ask .seedBundledGeodata with
  | .error error =>
    fallBack setup record candidate suspended transition error (conclude false) state
  | .ok () =>
    match ← ask (.commitListenerConflict candidate.proxyEndpoint candidate.controllerAddress) with
    | .error error =>
      fallBack setup record candidate suspended transition error (conclude true) state
    | .ok (some endpoint) =>
      fallBack setup record candidate suspended transition (.managedListenerConflict endpoint.text)
        (conclude true) state
    | .ok none => launch setup record finalCapture candidate suspended transition state

/-- From the stop of the previous core. -/
def retirePrior (candidate previous : Generation) (suspended : Option CaptureSelection)
    (transition : Bool) (state : ActivationState) : Action (Outcome ActivationCommit) := do
  match ← ask (.stop previous .prior) with
  | false =>
    fallBack setup record candidate suspended transition .priorStopFailed (conclude false) state
  | true => checkListeners setup record finalCapture candidate suspended transition state

/-- From the pause of the previous generation's observations. -/
def suspendPrior (candidate previous : Generation) (transition : Bool) (state : ActivationState) :
    Action (Outcome ActivationCommit) := do
  ask (.pauseObservations previous)
  match ← suspendCapture setup transition .prior previous with
  | .error error =>
    ask (.resumeObservations previous)
    rollbackCandidate candidate
    failAttempt record false error state
  | .ok suspended => retirePrior setup record finalCapture candidate previous suspended transition state

/-- With a candidate and the capture transition, if there is a capture. -/
def replacePrior : Action (Outcome ActivationCommit) :=
  match state.active with
  | some previous => suspendPrior setup record finalCapture candidate previous transition state
  | none => checkListeners setup record finalCapture candidate none transition state

def beginTransition : Action (Outcome ActivationCommit) :=
  if setup.capture then do
    match ← ask .beginRuntimeTransition with
    | false =>
      rollbackCandidate candidate
      failAttempt record false (.captureFailed .runtimeTransition) state
    | true => replacePrior setup record finalCapture candidate true state
  else replacePrior setup record finalCapture candidate false state

def candidateOf (runtimeId : String) : Generation :=
  ⟨policy.controllerAddress, record.fingerprint, record.profileId, policy.proxyEndpoint,
    record.revision, runtimeId⟩

/-- From the preparation of the candidate. -/
def prepareCandidate : Action (Outcome ActivationCommit) := do
  match ← ask .prepareGeneration with
  | .error error => failAttempt record true error state
  | .ok runtimeId =>
    match ← ask .isCancelled with
    | true =>
      rollbackCandidate (candidateOf record policy runtimeId)
      failAttempt record true .cancelled state
    | false => beginTransition setup record finalCapture (candidateOf record policy runtimeId) state

/-- Under the lock of the state. -/
def activateLocked : Action (Outcome ActivationCommit) := do
  match ← ask .beginListenerPreparation with
  | .error error => return (.error error, state)
  | .ok () =>
    match ← ask (.earlyListenerConflict state.active policy) with
    | .error error => failAttempt record true error state
    | .ok (some endpoint) =>
      failAttempt record true (.managedListenerConflict endpoint.text) state
    | .ok none => prepareCandidate setup record finalCapture policy state

/-- `activate_cancellable_observed_for_operation` -/
def activate : Action (Outcome ActivationCommit) := do
  match ← ask .recoverStartup with
  | false => return (.error .ownershipFailed, state)
  | true =>
    if !setup.timing then return (.error .invalidTiming, state)
    else if !record.valid then return (.error .invalidArtifact, state)
    else
      match ← ask .resolve with
      | .error error => return (.error (.resolve error), state)
      | .ok () => activateLocked setup record finalCapture policy state

end

/-! ## Shutdown -/

def completeRuntimeHandoff (state : ActivationState) : ActivationState :=
  { state with captureTransition := false }

section
variable (setup : Setup)

/-- The last steps of `shutdown`. -/
def retireActive (state : ActivationState) : Action (Outcome Unit) := do
  let state ← dropActive state
  match ← ask (.persistManagedState state.managed) with
  | false => return (.error .stateCommitFailed, state)
  | true => return (.ok (), state)

def stopActive (active : Generation) (transition : Bool) (state : ActivationState) :
    Action (Outcome Unit) := do
  ask (.pauseObservations active)
  match ← suspendCapture setup transition .shutdown active with
  | .error error =>
    ask (.resumeObservations active)
    return (.error error, state)
  | .ok _ =>
    match ← ask (.stop active .shutdown) with
    | false =>
      ask (.resumeObservations active)
      return (.error .shutdownFailed, state)
    | true => retireActive state

/-- The transition has been taken out of the state, and is gone when the call ends. -/
def shutdownWithin (transition : Bool) (state : ActivationState) : Action (Outcome Unit) :=
  match state.active with
  | some active => stopActive setup active transition state
  | none => retireActive state

def shutdown (state : ActivationState) : Action (Outcome Unit) := do
  match ← ask .recoverStartup with
  | false => return (.error .ownershipFailed, state)
  | true =>
    if state.captureTransition then
      shutdownWithin setup true { state with captureTransition := false }
    else if setup.capture then
      match ← ask .beginRuntimeTransition with
      | false => return (.error (.captureFailed .runtimeTransition), state)
      | true => shutdownWithin setup true state
    else shutdownWithin setup false state

end

end Mish.Activation
