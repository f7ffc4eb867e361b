import Mish.ProfileActivation.State

/-!
# The activation machine

The reducer of `ProfileActivationMachine`, one definition per input. The configuration that the
activation manager is handed is left out.
-/

namespace Mish.ProfileActivation
open StateMachine
open Capture (CaptureFailureKind CaptureRequest CaptureSelection)

def activationEffectId : Nat := 1
def finalizerEffectId : Nat := 2
def recoveryEffectId : Nat := 3
def compensationEffectId : Nat := 4

/-! ## What the effects carry -/

inductive MihomoResolveError where
  | binaryMissing | unsafeManagedPath | runtimeRootUnavailable
  deriving DecidableEq

inductive MihomoActivationError where
  | invalidArtifact
  | invalidTiming
  | resolve (error : MihomoResolveError)
  | stagingFailed
  | validationFailed
  | geodataFailed (asset : GeodataAsset)
  | geodataTimeout (asset : GeodataAsset)
  | startFailed
  | tunHelperUnavailable
  | tunNetworkOwnershipConflict
  | earlyExit
  | managedListenerConflict (endpoint : String)
  | versionMismatch
  | controllerFailure
  | readinessTimeout
  | cancelled
  | captureFailed (kind : CaptureFailureKind)
  | priorStopFailed
  | stateCommitFailed
  | rollbackFailedSafeStopped
  | shutdownFailed
  | ownershipFailed
  deriving DecidableEq

structure ActivationCommit where
  (fingerprint profileId revision runtimeId : String)

inductive StatusAdapterKind where
  | native | rpc

/-- A runtime, of which only the identity is compared. -/
structure MishRuntime where
  identity : Nat

structure CaptureContract where
  active : Bool
  adapterKind : StatusAdapterKind
  pendingOperationId : Option String
  selection : CaptureSelection

structure OperationResources where
  finalCapture : Option CaptureContract
  ownsFinalCapture : Bool
  previousCapture : CaptureContract
  previousHost : MishRuntime
  previousRuntime : Runtime
  suppressCaptureFailureNotification : Bool

inductive Work where
  | activate (finalCapture : Option (CaptureRequest × StatusAdapterKind))
  | stop

inductive TaskOutcome where
  | activate (result : Except MihomoActivationError ActivationCommit)
  | stop (result : Except MihomoActivationError Unit)
  | failed

inductive Finalization where
  | completed (completion : Completion)
  | captureFailure (kind : CaptureFailureKind) (runtime : Runtime)
  | recoveryRequired (evidence : FailureEvidence) (runtime : Runtime)

inductive Compensation where
  | restoredSafe
  | recoveryRequired (evidence : FailureEvidence) (runtime : Runtime)

inductive Input where
  | begin (attemptedAt : Nat) (commandId : String) (operation : Operation)
      (resources : OperationResources) (targetFingerprint : Option String)
      (targetProfileId : String) (targetRevision : Option String) (work : Work)
  | reject (attemptedAt : Nat) (commandId : String) (evidence : FailureEvidence)
      (targetFingerprint : Option String) (targetProfileId : String)
      (targetRevision : Option String)
  | compensate (commandId : String) (resources : OperationResources)
  | compensationFinished (correlation : Correlation) (finalization : Compensation)
  | retire (attemptedAt : Nat) (terminal : Bool)
  | cancel (commandId : String)
  | taskFinished (correlation : Correlation) (outcome : TaskOutcome)
  | finalized (correlation : Correlation) (finalization : Finalization)
  | taskFailed (correlation : Correlation)
  | shutdown

inductive Effect where
  | activate (command : Command) (correlation : Correlation)
      (finalCapture : Option (CaptureRequest × StatusAdapterKind)) (resources : OperationResources)
  | stop (command : Command) (correlation : Correlation) (resources : OperationResources)
  | finalize (command : Command) (correlation : Correlation) (outcome : TaskOutcome)
  | compensate (correlation : Correlation) (resources : OperationResources)
  | cancel (correlation : Correlation)

namespace Effect

def correlation : Effect → Correlation
  | .activate _ correlation _ _ | .stop _ correlation _ | .finalize _ correlation _
  | .compensate correlation _ | .cancel correlation => correlation

def mode : Effect → EffectMode
  | .cancel _ => .cancel
  | _ => .spawn

end Effect

inductive MachineError where
  | conflict | unavailable

abbrev Reaction := Transition State Effect MachineError

/-! ## The reducer -/

variable (s : State)

def matchingPending (correlation : Correlation) : Option Pending :=
  s.pending?.filter fun held =>
    (held.command.correlation correlation.effectId).sameOperation correlation

def reduceBegin (attemptedAt : Nat) (commandId : String) (operation : Operation)
    (resources : OperationResources) (targetFingerprint : Option String)
    (targetProfileId : String) (targetRevision : Option String) (work : Work) : Option Reaction :=
  (s.begin commandId operation targetProfileId targetRevision targetFingerprint attemptedAt).map fun
    | .error () => .rejected .conflict
    | .ok (next, command) =>
      let correlation := command.correlation activationEffectId
      .effectEmitting next <| .one <|
        match work with
        | .activate finalCapture => .activate command correlation finalCapture resources
        | .stop => .stop command correlation resources

def reduceCancel (commandId : String) : Reaction :=
  match s.pending? with
  | none => .unchanged
  | some held =>
    if held.command.commandId ≠ commandId || held.stage ≠ .effect then .unchanged
    else .effectEmitting s (.one (.cancel (held.command.correlation activationEffectId)))

def reduceReject (attemptedAt : Nat) (commandId : String) (evidence : FailureEvidence)
    (targetFingerprint : Option String) (targetProfileId : String)
    (targetRevision : Option String) : Option Reaction :=
  (s.begin commandId .activate targetProfileId targetRevision targetFingerprint attemptedAt).map fun
    | .error () => .rejected .conflict
    | .ok (next, command) =>
      match next.complete command (.failed evidence s.runtime) with
      | none => .retired
      | some next => .failed next

def reduceCompensate (commandId : String) (resources : OperationResources) : Reaction :=
  match s.beginCompensation commandId with
  | none => .rejected .conflict
  | some (next, command) =>
    .effectEmitting next (.one (.compensate (command.correlation compensationEffectId) resources))

def reduceCompensationFinished (correlation : Correlation)
    (finalization : Compensation) : Reaction :=
  match s with
  | .compensating command _ =>
    if correlation.effectId ≠ compensationEffectId ||
        !(command.correlation correlation.effectId).sameOperation correlation then .retired
    else
      match finalization with
      | .restoredSafe =>
        match s.completeRollback command.commandId none with
        | none => .retired
        | some next => .failed next
      | .recoveryRequired evidence runtime =>
        .recoveryRequired (.recoveryRequired command evidence runtime)
  | _ => .retired

/-- The command that the shutdown draws is dropped with its id. -/
def reduceRetire (attemptedAt : Nat) (terminal : Bool) : Option Reaction :=
  (s.beginShutdown terminal attemptedAt "").map fun
    | .error () => .rejected .conflict
    | .ok next =>
      match next.completeShutdown with
      | none => .rejected .conflict
      | some next => .committed next

def finalizing (s : State) (command : Command) (outcome : TaskOutcome) : Reaction :=
  .effectEmitting (s.setStage .finalizing)
    (.one (.finalize command (command.correlation finalizerEffectId) outcome))

def reduceTaskFinished (correlation : Correlation) (outcome : TaskOutcome) : Reaction :=
  match matchingPending s correlation with
  | none => .retired
  | some held =>
    if correlation.effectId ≠ activationEffectId || held.stage ≠ .effect then .retired
    else finalizing s held.command outcome

def applyFinalization (command : Command) : Finalization → Reaction
  | .completed completion =>
    match s.complete command completion with
    | none => .retired
    | some next =>
      match completion with
      | .succeeded _ => .committed next
      | .cancelled _ => .cancelled next
      | .failed .. => .failed next
  | .captureFailure kind runtime =>
    match s.completeCaptureFailure command kind runtime with
    | none => .retired
    | some next => .failed next
  | .recoveryRequired evidence runtime =>
    match s.completeRecoveryRequired command evidence runtime with
    | none => .retired
    | some next => .recoveryRequired next

def reduceFinalized (correlation : Correlation) (finalization : Finalization) : Reaction :=
  match matchingPending s correlation with
  | none => .retired
  | some held =>
    let matchingStage :=
      (correlation.effectId == finalizerEffectId && held.stage == .finalizing) ||
        (correlation.effectId == recoveryEffectId && held.stage == .recovering)
    if matchingStage then applyFinalization s held.command finalization else .retired

def pendingTaskFailed (correlation : Correlation) (held : Pending) : Reaction :=
  if correlation.effectId = activationEffectId ∧ held.stage = .effect then
    finalizing s held.command .failed
  else if correlation.effectId = finalizerEffectId ∧ held.stage = .finalizing then
    .effectEmitting (s.setStage .recovering)
      (.one (.finalize held.command (held.command.correlation recoveryEffectId) .failed))
  else if correlation.effectId = recoveryEffectId ∧ held.stage = .recovering then
    match s.completeRecoveryRequired held.command .stateCommit held.runtime with
    | some next => .recoveryRequired next
    | none => .retired
  else .retired

def reduceTaskFailed (correlation : Correlation) : Reaction :=
  let rest : Reaction :=
    match matchingPending s correlation with
    | none => .retired
    | some held => pendingTaskFailed s correlation held
  match s with
  | .compensating command runtime =>
    if correlation.effectId = compensationEffectId ∧
        (command.correlation correlation.effectId).sameOperation correlation = true then
      .recoveryRequired (.recoveryRequired command .stateCommit runtime)
    else rest
  | _ => rest

def reduceShutdown : Reaction :=
  match s.pending? with
  | none => .retired
  | some held => .effectEmitting s (.one (.cancel (held.command.correlation activationEffectId)))

def reduce : Input → Option Reaction
  | .begin attemptedAt commandId operation resources targetFingerprint targetProfileId
      targetRevision work =>
    reduceBegin s attemptedAt commandId operation resources targetFingerprint targetProfileId
      targetRevision work
  | .cancel commandId => some (reduceCancel s commandId)
  | .reject attemptedAt commandId evidence targetFingerprint targetProfileId targetRevision =>
    reduceReject s attemptedAt commandId evidence targetFingerprint targetProfileId targetRevision
  | .compensate commandId resources => some (reduceCompensate s commandId resources)
  | .compensationFinished correlation finalization =>
    some (reduceCompensationFinished s correlation finalization)
  | .retire attemptedAt terminal => reduceRetire s attemptedAt terminal
  | .taskFinished correlation outcome => some (reduceTaskFinished s correlation outcome)
  | .finalized correlation finalization => some (reduceFinalized s correlation finalization)
  | .taskFailed correlation => some (reduceTaskFailed s correlation)
  | .shutdown => some (reduceShutdown s)

def inputCorrelation : Input → Option Correlation
  | .taskFinished correlation _ | .finalized correlation _ | .compensationFinished correlation _
  | .taskFailed correlation => some correlation
  | .begin .. | .reject .. | .compensate .. | .retire .. | .cancel _ | .shutdown => none

def Stage.effectId : Stage → Nat
  | .effect => activationEffectId
  | .finalizing => finalizerEffectId
  | .recovering => recoveryEffectId

def effectIsCurrent (correlation : Correlation) : Bool :=
  match s with
  | .pending held | .retrying held _ =>
    correlation.effectId == held.stage.effectId &&
      (held.command.correlation held.stage.effectId).sameOperation correlation
  | .compensating command _ =>
    correlation.effectId == compensationEffectId &&
      (command.correlation compensationEffectId).sameOperation correlation
  | _ => false

def machine : Machine where
  State := State
  Input := Input
  Effect := Effect
  Error := MachineError
  reduce := reduce
  inputCorrelation := fun _ input => inputCorrelation input
  effectIsCurrent := effectIsCurrent
  taskFailed := fun correlation _ => .taskFailed correlation
  shutdown := .shutdown
  correlation := Effect.correlation
  mode := Effect.mode

end Mish.ProfileActivation
