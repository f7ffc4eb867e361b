import Mish.Capture.Status
import Mish.StateMachine.Kernel

/-!
# The state of a Profile activation

The states the activation machine moves through and the functions the source has on them. A
function that changes the state returns the new one, `none` where the source returns `false`, and
`none` at the outer level where it panics.
-/

namespace Mish.ProfileActivation
open StateMachine
open Capture (CaptureFailureKind)

inductive Phase where
  | idle | pending | success | failure
  deriving DecidableEq

inductive Operation where
  | activate | stop
  deriving DecidableEq

inductive Availability where
  | available | missingBinary | unavailable

inductive Failure where
  | invalidProfile | missingBinary | unsafeRuntime | staging | validation | geodataFailed
  | geodataTimeout | start | tunHelperUnavailable | tunNetworkOwnershipConflict | earlyExit
  | managedListenerConflict | versionMismatch | controller | timeout | cancelled | capture
  | priorStop | stateCommit

inductive GeodataAsset where
  | geoIp | geoSite | mmdb | asn
  deriving DecidableEq

inductive EvidenceKind where
  | geodataPreparing | geodataFailed | geodataTimeout

structure Evidence where
  asset : GeodataAsset
  kind : EvidenceKind

inductive StartupPolicy where
  | safeStopped

structure Snapshot where
  (activeFingerprint activeProfileId : Option String)
  attemptedAt : Option Nat
  availability : Availability
  commandId : Option String
  captureFailureKind : Option CaptureFailureKind
  evidence : Option Evidence
  failure : Option Failure
  failureEndpoint : Option String
  operation : Option Operation
  phase : Phase
  safeStopped : Bool
  startupPolicy : StartupPolicy
  targetProfileId : Option String

structure Scope where
  authorityId : String
  (epoch revision : Nat)
  deriving DecidableEq

/-- Panics once the revision is exhausted. -/
def Scope.next (scope : Scope) : Option Scope :=
  if scope.revision < maxU64 then some { scope with revision := scope.revision + 1 } else none

inductive Runtime where
  | safeStopped
  | active (fingerprint profileId : String) (revision runtimeId : Option String)
  deriving DecidableEq

namespace Runtime

def activeProfileId : Runtime → Option String
  | .safeStopped => none
  | .active _ profileId _ _ => some profileId

def fingerprint : Runtime → Option String
  | .safeStopped => none
  | .active fingerprint _ _ _ => some fingerprint

def isSafeStopped : Runtime → Bool
  | .safeStopped => true
  | .active .. => false

end Runtime

structure Command where
  attemptedAt : Nat
  commandId : String
  operation : Operation
  scope : Scope
  targetFingerprint : Option String
  targetProfileId : String
  targetRevision : Option String
  deriving DecidableEq

def Command.correlation (command : Command) (effectId : Nat) : Correlation :=
  ⟨command.scope.authorityId, command.scope.epoch, command.commandId, command.scope.revision,
    effectId⟩

inductive Stage where
  | effect | finalizing | recovering
  deriving DecidableEq

structure Pending where
  command : Command
  evidence : Option Evidence
  runtime : Runtime
  stage : Stage

inductive FailureEvidence where
  | invalidProfile
  | missingBinary
  | unsafeRuntime
  | staging
  | validation
  | geodataFailed (asset : GeodataAsset)
  | geodataTimeout (asset : GeodataAsset)
  | start
  | tunHelperUnavailable
  | tunNetworkOwnershipConflict
  | earlyExit
  | managedListenerConflict (endpoint : String)
  | versionMismatch
  | controller
  | timeout
  | capture (kind : CaptureFailureKind)
  | coreStop
  | priorStop
  | stateCommit

namespace FailureEvidence

def failure : FailureEvidence → Failure
  | .invalidProfile => .invalidProfile
  | .missingBinary => .missingBinary
  | .unsafeRuntime => .unsafeRuntime
  | .staging => .staging
  | .validation => .validation
  | .geodataFailed _ => .geodataFailed
  | .geodataTimeout _ => .geodataTimeout
  | .start => .start
  | .tunHelperUnavailable => .tunHelperUnavailable
  | .tunNetworkOwnershipConflict => .tunNetworkOwnershipConflict
  | .earlyExit => .earlyExit
  | .managedListenerConflict _ => .managedListenerConflict
  | .versionMismatch => .versionMismatch
  | .controller => .controller
  | .timeout => .timeout
  | .capture _ => .capture
  | .coreStop => .stateCommit
  | .priorStop => .priorStop
  | .stateCommit => .stateCommit

def evidence : FailureEvidence → Option Evidence
  | .geodataFailed asset => some ⟨asset, .geodataFailed⟩
  | .geodataTimeout asset => some ⟨asset, .geodataTimeout⟩
  | _ => none

def failureEndpoint : FailureEvidence → Option String
  | .managedListenerConflict endpoint => some endpoint
  | _ => none

/-- The capture failure a snapshot shows. -/
def captureFailureKind : FailureEvidence → Option CaptureFailureKind
  | .capture kind => some kind
  | _ => none

end FailureEvidence

inductive RetryEvidence where
  | failure (evidence : FailureEvidence)
  | cancelled
  | rollbackSucceeded
  | rollbackFailed
  | recoveryRequired

inductive StateKind where
  | idle | pending | succeeded | failed | cancelled | rollbackSucceeded | rollbackFailed | retrying
  | recoveryRequired | compensating | shuttingDown | shutdown
  deriving DecidableEq

inductive TransitionKind where
  | begin | retry | succeed | fail | cancel | rollbackSucceed | rollbackFail | shutdown
  | shutdownComplete | recoveryRequire | compensate
  deriving DecidableEq

inductive State where
  | idle (scope : Scope)
  | pending (pending : Pending)
  | succeeded (captureFailureKind : Option CaptureFailureKind) (command : Command)
      (runtime : Runtime)
  | failed (command : Command) (evidence : FailureEvidence) (runtime : Runtime)
  | cancelled (command : Command) (runtime : Runtime)
  | rollbackSucceeded (command : Command)
  | rollbackFailed (command : Command) (runtime : Runtime)
  | recoveryRequired (command : Command) (evidence : FailureEvidence) (runtime : Runtime)
  | compensating (command : Command) (runtime : Runtime)
  | retrying (pending : Pending) (previous : RetryEvidence)
  | shuttingDown (command : Command) (runtime : Runtime) (terminal : Bool)
  | shuttingDownIdle (scope : Scope) (terminal : Bool)
  | shutdown (scope : Scope)

inductive Completion where
  | succeeded (runtime : Runtime)
  | failed (evidence : FailureEvidence) (runtime : Runtime)
  | cancelled (runtime : Runtime)

def Completion.transition : Completion → TransitionKind
  | .succeeded _ => .succeed
  | .failed .. => .fail
  | .cancelled _ => .cancel

def successMatchesCommand (command : Command) (runtime : Runtime) : Bool :=
  match command.operation, runtime with
  | .activate, .active fingerprint profileId revision _ =>
    command.targetProfileId == profileId && command.targetFingerprint.all (· == fingerprint) &&
      command.targetRevision.all fun expected => revision == some expected
  | .stop, .safeStopped => true
  | _, _ => false

namespace State

def kind : State → StateKind
  | .idle _ => .idle
  | .pending _ => .pending
  | .succeeded .. => .succeeded
  | .failed .. => .failed
  | .cancelled .. => .cancelled
  | .rollbackSucceeded _ => .rollbackSucceeded
  | .rollbackFailed .. => .rollbackFailed
  | .retrying .. => .retrying
  | .recoveryRequired .. => .recoveryRequired
  | .compensating .. => .compensating
  | .shuttingDown .. | .shuttingDownIdle .. => .shuttingDown
  | .shutdown _ => .shutdown

variable (s : State)

def allows (transition : TransitionKind) : Bool :=
  match s.kind, transition with
  | .idle, .begin | .idle, .shutdown | .succeeded, .begin | .succeeded, .shutdown => true
  | .failed, .begin | .failed, .retry | .failed, .shutdown
  | .cancelled, .begin | .cancelled, .retry | .cancelled, .shutdown
  | .rollbackSucceeded, .begin | .rollbackSucceeded, .retry | .rollbackSucceeded, .shutdown
  | .rollbackFailed, .begin | .rollbackFailed, .retry | .rollbackFailed, .shutdown
  | .recoveryRequired, .begin | .recoveryRequired, .retry | .recoveryRequired, .shutdown => true
  | .pending, .succeed | .pending, .fail | .pending, .cancel | .pending, .recoveryRequire
  | .retrying, .succeed | .retrying, .fail | .retrying, .cancel
  | .retrying, .recoveryRequire => true
  | .succeeded, .compensate | .succeeded, .rollbackSucceed | .succeeded, .rollbackFail => true
  | .compensating, .rollbackSucceed | .compensating, .rollbackFail => true
  | .shuttingDown, .shutdownComplete => true
  | _, _ => false

def scope : State → Scope
  | .idle scope | .shuttingDownIdle scope _ | .shutdown scope => scope
  | .pending held | .retrying held _ => held.command.scope
  | .succeeded _ command _ | .failed command _ _ | .cancelled command _
  | .rollbackSucceeded command | .rollbackFailed command _ | .recoveryRequired command _ _
  | .compensating command _ | .shuttingDown command _ _ => command.scope

def runtime : State → Runtime
  | .idle _ | .rollbackSucceeded _ | .shuttingDownIdle .. | .shutdown _ => .safeStopped
  | .pending held | .retrying held _ => held.runtime
  | .succeeded _ _ runtime | .failed _ _ runtime | .cancelled _ runtime
  | .rollbackFailed _ runtime | .recoveryRequired _ _ runtime | .compensating _ runtime
  | .shuttingDown _ runtime _ => runtime

/-- `pending` of the source. -/
def pending? : State → Option Pending
  | .pending held | .retrying held _ => some held
  | _ => none

/-- What is written through `pending_mut`. -/
def setStage (stage : Stage) : State :=
  match s with
  | .pending held => .pending { held with stage }
  | .retrying held previous => .retrying { held with stage } previous
  | _ => s

def retryEvidence (operation : Operation) (targetProfileId : String) : Option RetryEvidence :=
  let matchesTarget (command : Command) : Bool :=
    command.operation == operation && command.targetProfileId == targetProfileId
  match s with
  | .failed command evidence _ => if matchesTarget command then some (.failure evidence) else none
  | .cancelled command _ => if matchesTarget command then some .cancelled else none
  | .rollbackSucceeded command => if matchesTarget command then some .rollbackSucceeded else none
  | .rollbackFailed command _ => if matchesTarget command then some .rollbackFailed else none
  | .recoveryRequired command _ _ => if matchesTarget command then some .recoveryRequired else none
  | _ => none

def begin (s : State) (commandId : String) (operation : Operation) (targetProfileId : String)
    (targetRevision targetFingerprint : Option String) (attemptedAt : Nat) :
    Option (Except Unit (State × Command)) :=
  let retry := s.retryEvidence operation targetProfileId
  let transition := if retry.isSome then TransitionKind.retry else .begin
  if s.allows transition then
    s.scope.next.map fun scope =>
      let command : Command :=
        { attemptedAt, commandId, operation, scope, targetFingerprint, targetProfileId,
          targetRevision }
      let held : Pending := ⟨command, none, s.runtime, .effect⟩
      .ok (match retry with
        | some previous => .retrying held previous
        | none => .pending held, command)
  else some (.error ())

def complete (expected : Command) (completion : Completion) : Option State :=
  match s.pending? with
  | none => none
  | some held =>
    if held.command ≠ expected then none
    else if s.allows completion.transition then
      match completion with
      | .succeeded runtime =>
        if successMatchesCommand held.command runtime then
          some (.succeeded none held.command runtime)
        else none
      | .failed evidence runtime => some (.failed held.command evidence runtime)
      | .cancelled runtime => some (.cancelled held.command runtime)
    else none

def completeCaptureFailure (expected : Command) (kind : CaptureFailureKind)
    (runtime : Runtime) : Option State :=
  match s.pending? with
  | none => none
  | some held =>
    if held.command ≠ expected || !successMatchesCommand expected runtime then none
    else some (.succeeded (some kind) expected runtime)

def completeRecoveryRequired (expected : Command) (evidence : FailureEvidence)
    (runtime : Runtime) : Option State :=
  match s.pending? with
  | none => none
  | some held =>
    if held.command ≠ expected || !s.allows .recoveryRequire then none
    else some (.recoveryRequired expected evidence runtime)

def completeRollback (commandId : String) (runtime : Option Runtime) : Option State :=
  match s with
  | .succeeded _ command _ | .compensating command _ =>
    if command.commandId ≠ commandId || command.operation ≠ .activate then none
    else
      let transition := if runtime.isSome then TransitionKind.rollbackFail else .rollbackSucceed
      if s.allows transition then
        match runtime with
        | some runtime => some (.rollbackFailed command runtime)
        | none => some (.rollbackSucceeded command)
      else none
  | _ => none

def beginCompensation (commandId : String) : Option (State × Command) :=
  if s.allows .compensate then
    match s with
    | .succeeded _ command runtime =>
      if command.commandId ≠ commandId || command.operation ≠ .activate then none
      else some (.compensating command runtime, command)
    | _ => none
  else none

/-- The id of the command is drawn at random. -/
def beginShutdown (terminal : Bool) (attemptedAt : Nat) (commandId : String) :
    Option (Except Unit State) :=
  if s.allows .shutdown then
    s.scope.next.map fun scope => .ok <|
      match s.runtime with
      | .safeStopped => .shuttingDownIdle scope terminal
      | .active fingerprint profileId revision runtimeId =>
        .shuttingDown
          { attemptedAt, commandId, operation := .stop, scope
            targetFingerprint := some fingerprint, targetProfileId := profileId
            targetRevision := revision }
          (.active fingerprint profileId revision runtimeId) terminal
  else some (.error ())

def completeShutdown : Option State :=
  if s.allows .shutdownComplete then
    match s with
    | .shuttingDown command _ terminal =>
      some (if terminal then .shutdown command.scope else .idle command.scope)
    | .shuttingDownIdle scope terminal => some (if terminal then .shutdown scope else .idle scope)
    | _ => none
  else none

end State

def projectCommand (snapshot : Snapshot) (command : Command) : Snapshot :=
  { snapshot with
    attemptedAt := some command.attemptedAt
    commandId := some command.commandId
    operation := some command.operation
    targetProfileId := some command.targetProfileId }

def State.toSnapshot (s : State) (availability : Availability) : Snapshot :=
  let runtime := s.runtime
  let snapshot : Snapshot :=
    { activeFingerprint := runtime.fingerprint
      activeProfileId := runtime.activeProfileId
      attemptedAt := none
      availability
      commandId := none
      captureFailureKind := none
      evidence := none
      failure := none
      failureEndpoint := none
      operation := none
      phase := .idle
      safeStopped := runtime.isSafeStopped
      startupPolicy := .safeStopped
      targetProfileId := none }
  match s with
  | .idle _ => snapshot
  | .pending held | .retrying held _ =>
    { projectCommand snapshot held.command with evidence := held.evidence, phase := .pending }
  | .succeeded captureFailureKind command _ =>
    { projectCommand snapshot command with
      captureFailureKind, phase := .success }
  | .failed command evidence _ | .recoveryRequired command evidence _ =>
    { projectCommand snapshot command with
      evidence := evidence.evidence
      captureFailureKind := evidence.captureFailureKind
      failure := some evidence.failure
      failureEndpoint := evidence.failureEndpoint
      phase := .failure }
  | .cancelled command _ =>
    { projectCommand snapshot command with failure := some .cancelled, phase := .failure }
  | .rollbackSucceeded command | .rollbackFailed command _ =>
    { projectCommand snapshot command with failure := some .capture, phase := .failure }
  | .compensating command _ => { projectCommand snapshot command with phase := .pending }
  | .shuttingDown command _ _ =>
    { projectCommand snapshot command with availability := .unavailable, phase := .pending }
  | .shuttingDownIdle .. | .shutdown _ => { snapshot with availability := .unavailable }

end Mish.ProfileActivation
