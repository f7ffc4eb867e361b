import Mish.Updater.Candidate

/-!
# The continuation machine

The reducer that takes an available candidate through its download, its verification and its
commit, or through a recovery. One definition per function of the source.
-/

namespace Mish.Updater
open StateMachine

def downloadEffectId : Nat := 1
def verifyEffectId : Nat := 2
def commitCandidateEffectId : Nat := 3
def finalizeEffectId : Nat := 4
def reverifyEffectId : Nat := 5

structure EffectCorrelation where
  machine : Correlation
  progressSequence : Nat
  deriving DecidableEq

structure ContinuationOperation where
  machineAuthority : String
  scopeEpoch : Nat
  operationId : String
  admittedRevision : Nat
  candidate : AvailableCandidate
  deriving DecidableEq

namespace ContinuationOperation

def machineCorrelation (o : ContinuationOperation) (effectId : Nat) : Correlation :=
  ⟨o.machineAuthority, o.scopeEpoch, o.operationId, o.admittedRevision, effectId⟩

def correlation (o : ContinuationOperation) (effectId progressSequence : Nat) : EffectCorrelation :=
  ⟨o.machineCorrelation effectId, progressSequence⟩

def accepts (o : ContinuationOperation) (correlation : Correlation) (effectId : Nat) : Bool :=
  correlation.machineAuthority == o.machineAuthority && correlation.scopeEpoch == o.scopeEpoch &&
    correlation.operationId == o.operationId &&
    correlation.admittedRevision == o.admittedRevision && correlation.effectId == effectId

end ContinuationOperation

structure MachineProgress where
  (downloadedBytes totalBytes sequence : Nat)
  deriving DecidableEq

def MachineProgress.publicProgress (progress : MachineProgress) : UpdateProgress :=
  ⟨progress.downloadedBytes, progress.totalBytes⟩

inductive RecoveryKind where
  | candidateCommit
  deriving DecidableEq

inductive FinalizingStage where
  | downloading | verifying
  deriving DecidableEq

inductive FinalizingTerminal where
  | cancelled
  | failed (reason : String)
  deriving DecidableEq

inductive RetiredTerminal where
  | cancelled (resumable : Bool)
  | failed (reason : String) (resumable : Bool)
  | ready
  | recoveryRequired (reason : String)
  | stable
  deriving DecidableEq

inductive ContinuationState where
  | stable
  | downloading (operation : ContinuationOperation) (progress : MachineProgress)
      (cancelRequested shutdownRequested : Bool)
  | verifying (operation : ContinuationOperation) (progress : MachineProgress)
      (cancelRequested shutdownRequested : Bool)
  | committingCandidate (operation : ContinuationOperation) (progress : MachineProgress)
      (shutdownRequested : Bool)
  | finalizing (operation : ContinuationOperation) (progress : MachineProgress)
      (stage : FinalizingStage) (terminal : FinalizingTerminal)
      (discardPartial shutdownRequested : Bool)
  | ready (operation : ContinuationOperation) (progress : MachineProgress)
  | interrupted (operation : ContinuationOperation) (progress : MachineProgress)
      (resumable : Bool)
  | failed (operation : ContinuationOperation) (progress : MachineProgress) (reason : String)
      (resumable : Bool)
  | cancelled (operation : ContinuationOperation) (progress : MachineProgress) (resumable : Bool)
  | recoveryRequired (operation : ContinuationOperation) (progress : MachineProgress)
      (kind : RecoveryKind) (reason : String)
  | recovering (operation : ContinuationOperation) (progress : MachineProgress)
      (kind : RecoveryKind)
  | retired (operation : Option ContinuationOperation) (progress : Option MachineProgress)
      (terminal : RetiredTerminal)
  deriving DecidableEq

namespace ContinuationState

def operation : ContinuationState → Option ContinuationOperation
  | .downloading operation .. | .verifying operation .. | .committingCandidate operation ..
  | .finalizing operation .. | .ready operation _ | .interrupted operation ..
  | .failed operation .. | .cancelled operation .. | .recoveryRequired operation ..
  | .recovering operation .. => some operation
  | .retired operation _ _ => operation
  | .stable => none

def progress : ContinuationState → Option MachineProgress
  | .downloading _ progress .. | .verifying _ progress .. | .committingCandidate _ progress _
  | .finalizing _ progress .. | .ready _ progress | .interrupted _ progress _
  | .failed _ progress .. | .cancelled _ progress _ | .recoveryRequired _ progress ..
  | .recovering _ progress _ => some progress
  | .retired _ progress _ => progress
  | .stable => none

end ContinuationState

structure ContinuationProjection where
  phase : UpdatePhase
  operationId : String
  channel : UpdateChannel
  candidate : UpdateCandidateIdentity
  progress : Option UpdateProgress
  resumable : Bool
  terminalReason : Option String

def ContinuationState.projection (digest : String → String) (state : ContinuationState) :
    Option ContinuationProjection := do
  let operation ← state.operation
  let base : ContinuationProjection := {
    operationId := operation.operationId
    channel := operation.candidate.metadata.channel
    candidate := operation.candidate.identity digest
    progress := state.progress.map MachineProgress.publicProgress
    phase := .failed
    resumable := false
    terminalReason := none }
  match state with
  | .downloading .. => some { base with phase := .downloading }
  | .verifying .. | .committingCandidate .. | .recovering .. =>
    some { base with phase := .verifying }
  | .finalizing _ _ .downloading _ _ _ => some { base with phase := .downloading }
  | .finalizing _ _ .verifying _ _ _ => some { base with phase := .verifying }
  | .ready .. | .retired _ _ .ready => some { base with phase := .ready }
  | .interrupted _ _ resumable =>
    some { base with resumable, terminalReason := some "interrupted" }
  | .failed _ _ reason resumable | .retired _ _ (.failed reason resumable) =>
    some { base with resumable, terminalReason := some reason }
  | .cancelled _ _ resumable | .retired _ _ (.cancelled resumable) =>
    some { base with
      phase := .cancelled, resumable, terminalReason := some "cancelled" }
  | .recoveryRequired _ _ _ reason | .retired _ _ (.recoveryRequired reason) =>
    some { base with terminalReason := some reason }
  | .retired _ _ .stable | .stable => none

inductive ContinuationEffect where
  | download (correlation : EffectCorrelation) (candidate : AvailableCandidate)
  | verify (correlation : EffectCorrelation) (candidate : AvailableCandidate)
  | commitCandidate (correlation : EffectCorrelation) (candidate : AvailableCandidate)
  | finalizeFailure (correlation : EffectCorrelation) (candidate : AvailableCandidate)
      (discardPartial : Bool)
  | reverifyCandidate (correlation : EffectCorrelation) (candidate : AvailableCandidate)
  | cancel (correlation : EffectCorrelation)
  deriving DecidableEq

namespace ContinuationEffect

def correlation : ContinuationEffect → EffectCorrelation
  | .download correlation _ | .verify correlation _ | .commitCandidate correlation _
  | .finalizeFailure correlation _ _ | .reverifyCandidate correlation _
  | .cancel correlation => correlation

def mode : ContinuationEffect → EffectMode
  | .cancel _ => .cancel
  | _ => .spawn

end ContinuationEffect

inductive ContinuationEffectOutcome where
  | download (result : Except UpdateOperationError Unit)
  | verify (result : Except UpdateOperationError Unit)
  | commit (result : Except UpdateOperationError Unit)
  | finalize (result : Except UpdateOperationError PartialInfo)
  | recovery (result : Except UpdateOperationError Unit)
  | taskFailed (failure : TaskFailure)

def ContinuationEffectOutcome.isTaskFailed : ContinuationEffectOutcome → Bool
  | .taskFailed _ => true
  | _ => false

structure ContinuationCompletion where
  correlation : EffectCorrelation
  outcome : ContinuationEffectOutcome

inductive ContinuationInput where
  | downloadRequested (operation : ContinuationOperation) (outer : UpdaterSnapshot)
      (resumedBytes : Nat)
  | partialCommitted (correlation : EffectCorrelation) (downloadedBytes : Nat)
  | cancelRequested (operationId : String)
  | recoverRequested
  | effectCompleted (completion : ContinuationCompletion)
  | shutdownRequested

inductive DecisionDisposition where
  | applied | cancelTooLate | duplicate | retiredCompletion

structure Decision where
  next : ContinuationState
  effects : List ContinuationEffect
  disposition : DecisionDisposition

namespace Decision

def applied (next : ContinuationState) (effects : List ContinuationEffect) : Decision :=
  ⟨next, effects, .applied⟩

def unchanged (state : ContinuationState) (disposition : DecisionDisposition) : Decision :=
  ⟨state, [], disposition⟩

end Decision

/-- The states in which an effect of the machine is at work. -/
def ContinuationState.isBusy : ContinuationState → Bool
  | .downloading .. | .verifying .. | .committingCandidate .. | .finalizing .. | .recovering .. =>
    true
  | _ => false

variable (digest : String → String) (state : ContinuationState)
  (operation : ContinuationOperation) (progress : MachineProgress)

def reduceDownloadRequested (outer : UpdaterSnapshot) (resumedBytes : Nat) :
    Except UpdateOperationError Decision :=
  if outer.operationId ≠ some operation.operationId ∨
      outer.candidate ≠ some (operation.candidate.identity digest) then
    throw .operationMismatch
  else if outer.phase = .downloading ∨ outer.phase = .verifying ∨ outer.phase = .ready then
    return .unchanged state .duplicate
  else if ¬(outer.phase = .available ∨ outer.phase = .cancelled ∨ outer.phase = .failed) ∨
      state.isBusy = true then
    throw .busy
  else
    let progress : MachineProgress := {
      downloadedBytes := min resumedBytes operation.candidate.metadata.artifactSize
      totalBytes := operation.candidate.metadata.artifactSize
      sequence := 0 }
    return .applied (.downloading operation progress false false)
      [.download (operation.correlation downloadEffectId progress.sequence) operation.candidate]

def reducePartialCommitted (correlation : EffectCorrelation)
    (downloadedBytes : Nat) : Decision :=
  match state with
  | .downloading operation progress cancelRequested shutdownRequested =>
    if !operation.accepts correlation.machine downloadEffectId ||
        correlation.progressSequence != saturatingSucc progress.sequence ||
        downloadedBytes < progress.downloadedBytes || progress.totalBytes < downloadedBytes then
      .unchanged state .retiredCompletion
    else
      .applied (.downloading operation
        ⟨downloadedBytes, progress.totalBytes, correlation.progressSequence⟩
        cancelRequested shutdownRequested) []
  | _ => .unchanged state .retiredCompletion

def reduceCancel (operationId : String) : Except UpdateOperationError Decision :=
  match state.operation with
  | none => throw .operationMismatch
  | some operation =>
    if operation.operationId ≠ operationId then throw .operationMismatch
    else
      match state with
      | .downloading operation progress false shutdownRequested =>
        return .applied (.downloading operation progress true shutdownRequested)
          [.cancel (operation.correlation downloadEffectId progress.sequence)]
      | .verifying operation progress false shutdownRequested =>
        return .applied (.verifying operation progress true shutdownRequested)
          [.cancel (operation.correlation verifyEffectId progress.sequence)]
      | .committingCandidate .. => return .unchanged state .cancelTooLate
      | _ => return .unchanged state .duplicate

def reduceRecoverRequested : Decision :=
  match state with
  | .recoveryRequired operation progress kind _ =>
    let sequence := saturatingSucc progress.sequence
    .applied (.recovering operation { progress with sequence } kind)
      [.reverifyCandidate (operation.correlation reverifyEffectId sequence) operation.candidate]
  | _ => .unchanged state .duplicate

def beginFinalization
    (stage : FinalizingStage) (reason : String) (discardPartial shutdownRequested : Bool) :
    Decision :=
  let sequence := saturatingSucc progress.sequence
  .applied (.finalizing operation { progress with sequence } stage (.failed reason)
      discardPartial shutdownRequested)
    [.finalizeFailure (operation.correlation finalizeEffectId sequence) operation.candidate
      discardPartial]

def beginCancelFinalization (stage : FinalizingStage) (shutdownRequested : Bool) : Decision :=
  let sequence := saturatingSucc progress.sequence
  .applied (.finalizing operation { progress with sequence } stage .cancelled
      false shutdownRequested)
    [.finalizeFailure (operation.correlation finalizeEffectId sequence) operation.candidate false]

def recoveryRequired (operation : ContinuationOperation) (progress : MachineProgress)
    (reason : String) (shutdownRequested : Bool) : Decision :=
  .applied
    (if shutdownRequested then
      .retired (some operation) (some progress) (.recoveryRequired reason)
    else .recoveryRequired operation progress .candidateCommit reason) []

def fatalDownloadError : UpdateOperationError → Bool
  | .invalidResponse | .oversizedPayload | .rangeMismatch | .verification _ => true
  | _ => false

/-- The guard at the head of every state's completions. A task failure carries no sequence. -/
def correlates (effectId : Nat)
    (completion : ContinuationCompletion) : Bool :=
  operation.accepts completion.correlation.machine effectId &&
    (completion.outcome.isTaskFailed ||
      completion.correlation.progressSequence == saturatingSucc progress.sequence)

def completeDownload (cancelRequested shutdownRequested : Bool)
    (completion : ContinuationCompletion) : Decision :=
  match cancelRequested, completion.outcome with
  | _, .taskFailed failure =>
    beginFinalization operation progress .downloading (taskFailureCode failure) false
      shutdownRequested
  | true, _ | _, .download (.error .cancelled) =>
    beginCancelFinalization operation progress .downloading shutdownRequested
  | false, .download (.ok _) =>
    let sequence := saturatingSucc completion.correlation.progressSequence
    .applied (.verifying operation ⟨progress.totalBytes, progress.totalBytes, sequence⟩ false
        shutdownRequested)
      [.verify (operation.correlation verifyEffectId sequence) operation.candidate]
  | false, .download (.error error) =>
    beginFinalization operation progress .downloading error.code (fatalDownloadError error)
      shutdownRequested
  | false, _ => .unchanged state .retiredCompletion

def completeVerify (cancelRequested shutdownRequested : Bool)
    (completion : ContinuationCompletion) : Decision :=
  match cancelRequested, completion.outcome with
  | _, .taskFailed failure =>
    beginFinalization operation progress .verifying (taskFailureCode failure) false
      shutdownRequested
  | true, _ | _, .verify (.error .cancelled) =>
    beginCancelFinalization operation progress .verifying shutdownRequested
  | false, .verify (.ok _) =>
    let sequence := saturatingSucc completion.correlation.progressSequence
    .applied (.committingCandidate operation { progress with sequence } shutdownRequested)
      [.commitCandidate (operation.correlation commitCandidateEffectId sequence)
        operation.candidate]
  | false, .verify (.error error) =>
    beginFinalization operation progress .verifying error.code true shutdownRequested
  | false, _ => .unchanged state .retiredCompletion

def completeCommit (shutdownRequested : Bool)
    (completion : ContinuationCompletion) : Decision :=
  match completion.outcome with
  | .commit (.ok _) =>
    let progress := { progress with sequence := completion.correlation.progressSequence }
    .applied (if shutdownRequested then .retired (some operation) (some progress) .ready
      else .ready operation progress) []
  | .commit (.error error) => recoveryRequired operation progress error.code shutdownRequested
  | .taskFailed failure =>
    recoveryRequired operation progress (taskFailureCode failure) shutdownRequested
  | _ => .unchanged state .retiredCompletion

/-- The terminal state a finalization leads to. -/
def FinalizingTerminal.ended (terminal : FinalizingTerminal) (shutdownRequested : Bool)
    (operation : ContinuationOperation) (progress : MachineProgress) (resumable : Bool) :
    ContinuationState :=
  match terminal, shutdownRequested with
  | .cancelled, true => .retired (some operation) (some progress) (.cancelled resumable)
  | .cancelled, false => .cancelled operation progress resumable
  | .failed reason, true => .retired (some operation) (some progress) (.failed reason resumable)
  | .failed reason, false => .failed operation progress reason resumable

def completeFinalize (terminal : FinalizingTerminal) (shutdownRequested : Bool)
    (completion : ContinuationCompletion) : Decision :=
  match completion.outcome with
  | .finalize (.ok info) =>
    let resumable := 0 < info.size && info.etag.isSome
    let progress := { progress with
      downloadedBytes := min info.size progress.totalBytes
      sequence := completion.correlation.progressSequence }
    .applied (terminal.ended shutdownRequested operation progress resumable) []
  | .finalize (.error error) => recoveryRequired operation progress error.code shutdownRequested
  | .taskFailed failure =>
    recoveryRequired operation progress (taskFailureCode failure) shutdownRequested
  | _ => .unchanged state .retiredCompletion

def completeRecovery (kind : RecoveryKind) (completion : ContinuationCompletion) : Decision :=
  match completion.outcome with
  | .recovery (.ok _) =>
    .applied (.ready operation { progress with
      downloadedBytes := progress.totalBytes
      sequence := completion.correlation.progressSequence }) []
  | .recovery (.error error) =>
    .applied (.recoveryRequired operation
      { progress with sequence := completion.correlation.progressSequence } kind error.code) []
  | .taskFailed failure =>
    .applied (.recoveryRequired operation
      { progress with sequence := saturatingSucc progress.sequence } kind
      (taskFailureCode failure)) []
  | _ => .unchanged state .retiredCompletion

def reduceCompletion (completion : ContinuationCompletion) : Decision :=
  let guarded operation progress effectId decision :=
    if correlates operation progress effectId completion then decision
    else .unchanged state .retiredCompletion
  match state with
  | .downloading operation progress cancelRequested shutdownRequested =>
    guarded operation progress downloadEffectId
      (completeDownload state operation progress cancelRequested shutdownRequested completion)
  | .verifying operation progress cancelRequested shutdownRequested =>
    guarded operation progress verifyEffectId
      (completeVerify state operation progress cancelRequested shutdownRequested completion)
  | .committingCandidate operation progress shutdownRequested =>
    guarded operation progress commitCandidateEffectId
      (completeCommit state operation progress shutdownRequested completion)
  | .finalizing operation progress _ terminal _ shutdownRequested =>
    guarded operation progress finalizeEffectId
      (completeFinalize state operation progress terminal shutdownRequested completion)
  | .recovering operation progress kind =>
    guarded operation progress reverifyEffectId
      (completeRecovery state operation progress kind completion)
  | _ => .unchanged state .retiredCompletion

def reduceShutdown : Decision :=
  match state with
  | .downloading operation progress cancelRequested _ =>
    .applied (.downloading operation progress true true) (if cancelRequested then []
      else [.cancel (operation.correlation downloadEffectId progress.sequence)])
  | .verifying operation progress cancelRequested _ =>
    .applied (.verifying operation progress true true) (if cancelRequested then []
      else [.cancel (operation.correlation verifyEffectId progress.sequence)])
  | .committingCandidate operation progress _ =>
    .applied (.committingCandidate operation progress true) []
  | .finalizing operation progress stage terminal discardPartial _ =>
    .applied (.finalizing operation progress stage terminal discardPartial true) []
  | .ready operation progress => .applied (.retired (some operation) (some progress) .ready) []
  | .interrupted operation progress resumable | .cancelled operation progress resumable =>
    .applied (.retired (some operation) (some progress) (.cancelled resumable)) []
  | .failed operation progress reason resumable =>
    .applied (.retired (some operation) (some progress) (.failed reason resumable)) []
  | .recoveryRequired operation progress _ reason =>
    .applied (.retired (some operation) (some progress) (.recoveryRequired reason)) []
  | .recovering operation progress _ =>
    .applied (.retired (some operation) (some progress)
      (.recoveryRequired "recovery-interrupted")) []
  | .stable => .applied (.retired none none .stable) []
  | .retired .. => .unchanged state .duplicate

def reduceContinuation : ContinuationInput → Except UpdateOperationError Decision
  | .downloadRequested operation outer resumedBytes =>
    reduceDownloadRequested digest state operation outer resumedBytes
  | .partialCommitted correlation downloadedBytes =>
    .ok (reducePartialCommitted state correlation downloadedBytes)
  | .cancelRequested operationId => reduceCancel state operationId
  | .recoverRequested => .ok (reduceRecoverRequested state)
  | .effectCompleted completion => .ok (reduceCompletion state completion)
  | .shutdownRequested => .ok (reduceShutdown state)

/-- How the machine hands a decision to the kernel. -/
def Decision.transition (decision : Decision) :
    Transition ContinuationState ContinuationEffect UpdateOperationError :=
  match decision.disposition with
  | .duplicate | .cancelTooLate => .unchanged
  | .retiredCompletion => .retired
  | .applied =>
    match decision.effects with
    | first :: rest => .effectEmitting decision.next (.fromFirst first rest)
    | [] =>
      match decision.next with
      | .ready .. => .committed decision.next
      | .cancelled .. => .cancelled decision.next
      | .failed .. => .failed decision.next
      | .recoveryRequired .. => .recoveryRequired decision.next
      | _ => .accepted decision.next

def continuationReduce (input : ContinuationInput) :
    Transition ContinuationState ContinuationEffect UpdateOperationError :=
  match reduceContinuation digest state input with
  | .error error => .rejected error
  | .ok decision => decision.transition

def ContinuationState.inputCorrelation : ContinuationInput → Option Correlation
  | .downloadRequested operation _ _ => some (operation.machineCorrelation downloadEffectId)
  | .partialCommitted correlation _ | .effectCompleted ⟨correlation, _⟩ =>
    some correlation.machine
  | .cancelRequested _ | .recoverRequested | .shutdownRequested =>
    state.operation.map (·.machineCorrelation 0)

/-- The operation a busy state holds, and the effect it waits for. -/
def ContinuationState.awaited : ContinuationState → Option (ContinuationOperation × Nat)
  | .downloading operation .. => some (operation, downloadEffectId)
  | .verifying operation .. => some (operation, verifyEffectId)
  | .committingCandidate operation .. => some (operation, commitCandidateEffectId)
  | .finalizing operation .. => some (operation, finalizeEffectId)
  | .recovering operation .. => some (operation, reverifyEffectId)
  | _ => none

def ContinuationState.effectIsCurrent (correlation : Correlation) : Bool :=
  match state.awaited with
  | some (operation, effectId) => operation.accepts correlation effectId
  | none => false

def continuation : Machine where
  State := ContinuationState
  Input := ContinuationInput
  Effect := ContinuationEffect
  Error := UpdateOperationError
  reduce := fun state input => some (continuationReduce digest state input)
  inputCorrelation := ContinuationState.inputCorrelation
  effectIsCurrent := ContinuationState.effectIsCurrent
  taskFailed := fun correlation failure =>
    .effectCompleted ⟨⟨correlation, 0⟩, .taskFailed failure⟩
  shutdown := .shutdownRequested
  correlation := fun effect => effect.correlation.machine
  mode := ContinuationEffect.mode

end Mish.Updater
