import Mathlib.Order.Basic
import Mish.Updater.Continuation

/-!
# The check machine

The reducer that looks for an update and records what it finds. One definition per function of
the source, and `Proceeds`, which lists the steps that are applied.
-/

namespace Mish.Updater
open StateMachine

def discoverEffectId : Nat := 1
def commitAvailableEffectId : Nat := 2

structure CheckProjection where
  phase : UpdatePhase
  operationId : Option String
  channel : Option UpdateChannel
  candidate : Option UpdateCandidateIdentity
  progress : Option UpdateProgress
  resumable : Bool
  terminalReason : Option String
  deriving DecidableEq

structure CheckOperation where
  machineAuthority : String
  scopeEpoch : Nat
  operationId : String
  admittedRevision : Nat
  channel : UpdateChannel
  baseline : CheckProjection
  deriving DecidableEq

namespace CheckOperation

def correlation (o : CheckOperation) (effectId : Nat) : Correlation :=
  ⟨o.machineAuthority, o.scopeEpoch, o.operationId, o.admittedRevision, effectId⟩

def accepts (o : CheckOperation) (correlation : Correlation) (effectId : Nat) : Bool :=
  correlation.machineAuthority == o.machineAuthority && correlation.scopeEpoch == o.scopeEpoch &&
    correlation.operationId == o.operationId &&
    correlation.admittedRevision == o.admittedRevision && correlation.effectId == effectId

end CheckOperation

inductive CheckFailure where
  | operation (error : UpdateOperationError)
  | task (failure : TaskFailure)

def CheckFailure.code : CheckFailure → String
  | .operation error => error.code
  | .task failure => taskFailureCode failure

inductive CheckRetiredTerminal where
  | available (candidate : AvailableCandidate)
  | baseline (projection : CheckProjection)
  | cancelled
  | failed (failure : CheckFailure)
  | stable

inductive CheckState where
  | stable (available : Option (CheckOperation × AvailableCandidate))
  | checking (operation : CheckOperation) (cancelRequested shutdownRequested : Bool)
  | committingAvailable (operation : CheckOperation) (candidate : AvailableCandidate)
      (shutdownRequested : Bool)
  | noUpdate (operation : CheckOperation) (reason : UpdateOperationError)
  | unchanged (operation : CheckOperation)
  | failed (operation : CheckOperation) (failure : CheckFailure)
  | cancelled (operation : CheckOperation)
  | retired (operation : Option CheckOperation) (terminal : CheckRetiredTerminal)

namespace CheckState

def idle : CheckState := .stable none

def operation : CheckState → Option CheckOperation
  | .stable (some (operation, _)) | .checking operation .. | .committingAvailable operation ..
  | .noUpdate operation _ | .unchanged operation | .failed operation _ | .cancelled operation
  | .retired (some operation) _ => some operation
  | .stable none | .retired none _ => none

/-- The states in which an effect of the machine is at work. -/
def isBusy : CheckState → Bool
  | .checking .. | .committingAvailable .. => true
  | _ => false

end CheckState

namespace CheckProjection

def fromSnapshot (snapshot : UpdaterSnapshot) : CheckProjection :=
  ⟨snapshot.phase, snapshot.operationId, snapshot.channel, snapshot.candidate, snapshot.progress,
    snapshot.resumable, snapshot.terminalReason⟩

def idle : CheckProjection := ⟨.idle, none, none, none, none, false, none⟩

def checking (operation : CheckOperation) : CheckProjection :=
  ⟨.checking, some operation.operationId, some operation.channel, none, none, false, none⟩

def available (digest : String → String) (operation : CheckOperation)
    (candidate : AvailableCandidate) : CheckProjection :=
  ⟨.available, some operation.operationId, some operation.channel,
    some (candidate.identity digest), none, false, none⟩

def failed (operation : CheckOperation) (reason : String) : CheckProjection :=
  ⟨.failed, some operation.operationId, some operation.channel, none, none, false, some reason⟩

def cancelled (operation : CheckOperation) : CheckProjection :=
  ⟨.cancelled, some operation.operationId, some operation.channel, none, none, false,
    some UpdateOperationError.cancelled.code⟩

end CheckProjection

/-- Absent where the source panics: a retired state that lacks its operation. -/
def CheckState.projection (digest : String → String) : CheckState → Option CheckProjection
  | .stable (some (operation, candidate)) => some (.available digest operation candidate)
  | .stable none => some .idle
  | .checking operation .. | .committingAvailable operation .. => some (.checking operation)
  | .noUpdate operation reason => some (.failed operation reason.code)
  | .unchanged operation => some operation.baseline
  | .failed operation failure => some (.failed operation failure.code)
  | .cancelled operation => some (.cancelled operation)
  | .retired operation terminal =>
    match terminal with
    | .available candidate => operation.map (.available digest · candidate)
    | .baseline projection => some projection
    | .cancelled => operation.map .cancelled
    | .failed failure => operation.map (.failed · failure.code)
    | .stable => some .idle

inductive CheckEffect where
  | discover (correlation : Correlation) (channel : UpdateChannel)
  | commitAvailable (correlation : Correlation) (candidate : AvailableCandidate)
  | cancel (correlation : Correlation)

namespace CheckEffect

def correlation : CheckEffect → Correlation
  | .discover correlation _ | .commitAvailable correlation _ | .cancel correlation => correlation

def mode : CheckEffect → EffectMode
  | .cancel _ => .cancel
  | _ => .spawn

end CheckEffect

inductive DiscoveryOutcome where
  | available (candidate : AvailableCandidate)
  | unchanged

inductive CheckEffectOutcome where
  | discovery (result : Except UpdateOperationError DiscoveryOutcome)
  | commit (result : Except UpdateOperationError Unit)
  | taskFailed (failure : TaskFailure)

structure CheckCompletion where
  correlation : Correlation
  outcome : CheckEffectOutcome

inductive CheckInput where
  | checkRequested (operation : CheckOperation) (outerPhase : UpdatePhase)
      (outerOperationId : Option String) (outerChannel : Option UpdateChannel)
  | cancelRequested (operationId : String)
  | effectCompleted (completion : CheckCompletion)
  | shutdownRequested

structure CheckDecision where
  next : CheckState
  effects : List CheckEffect
  disposition : DecisionDisposition

namespace CheckDecision

def applied (next : CheckState) (effects : List CheckEffect) : CheckDecision :=
  ⟨next, effects, .applied⟩

def unchanged (state : CheckState) (disposition : DecisionDisposition) : CheckDecision :=
  ⟨state, [], disposition⟩

end CheckDecision

variable (state : CheckState)

/-- The operation of a new check. After a failed or cancelled one it takes over the baseline, if
that has a candidate. -/
def inheriting (operation : CheckOperation) : CheckOperation :=
  match state with
  | .failed previous _ | .cancelled previous =>
    if previous.baseline.candidate.isSome then { operation with baseline := previous.baseline }
    else operation
  | _ => operation

def reduceCheckRequested (operation : CheckOperation)
    (outerPhase : UpdatePhase) (outerOperationId : Option String)
    (outerChannel : Option UpdateChannel) : Except UpdateOperationError CheckDecision :=
  if outerOperationId = some operation.operationId ∧ outerPhase ≠ .idle then
    if outerChannel = some operation.channel then return .unchanged state .duplicate
    else throw .operationMismatch
  else if state.isBusy = true ∨
      (outerPhase = .checking ∨ outerPhase = .downloading ∨ outerPhase = .verifying) then
    throw .busy
  else
    let operation := inheriting state operation
    return .applied (.checking operation false false)
      [.discover (operation.correlation discoverEffectId) operation.channel]

def reduceCheckCancel (operationId : String) : Except UpdateOperationError CheckDecision :=
  match state.operation with
  | none => throw .operationMismatch
  | some operation =>
    if operation.operationId ≠ operationId then throw .operationMismatch
    else
      match state with
      | .checking operation false shutdownRequested =>
        return .applied (.checking operation true shutdownRequested)
          [.cancel (operation.correlation discoverEffectId)]
      | .committingAvailable .. => return .unchanged state .cancelTooLate
      | _ => return .unchanged state .duplicate

def isNoUpdate : UpdateOperationError → Bool
  | .verification .equalVersionRejected | .verification .metadataReplay => true
  | _ => false

/-- The state a commit that did not succeed leaves. -/
def commitFailed (operation : CheckOperation) (failure : CheckFailure) (shutdownRequested : Bool) :
    CheckState :=
  if shutdownRequested then .retired (some operation) (.failed failure)
  else .failed operation failure

def completeDiscovery (operation : CheckOperation)
    (cancelRequested shutdownRequested : Bool) (completion : CheckCompletion) : CheckDecision :=
  if cancelRequested then
    .applied
      (if shutdownRequested then .retired (some operation) .cancelled else .cancelled operation) []
  else
    match completion.outcome with
    | .taskFailed failure => .applied (.failed operation (.task failure)) []
    | .commit _ => .unchanged state .retiredCompletion
    | .discovery (.ok (.available candidate)) =>
      .applied (.committingAvailable operation candidate false)
        [.commitAvailable (operation.correlation commitAvailableEffectId) candidate]
    | .discovery (.ok .unchanged) => .applied (.unchanged operation) []
    | .discovery (.error reason) =>
      if isNoUpdate reason then .applied (.noUpdate operation reason) []
      else .applied (.failed operation (.operation reason)) []

def completeCommitAvailable (operation : CheckOperation)
    (candidate : AvailableCandidate) (shutdownRequested : Bool) (completion : CheckCompletion) :
    CheckDecision :=
  match completion.outcome with
  | .commit (.ok _) =>
    .applied (if shutdownRequested then .retired (some operation) (.available candidate)
      else .stable (some (operation, candidate))) []
  | .commit (.error reason) =>
    .applied (commitFailed operation (.operation reason) shutdownRequested) []
  | .taskFailed failure => .applied (commitFailed operation (.task failure) shutdownRequested) []
  | .discovery _ => .unchanged state .retiredCompletion

def reduceCheckCompletion (completion : CheckCompletion) : CheckDecision :=
  match state with
  | .checking operation cancelRequested shutdownRequested =>
    if operation.accepts completion.correlation discoverEffectId then
      completeDiscovery state operation cancelRequested shutdownRequested completion
    else .unchanged state .retiredCompletion
  | .committingAvailable operation candidate shutdownRequested =>
    if operation.accepts completion.correlation commitAvailableEffectId then
      completeCommitAvailable state operation candidate shutdownRequested completion
    else .unchanged state .retiredCompletion
  | _ => .unchanged state .retiredCompletion

def reduceCheckShutdown : CheckDecision :=
  match state with
  | .checking operation cancelRequested _ =>
    .applied (.checking operation true true)
      (if cancelRequested then [] else [.cancel (operation.correlation discoverEffectId)])
  | .committingAvailable operation candidate _ =>
    .applied (.committingAvailable operation candidate true) []
  | .stable (some (operation, candidate)) =>
    .applied (.retired (some operation) (.available candidate)) []
  | .noUpdate operation reason =>
    .applied (.retired (some operation) (.failed (.operation reason))) []
  | .unchanged operation => .applied (.retired (some operation) (.baseline operation.baseline)) []
  | .failed operation failure => .applied (.retired (some operation) (.failed failure)) []
  | .cancelled operation => .applied (.retired (some operation) .cancelled) []
  | .stable none => .applied (.retired none .stable) []
  | .retired .. => .unchanged state .duplicate

def reduceCheck : CheckInput → Except UpdateOperationError CheckDecision
  | .checkRequested operation outerPhase outerOperationId outerChannel =>
    reduceCheckRequested state operation outerPhase outerOperationId outerChannel
  | .cancelRequested operationId => reduceCheckCancel state operationId
  | .effectCompleted completion => .ok (reduceCheckCompletion state completion)
  | .shutdownRequested => .ok (reduceCheckShutdown state)

/-- How the machine hands a decision to the kernel. -/
def CheckDecision.transition (decision : CheckDecision) :
    Transition CheckState CheckEffect UpdateOperationError :=
  match decision.disposition with
  | .duplicate | .cancelTooLate => .unchanged
  | .retiredCompletion => .retired
  | .applied =>
    match decision.effects with
    | first :: rest => .effectEmitting decision.next (.fromFirst first rest)
    | [] =>
      match decision.next with
      | .stable (some _) => .committed decision.next
      | .cancelled _ | .retired _ .cancelled => .cancelled decision.next
      | .failed .. | .noUpdate .. | .retired _ (.failed _) => .failed decision.next
      | _ => .accepted decision.next

def checkReduce (input : CheckInput) : Transition CheckState CheckEffect UpdateOperationError :=
  match reduceCheck state input with
  | .error error => .rejected error
  | .ok decision => decision.transition

def CheckState.inputCorrelation : CheckInput → Option Correlation
  | .checkRequested operation .. => some (operation.correlation discoverEffectId)
  | .effectCompleted completion => some completion.correlation
  | .cancelRequested _ | .shutdownRequested => state.operation.map (·.correlation 0)

def CheckState.effectIsCurrent (correlation : Correlation) : Bool :=
  match state with
  | .checking operation .. => operation.accepts correlation discoverEffectId
  | .committingAvailable operation .. => operation.accepts correlation commitAvailableEffectId
  | _ => false

def check : Machine where
  State := CheckState
  Input := CheckInput
  Effect := CheckEffect
  Error := UpdateOperationError
  reduce := fun state input => some (checkReduce state input)
  inputCorrelation := CheckState.inputCorrelation
  effectIsCurrent := CheckState.effectIsCurrent
  taskFailed := fun correlation failure => .effectCompleted ⟨correlation, .taskFailed failure⟩
  shutdown := .shutdownRequested
  correlation := CheckEffect.correlation
  mode := CheckEffect.mode

/-! ## What a step does -/

/-- `Proceeds s input t effects`: in the state `s` the input is applied, which leaves `t` and
emits `effects`. -/
inductive Proceeds : CheckState → CheckInput → CheckState → List CheckEffect → Prop where
  | requested {s operation outerPhase outerOperationId outerChannel} :
      (outerOperationId = some operation.operationId → outerPhase = .idle) → s.isBusy = false →
      ¬(outerPhase = .checking ∨ outerPhase = .downloading ∨ outerPhase = .verifying) →
      Proceeds s (.checkRequested operation outerPhase outerOperationId outerChannel)
        (.checking (inheriting s operation) false false)
        [.discover ((inheriting s operation).correlation discoverEffectId)
          (inheriting s operation).channel]
  | cancels {operation shutdownRequested} : Proceeds (.checking operation false shutdownRequested)
        (.cancelRequested operation.operationId) (.checking operation true shutdownRequested)
        [.cancel (operation.correlation discoverEffectId)]
  | cancelled {operation shutdownRequested completion} :
      operation.accepts completion.correlation discoverEffectId = true →
      Proceeds (.checking operation true shutdownRequested) (.effectCompleted completion)
        (if shutdownRequested then .retired (some operation) .cancelled
        else .cancelled operation) []
  | found {operation shutdownRequested completion candidate} :
      operation.accepts completion.correlation discoverEffectId = true →
      completion.outcome = .discovery (.ok (.available candidate)) →
      Proceeds (.checking operation false shutdownRequested) (.effectCompleted completion)
        (.committingAvailable operation candidate false)
        [.commitAvailable (operation.correlation commitAvailableEffectId) candidate]
  | unchanged {operation shutdownRequested completion} :
      operation.accepts completion.correlation discoverEffectId = true →
      completion.outcome = .discovery (.ok .unchanged) →
      Proceeds (.checking operation false shutdownRequested) (.effectCompleted completion)
        (.unchanged operation) []
  | noUpdate {operation shutdownRequested completion reason} :
      operation.accepts completion.correlation discoverEffectId = true →
      completion.outcome = .discovery (.error reason) → isNoUpdate reason = true →
      Proceeds (.checking operation false shutdownRequested) (.effectCompleted completion)
        (.noUpdate operation reason) []
  | failed {operation shutdownRequested completion failure} :
      operation.accepts completion.correlation discoverEffectId = true →
      Proceeds (.checking operation false shutdownRequested) (.effectCompleted completion)
        (.failed operation failure) []
  | committed {operation candidate shutdownRequested completion} :
      operation.accepts completion.correlation commitAvailableEffectId = true →
      completion.outcome = .commit (.ok ()) →
      Proceeds (.committingAvailable operation candidate shutdownRequested)
        (.effectCompleted completion)
        (if shutdownRequested then .retired (some operation) (.available candidate)
        else .stable (some (operation, candidate))) []
  | commitFailed {operation candidate shutdownRequested completion failure} :
      operation.accepts completion.correlation commitAvailableEffectId = true →
      Proceeds (.committingAvailable operation candidate shutdownRequested)
        (.effectCompleted completion) (commitFailed operation failure shutdownRequested) []
  | shutsDown {s} :
      Proceeds s .shutdownRequested (reduceCheckShutdown s).next (reduceCheckShutdown s).effects

/-- A decision that is applied moves to its state and emits its effects. -/
theorem checkTransition_of_applied (s next : CheckState) (effects : List CheckEffect) :
    (CheckDecision.applied next effects).transition.next s = next ∧
    (CheckDecision.applied next effects).transition.effects = effects := by
  cases effects with
  | cons first rest => exact ⟨rfl, rfl⟩
  | nil =>
    cases next with
    | stable available => cases available <;> exact ⟨rfl, rfl⟩
    | retired operation terminal => cases terminal <;> exact ⟨rfl, rfl⟩
    | _ => exact ⟨rfl, rfl⟩

/-- The dispositions whose state the observers project. -/
def shouldProject : Disposition → Bool
  | .rejected | .unchanged | .retired => false
  | _ => true

theorem checkDisposition_of_applied (next : CheckState) (effects : List CheckEffect) :
    shouldProject (CheckDecision.applied next effects).transition.disposition = true := by
  cases effects with
  | cons first rest => rfl
  | nil =>
    cases next with
    | stable available => cases available <;> rfl
    | retired operation terminal => cases terminal <;> rfl
    | _ => rfl

/-- The input is applied, or the state is left alone and the input reported so. -/
inductive CheckStep (s : CheckState) (input : CheckInput) :
    Transition CheckState CheckEffect UpdateOperationError → Prop where
  | proceeds {t effects} : Proceeds s input t effects →
      CheckStep s input (CheckDecision.applied t effects).transition
  | rejected (error : UpdateOperationError) : CheckStep s input (.rejected error)
  | unchanged : CheckStep s input .unchanged
  | retired : CheckStep s input .retired

theorem checkStep_requested (s : CheckState) {operation outerPhase outerOperationId outerChannel} :
    CheckStep s (.checkRequested operation outerPhase outerOperationId outerChannel)
    (checkReduce s (.checkRequested operation outerPhase outerOperationId outerChannel)) := by
  unfold checkReduce reduceCheck reduceCheckRequested
  dsimp only
  by_cases same : outerOperationId = some operation.operationId ∧ outerPhase ≠ .idle
  · rw [if_pos same]
    by_cases channel : outerChannel = some operation.channel
    · rw [if_pos channel]
      exact .unchanged
    · rw [if_neg channel]
      exact .rejected _
  · rw [if_neg same]
    by_cases busy : s.isBusy = true ∨
        (outerPhase = .checking ∨ outerPhase = .downloading ∨ outerPhase = .verifying)
    · rw [if_pos busy]
      exact .rejected _
    · rw [if_neg busy]
      obtain ⟨free, phase⟩ := not_or.1 busy
      refine .proceeds (.requested (fun named => ?_) (Bool.eq_false_iff.2 free) phase)
      exact not_not.1 fun other => same ⟨named, other⟩

theorem checkStep_cancel (s : CheckState) (operationId : String) :
    CheckStep s (.cancelRequested operationId) (checkReduce s (.cancelRequested operationId)) := by
  unfold checkReduce reduceCheck reduceCheckCancel
  cases holds : s.operation with
  | none => exact .rejected _
  | some operation =>
    dsimp only
    by_cases named : operation.operationId = operationId
    · rw [if_neg (not_not.2 named)]
      subst named
      cases s with
      | checking other cancelRequested =>
        cases holds
        cases cancelRequested with
        | false => exact .proceeds .cancels
        | true => exact .unchanged
      | _ => exact .unchanged
    · rw [if_pos named]
      exact .rejected _

theorem checkStep_completion (s : CheckState) (completion : CheckCompletion) :
    CheckStep s (.effectCompleted completion) (checkReduce s (.effectCompleted completion)) := by
  change CheckStep s _ (reduceCheckCompletion s completion).transition
  cases s with
  | checking operation cancelRequested shutdownRequested =>
    unfold reduceCheckCompletion
    dsimp only
    split
    · rename_i fits
      cases cancelRequested with
      | true => exact .proceeds (.cancelled fits)
      | false =>
        unfold completeDiscovery
        rw [if_neg Bool.false_ne_true]
        split
        · exact .proceeds (.failed fits)
        · exact .retired
        · exact .proceeds (.found fits ‹_›)
        · exact .proceeds (.unchanged fits ‹_›)
        · split
          · exact .proceeds (.noUpdate fits ‹_› ‹_›)
          · exact .proceeds (.failed fits)
    · exact .retired
  | committingAvailable operation candidate shutdownRequested =>
    unfold reduceCheckCompletion
    dsimp only
    split
    · rename_i fits
      unfold completeCommitAvailable
      split
      · exact .proceeds (.committed fits ‹_›)
      · exact .proceeds (.commitFailed fits)
      · exact .proceeds (.commitFailed fits)
      · exact .retired
    · exact .retired
  | _ => exact .retired

/-- Every step is one of `Proceeds` or leaves the machine alone. -/
theorem checkStep (s : CheckState) (input : CheckInput) :
    CheckStep s input (checkReduce s input) := by
  cases input with
  | checkRequested => exact checkStep_requested s
  | cancelRequested operationId => exact checkStep_cancel s operationId
  | effectCompleted completion => exact checkStep_completion s completion
  | shutdownRequested =>
    have shuts : Proceeds s .shutdownRequested (reduceCheckShutdown s).next
      (reduceCheckShutdown s).effects := .shutsDown
    cases s with
    | retired => exact .unchanged
    | stable available => cases available <;> exact .proceeds shuts
    | _ => exact .proceeds shuts

end Mish.Updater
