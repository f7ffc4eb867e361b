import Mish.StateMachine.Turn
import Mish.Updater.Check
import Mish.Updater.Version

/-!
# The updater's runtime

The state both machines share, what their observers write into it, and the callers that reserve an
admission in it. `Service.Step` interleaves the two actors with the callers of `start_check` and
`start_download`.
-/

namespace Mish.Updater
open StateMachine

structure RuntimeState where
  snapshot : UpdaterSnapshot
  accepted : AcceptedMetadata
  available : Option AvailableCandidate
  (releaseContextBound operationAdmissionPending : Bool)

/-- The published fields, taken over from a projection. -/
def UpdaterSnapshot.publish (snapshot : UpdaterSnapshot) (projection : CheckProjection) :
    UpdaterSnapshot :=
  { snapshot with
    revision := saturatingSucc snapshot.revision
    phase := projection.phase
    operationId := projection.operationId
    channel := projection.channel
    candidate := projection.candidate
    progress := projection.progress
    resumable := projection.resumable
    terminalReason := projection.terminalReason }

def ContinuationProjection.published (projection : ContinuationProjection) : CheckProjection :=
  ⟨projection.phase, some projection.operationId, some projection.channel,
    some projection.candidate, projection.progress, projection.resumable,
    projection.terminalReason⟩

namespace RuntimeState

def projectCheckState (digest : String → String) (machine : CheckState) (state : RuntimeState) :
    RuntimeState :=
  match machine.projection digest with
  | none => state
  | some projection =>
    if CheckProjection.fromSnapshot state.snapshot = projection then state
    else
      let state := { state with snapshot := state.snapshot.publish projection }
      match machine with
      | .stable (some (_, candidate)) | .retired _ (.available candidate) =>
        { state with available := some candidate, releaseContextBound := true }
      | _ => state

/-- `CheckProjectionObserver::transitioned`. -/
def observeCheck (digest : String → String) (input : CheckInput) (current : CheckState)
    (disposition : Disposition) (state : RuntimeState) : RuntimeState :=
  match input with
  | .checkRequested .. =>
    let state := { state with operationAdmissionPending := false }
    if shouldProject disposition then state.projectCheckState digest current else state
  | .effectCompleted _ =>
    if shouldProject disposition then state.projectCheckState digest current else state
  | .cancelRequested _ | .shutdownRequested => state

def isReady : ContinuationState → Bool
  | .ready .. | .retired _ _ .ready => true
  | _ => false

def isRecovered : ContinuationInput → Bool
  | .effectCompleted ⟨_, .recovery (.ok _)⟩ => true
  | _ => false

/-- What becomes ready is accepted. -/
def acceptReady [Versions] (input : ContinuationInput) (current : ContinuationState) (state : RuntimeState) :
    RuntimeState :=
  if isReady current then
    let state := match current.operation with
      | some operation => { state with
          accepted := state.accepted.record operation.candidate.metadata }
      | none => state
    if isRecovered input then state else { state with releaseContextBound := true }
  else state

/-- The publication of a continuation's state. That of an operation which is not the published one
is suppressed, unless the operation has just been requested. -/
def projectContinuation [Versions] (digest : String → String) (requested : Bool)
    (input : ContinuationInput) (current : ContinuationState) (state : RuntimeState) : RuntimeState :=
  match current.projection digest with
  | none => state
  | some projection =>
    if !requested && (state.snapshot.phase = .checking ||
        state.snapshot.operationId ≠ some projection.operationId) then state
    else if CheckProjection.fromSnapshot state.snapshot = projection.published then state
    else acceptReady input current
      { state with snapshot := state.snapshot.publish projection.published }

/-- `ContinuationProjectionObserver::transitioned`. -/
def observeContinuation [Versions] (digest : String → String) (input : ContinuationInput)
    (current : ContinuationState) (disposition : Disposition) (state : RuntimeState) :
    RuntimeState :=
  match input with
  | .downloadRequested .. =>
    let state := { state with operationAdmissionPending := false }
    if shouldProject disposition then state.projectContinuation digest true input current else state
  | _ => if shouldProject disposition then state.projectContinuation digest false input current
    else state

end RuntimeState

/-! ## The observers along a run of an actor -/

/-- What an observer makes of one call of the reducer. It is not called when the reducer panics. -/
def observeReduction {M : Machine}
    (observe : M.Input → M.State → Disposition → RuntimeState → RuntimeState) (red : Reduction M)
    (state : RuntimeState) : RuntimeState :=
  match red.transition with
  | some transition => observe red.input (transition.next red.before) transition.disposition state
  | none => state

/-- The calls an actor has made between `r` and `t`, observed one after another. -/
def observeNew {M : Machine}
    (observe : M.Input → M.State → Disposition → RuntimeState → RuntimeState) (r t : Runner M)
    (state : RuntimeState) : RuntimeState :=
  (t.reductions.take (t.reductions.length - r.reductions.length)).foldr (observeReduction observe)
    state

section
variable {M : Machine}
  {observe : M.Input → M.State → Disposition → RuntimeState → RuntimeState} {r t : Runner M}

theorem observeNew_called {cause input transition} (called : r.Called t cause input transition)
    (state : RuntimeState) : observeNew observe r t state =
    observe input (transition.next r.state) transition.disposition state := by
  simp [observeNew, called.reductions, observeReduction]

/-- A turn of an actor whose reducer does not panic, as its observer sees it: nothing happened, or
one input was reduced. -/
theorem observeNew_step {executes admits} (kept : Conserved [] r)
    (total : ∀ s input, M.reduce s input ≠ none) (step : Step executes admits r t) :
    (t.state = r.state ∧ ∀ state, observeNew observe r t state = state) ∨
    ∃ input transition, M.reduce r.state input = some transition ∧
    t.state = transition.next r.state ∧
    (∀ state, observeNew observe r t state =
    observe input (transition.next r.state) transition.disposition state) ∧
    (admits r input ∨ input = M.shutdown ∨
    ∃ effect, effect ∈ r.inFlight ∧ Settles executes r.state effect input) := by
  cases step.turn kept with
  | admitted _ _ allowed called =>
    exact .inr ⟨_, _, called.reduces, called.state, observeNew_called called, .inl allowed⟩
  | shutdown _ _ called =>
    exact .inr ⟨_, _, called.reduces, called.state, observeNew_called called, .inr (.inl rfl)⟩
  | settled _ perm settles called =>
    exact .inr ⟨_, _, called.reduces, called.state, observeNew_called called,
      .inr (.inr ⟨_, perm.mem_iff.2 List.mem_cons_self, settles⟩)⟩
  | quiet _ state same => exact .inl ⟨state, by simp [observeNew, same]⟩
  | panicked panics => exact absurd panics (total _ _)

end

/-! ## The service -/

/-- An admission whose caller waits for the answer, with the snapshot it was reserved under. -/
inductive Admission where
  | check (operation : CheckOperation) (outer : UpdaterSnapshot)
  | download (operation : ContinuationOperation) (outer : UpdaterSnapshot) (resumedBytes : Nat)
  deriving DecidableEq

/-- The two actors and the state they share. `waiting` are the admissions that have not been
answered, and `refused` counts the callers that have been told of a rejection and have not gone
on yet. -/
structure Service (digest : String → String) where
  checkRunner : Runner check
  continuationRunner : Runner (continuation digest)
  state : RuntimeState
  (checkEpoch continuationEpoch : Nat)
  waiting : List Admission
  refused : Nat

namespace Service
variable {digest : String → String} (s : Service digest)

def start (initial : ContinuationState) (state : RuntimeState) : Service digest where
  checkRunner := .start CheckState.idle
  continuationRunner := .start initial
  state := state
  checkEpoch := 1
  continuationEpoch := 1
  waiting := []
  refused := 0

def setPending (pending : Bool) : Service digest :=
  { s with state := { s.state with operationAdmissionPending := pending } }

/-- `CheckRuntime::start`, up to the admission. -/
def reserveCheck (operationId : String) (channel : UpdateChannel) : Service digest :=
  let snapshot := s.state.snapshot
  { s.setPending true with
    checkEpoch := (s.checkEpoch + 1) % 2 ^ 64
    waiting := s.waiting ++ [.check
      { machineAuthority := snapshot.authorityId
        scopeEpoch := s.checkEpoch
        operationId
        admittedRevision := saturatingSucc snapshot.revision
        channel
        baseline := .fromSnapshot snapshot } snapshot] }

/-- `ContinuationRuntime::start`, up to the admission. -/
def reserveDownload (operationId : String) (available : AvailableCandidate) : Service digest :=
  let snapshot := s.state.snapshot
  { s.setPending true with
    continuationEpoch := (s.continuationEpoch + 1) % 2 ^ 64
    waiting := s.waiting ++ [.download
      { machineAuthority := snapshot.authorityId
        scopeEpoch := s.continuationEpoch
        operationId
        admittedRevision := saturatingSucc snapshot.revision
        candidate := available } snapshot
      (min available.metadata.artifactSize ((snapshot.progress.map (·.downloadedBytes)).getD 0))] }

/-- The check actor has gone on to `r`. -/
def advanceCheck (r : Runner check) : Service digest :=
  { s with
    checkRunner := r
    state := observeNew (RuntimeState.observeCheck digest) s.checkRunner r s.state }

/-- The continuation actor has gone on to `r`. -/
def advanceContinuation [Versions] (r : Runner (continuation digest)) : Service digest :=
  { s with
    continuationRunner := r
    state := observeNew (RuntimeState.observeContinuation digest) s.continuationRunner r s.state }

/-- The caller whose admission was rejected has still to be told. -/
def answer {S E : Type} (waiting : List Admission)
    (transition : Transition S E UpdateOperationError) : Service digest :=
  { s with
    waiting
    refused := match transition with
      | .rejected _ => s.refused + 1
      | _ => s.refused }

end Service

/-- What the tasks of the check actor return. -/
def checkExecutes : Executor check
  | .discover correlation _, _, input =>
    ∃ result, input = .effectCompleted ⟨correlation, .discovery result⟩
  | .commitAvailable correlation _, _, input =>
    ∃ result, input = .effectCompleted ⟨correlation, .commit result⟩
  | .cancel correlation, _, input =>
    input = .effectCompleted ⟨correlation, .taskFailed .completionConflict⟩

/-- What the tasks of the continuation actor return, whatever sequence they have counted to. -/
def continuationExecutes {digest : String → String} : Executor (continuation digest)
  | .download correlation _, _, input => ∃ sequence result,
    input = .effectCompleted ⟨⟨correlation.machine, sequence⟩, .download result⟩
  | .verify correlation _, _, input => ∃ sequence result,
    input = .effectCompleted ⟨⟨correlation.machine, sequence⟩, .verify result⟩
  | .commitCandidate correlation _, _, input => ∃ sequence result,
    input = .effectCompleted ⟨⟨correlation.machine, sequence⟩, .commit result⟩
  | .finalizeFailure correlation _ _, _, input => ∃ sequence result,
    input = .effectCompleted ⟨⟨correlation.machine, sequence⟩, .finalize result⟩
  | .reverifyCandidate correlation _, _, input => ∃ sequence result,
    input = .effectCompleted ⟨⟨correlation.machine, sequence⟩, .recovery result⟩
  | .cancel correlation, _, input =>
    input = .effectCompleted ⟨correlation, .taskFailed .completionConflict⟩

/-- What is admitted to the check actor besides requests. -/
def checkAdmits (_ : Runner check) : CheckInput → Prop
  | .cancelRequested _ => True
  | _ => False

/-- What is admitted to the continuation actor besides requests. -/
def continuationAdmits {digest : String → String} (_ : Runner (continuation digest)) :
    ContinuationInput → Prop
  | .cancelRequested _ | .partialCommitted .. | .recoverRequested => True
  | _ => False

def Admission.checkInput (operation : CheckOperation) (outer : UpdaterSnapshot) : CheckInput :=
  .checkRequested operation outer.phase outer.operationId outer.channel

open Service in
/-- One step of the service. `clears` says where a caller that was refused may go on. -/
inductive Service.Step [Versions] {digest : String → String} (clears : Service digest → Prop) :
    Service digest → Service digest → Prop where
  | reserveCheck {s} (operationId : String) (channel : UpdateChannel) :
      s.state.operationAdmissionPending = false →
      Step clears s (s.reserveCheck operationId channel)
  | reserveDownload {s} (operationId : String) {available} :
      s.state.operationAdmissionPending = false →
      s.state.available = some available →
      Step clears s (s.reserveDownload operationId available)
  | decideCheck {s before after operation outer} :
      s.waiting = before ++ .check operation outer :: after → s.checkRunner.phase = .running →
      Step clears s ((s.advanceCheck
        (s.checkRunner.admitInput (Admission.checkInput operation outer))).answer (before ++ after)
          (checkReduce s.checkRunner.state (Admission.checkInput operation outer)))
  | decideDownload {s before after operation outer resumedBytes} :
      s.waiting = before ++ .download operation outer resumedBytes :: after →
      s.continuationRunner.phase = .running →
      Step clears s ((s.advanceContinuation
        (s.continuationRunner.admitInput
          (.downloadRequested operation outer resumedBytes))).answer (before ++ after)
            (continuationReduce digest s.continuationRunner.state
              (.downloadRequested operation outer resumedBytes)))
  -- the inbox is full or the actor is gone, so the caller takes its reservation back
  | turnAway {s before after admission} : s.waiting = before ++ admission :: after →
      Step clears s { s.setPending false with waiting := before ++ after }
  -- a caller whose admission was rejected goes on
  | resume {s n} : s.refused = n + 1 → clears s →
      Step clears s { s.setPending false with refused := n }
  | checkTurn {s r} : StateMachine.Step checkExecutes checkAdmits s.checkRunner r →
      Step clears s (s.advanceCheck r)
  | continuationTurn {s r} :
      StateMachine.Step continuationExecutes continuationAdmits s.continuationRunner r →
      Step clears s (s.advanceContinuation r)

abbrev Service.Run [Versions] {digest : String → String} (clears : Service digest → Prop) :
    Service digest → Service digest → Prop :=
  Relation.ReflTransGen (Service.Step clears)

end Mish.Updater
