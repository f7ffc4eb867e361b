import Mish.Updater.InFlight

/-!
# Checks and downloads exclude each other

The two actors never see each other's state. They are kept apart by the published phase and by one
reservation flag, which the callers set and the observers clear.
-/

namespace Mish.Updater
open StateMachine Admission List RuntimeState CheckProjection Service

variable {digest : String → String} {state : RuntimeState} {input : ContinuationInput}

/-! ## What the observers publish -/

namespace RuntimeState

theorem fromSnapshot_projectCheckState {machine projection}
    (projects : machine.projection digest = some projection) (state : RuntimeState) :
    fromSnapshot (state.projectCheckState digest machine).snapshot =
      projection := by
  unfold projectCheckState
  rw [projects]
  dsimp only
  split
  · assumption
  · split <;> rfl

theorem pending_projectCheckState {machine} :
    (state.projectCheckState digest machine).operationAdmissionPending =
    state.operationAdmissionPending := by
  unfold projectCheckState
  split
  · rfl
  · split
    · rfl
    · dsimp only
      split <;> rfl

theorem acceptReady_snapshot [Versions] {current} : (state.acceptReady input current).snapshot =
    state.snapshot ∧ (state.acceptReady input current).operationAdmissionPending =
    state.operationAdmissionPending := by
  unfold acceptReady
  split
  · dsimp only
    split <;> split <;> exact ⟨rfl, rfl⟩
  · exact ⟨rfl, rfl⟩

/-- The publication is suppressed. -/
def Suppressed (projection : ContinuationProjection) (state : RuntimeState) : Prop :=
  state.snapshot.phase = .checking ∨ state.snapshot.operationId ≠ some projection.operationId

variable {current : ContinuationState}

theorem projectContinuation_suppressed [Versions]
    (suppressed : ∀ projection, current.projection digest = some projection →
    Suppressed projection state) :
    state.projectContinuation digest false input current = state := by
  unfold projectContinuation
  split
  · rfl
  · rename_i projection projects
    rcases suppressed projection projects with checking | other
    · simp [checking]
    · simp [other]

theorem fromSnapshot_projectContinuation [Versions] {requested projection}
    (projects : current.projection digest = some projection)
    (shown : requested = true ∨ ¬ Suppressed projection state) :
    fromSnapshot (state.projectContinuation digest requested input current).snapshot =
    projection.published := by
  have open_ : ¬((!requested && (decide (state.snapshot.phase = .checking) ||
      decide (state.snapshot.operationId ≠ some projection.operationId))) = true) := by
    rcases shown with rfl | shown
    · simp
    · simpa [Suppressed, not_or] using fun _ => not_or.1 shown
  unfold projectContinuation
  rw [projects]
  dsimp only
  rw [if_neg open_]
  split
  · assumption
  · rw [acceptReady_snapshot.1]
    rfl

theorem pending_projectContinuation [Versions] {requested} :
    (state.projectContinuation digest requested input current).operationAdmissionPending =
    state.operationAdmissionPending := by
  unfold projectContinuation
  split
  · rfl
  · split
    · rfl
    · split
      · rfl
      · exact acceptReady_snapshot.2

end RuntimeState

/-! ## What the machines publish -/

/-- The phase that is published while an operation is worked on. -/
theorem projection_working {s : ContinuationState} {operation}
    (works : s.working = some operation) : ∃ projection, s.projection digest = some projection ∧
    projection.operationId = operation.operationId ∧
    (projection.phase = .downloading ∨ projection.phase = .verifying) := by
  cases s with
  | downloading =>
    cases works
    exact ⟨_, rfl, rfl, .inl rfl⟩
  | verifying | committingCandidate =>
    cases works
    exact ⟨_, rfl, rfl, .inr rfl⟩
  | finalizing _ _ stage =>
    cases works
    cases stage with
    | downloading => exact ⟨_, rfl, rfl, .inl rfl⟩
    | verifying => exact ⟨_, rfl, rfl, .inr rfl⟩
  | _ => cases works

theorem projection_busy {s : CheckState} (busy : s.isBusy = true) :
    ∃ projection, s.projection digest = some projection ∧ projection.phase = .checking := by
  cases s with
  | checking | committingAvailable => exact ⟨_, rfl, rfl⟩
  | _ => cases busy

/-! ## What is kept -/

def UpdatePhase.isBusy : UpdatePhase → Bool
  | .checking | .downloading | .verifying => true
  | _ => false

structure Exclusive (s : Service digest) : Prop where
  keptCheck : Conserved [] s.checkRunner
  keptContinuation : Conserved [] s.continuationRunner
  checking : s.checkRunner.state.isBusy = true → s.state.snapshot.phase = .checking
  working : ∀ operation, ContinuationState.working s.continuationRunner.state = some operation →
    (s.state.snapshot.phase = .downloading ∨ s.state.snapshot.phase = .verifying) ∧
      s.state.snapshot.operationId = some operation.operationId
  reserved : (s.state.operationAdmissionPending = true ∧ s.waiting.length = 1) ∨
    (s.state.operationAdmissionPending = false ∧ s.waiting = [])
  -- an admission that was reserved while nothing was at work finds nothing at work
  heldCheck : ∀ operation outer, .check operation outer ∈ s.waiting → outer.phase.isBusy = false →
    ContinuationState.working s.continuationRunner.state = none
  heldDownload : ∀ operation outer resumedBytes, .download operation outer resumedBytes ∈ s.waiting →
    outer.phase.isBusy = false → s.checkRunner.state.isBusy = false

section
variable {s : Service digest}

theorem exclusive_start {initial} (h : Initial initial)
    (free : state.operationAdmissionPending = false) :
    Exclusive (start initial state : Service digest) where
  keptCheck := conserved_start (M := check) CheckState.idle
  keptContinuation := conserved_start (M := continuation digest) initial
  checking := nofun
  working := by
    intro operation works
    cases h <;> cases works
  reserved := .inr ⟨free, rfl⟩
  heldCheck := fun _ _ listed => absurd listed not_mem_nil
  heldDownload := fun _ _ _ listed => absurd listed not_mem_nil

section
variable (h : Exclusive s)
include h

theorem Exclusive.not_both (busy : s.checkRunner.state.isBusy = true) :
    ContinuationState.working s.continuationRunner.state = none := by
  cases works : ContinuationState.working s.continuationRunner.state with
  | none => rfl
  | some operation =>
    have phase := (h.working operation works).1
    rw [h.checking busy] at phase
    rcases phase with phase | phase <;> cases phase

theorem Exclusive.waits_alone {before after admission}
    (waits : s.waiting = before ++ admission :: after) : before ++ after = [] := by
  rcases h.reserved with ⟨_, one⟩ | ⟨_, none⟩
  · rw [waits] at one
    refine eq_nil_of_length_eq_zero ?_
    simp only [length_append, length_cons] at one ⊢
    omega
  · simp [none] at waits

theorem Exclusive.idle_of_free
    (free : s.state.operationAdmissionPending = false) : s.waiting = [] := by
  rcases h.reserved with ⟨pending, _⟩ | ⟨_, none⟩
  · cases pending.symm.trans free
  · exact none

theorem Exclusive.reserveCheck
    (free : s.state.operationAdmissionPending = false) (operationId : String)
    (channel : UpdateChannel) : Exclusive (s.reserveCheck operationId channel) :=
  { h with
    reserved := by
      refine .inl ⟨rfl, ?_⟩
      simp [Service.reserveCheck, h.idle_of_free free]
    heldCheck := by
      intro operation outer listed idle
      simp only [Service.reserveCheck, h.idle_of_free free, nil_append,
        mem_singleton] at listed
      cases listed
      change ContinuationState.working s.continuationRunner.state = none
      cases works : ContinuationState.working s.continuationRunner.state with
      | none => rfl
      | some operation =>
        rcases (h.working operation works).1 with phase | phase <;> rw [phase] at idle <;> cases idle
    heldDownload := by
      intro operation outer resumedBytes listed
      simp [Service.reserveCheck, h.idle_of_free free] at listed }

theorem Exclusive.reserveDownload
    (free : s.state.operationAdmissionPending = false) (operationId : String)
    (available : AvailableCandidate) : Exclusive (s.reserveDownload operationId available) :=
  { h with
    reserved := by
      refine .inl ⟨rfl, ?_⟩
      simp [Service.reserveDownload, h.idle_of_free free]
    heldCheck := by
      intro operation outer listed
      simp [Service.reserveDownload, h.idle_of_free free] at listed
    heldDownload := by
      intro operation outer resumedBytes listed idle
      simp only [Service.reserveDownload, h.idle_of_free free, nil_append,
        mem_singleton] at listed
      cases listed
      change s.checkRunner.state.isBusy = false
      cases busy : s.checkRunner.state.isBusy with
      | false => rfl
      | true =>
        rw [h.checking busy] at idle
        cases idle }

/-- The check actor moves on and its observer writes `state`. -/
theorem Exclusive.ofCheck {r} (kept : Conserved [] r)
    (pending : state.operationAdmissionPending = s.state.operationAdmissionPending)
    (checking : CheckState.isBusy r.state = true → state.snapshot.phase = .checking)
    (ends : CheckState.isBusy r.state = true → s.checkRunner.state.isBusy = true)
    (apart : state.snapshot = s.state.snapshot ∨
    ContinuationState.working s.continuationRunner.state = none) :
    Exclusive { s with checkRunner := r, state } :=
  { h with
    keptCheck := kept
    checking := checking
    working := by
      intro operation works
      rcases apart with same | idle
      · rw [same]
        exact h.working operation works
      · cases idle.symm.trans works
    reserved := by
      rw [pending]
      exact h.reserved
    heldDownload := by
      intro operation outer resumedBytes listed idle
      have before := h.heldDownload operation outer resumedBytes listed idle
      cases busy : CheckState.isBusy r.state with
      | false => rfl
      | true => exact (before.symm.trans (ends busy)).symm }

omit h in
theorem observeCheck_quiet {input : CheckInput} (other : input.isRequest = false) {disposition}
    (quiet : (∃ completion, input = .effectCompleted completion) →
    shouldProject disposition = false) (current : CheckState) :
    state.observeCheck digest input current disposition = state := by
  cases input with
  | checkRequested => cases other
  | effectCompleted completion => simp [observeCheck, quiet ⟨completion, rfl⟩]
  | cancelRequested | shutdownRequested => rfl

/-- An input of the check actor that is no request, as the service sees it. -/
theorem Exclusive.observesCheck {r : Runner check} (kept : Conserved [] r) {input}
    (other : input.isRequest = false) {transition}
    (does : CheckStep s.checkRunner.state input transition)
    (state : r.state = transition.next s.checkRunner.state) : Exclusive { s with
      checkRunner := r
      state := s.state.observeCheck digest input (transition.next s.checkRunner.state)
        transition.disposition } := by
  have ends (busy : CheckState.isBusy r.state = true) : s.checkRunner.state.isBusy = true := by
    rw [state] at busy
    cases does with
    | rejected | unchanged | retired => exact busy
    | @proceeds t effects proceeds =>
      have next := (checkTransition_of_applied s.checkRunner.state t effects).1
      exact (proceeds.busy other).1 ((congrArg CheckState.isBusy next).symm.trans busy)
  by_cases shown : (∃ completion, input = .effectCompleted completion) ∧
      shouldProject transition.disposition = true
  · obtain ⟨⟨completion, rfl⟩, shown⟩ := shown
    cases does with
    | rejected | unchanged | retired => cases shown
    | @proceeds t effects proceeds =>
      have next := (checkTransition_of_applied s.checkRunner.state t effects).1
      simp only [observeCheck, shown, if_true, next]
      refine h.ofCheck kept pending_projectCheckState (fun busy => ?_) ends
        (.inr (h.not_both ((proceeds.busy other).2 completion rfl)))
      have now : t.isBusy = true := state.trans next ▸ busy
      obtain ⟨projection, projects, phase⟩ := projection_busy now
      have published := fromSnapshot_projectCheckState projects s.state
      exact (congrArg CheckProjection.phase published).trans phase
  · rw [observeCheck_quiet other fun completed => by simpa [completed] using shown]
    exact h.ofCheck kept rfl (fun busy => h.checking (ends busy)) ends (.inl rfl)

end

/-- A turn of the check actor, as the service sees it. -/
theorem advanceCheck_step (kept : Conserved [] s.checkRunner) {r}
    (step : StateMachine.Step checkExecutes checkAdmits s.checkRunner r) :
    (r.state = s.checkRunner.state ∧ s.advanceCheck r = { s with checkRunner := r }) ∨
      ∃ input : CheckInput, input.isRequest = false ∧
        r.state = (checkReduce s.checkRunner.state input).next s.checkRunner.state ∧
        s.advanceCheck r = { s with
          checkRunner := r
          state := s.state.observeCheck digest input
            ((checkReduce s.checkRunner.state input).next s.checkRunner.state)
            (checkReduce s.checkRunner.state input).disposition } := by
  have writes (state : RuntimeState)
      (observed : observeNew (observeCheck digest) s.checkRunner r s.state = state) :
      s.advanceCheck r = { s with checkRunner := r, state } :=
    congrArg (fun state => { s with checkRunner := r, state }) observed
  rcases observeNew_step kept (fun _ _ => Option.some_ne_none _) step with
    ⟨same, observed⟩ | ⟨input, transition, reduces, state, observed, origin⟩
  · exact .inl ⟨same, writes _ (observed _)⟩
  · cases reduces
    refine .inr ⟨input, ?_, state, writes _ (observed _)⟩
    rcases origin with allowed | rfl | ⟨effect, _, settles⟩
    · cases input <;> first | rfl | exact allowed.elim
    · rfl
    · obtain ⟨completion, rfl⟩ := settles_check settles
      rfl

theorem Exclusive.checkTurn (h : Exclusive s) {r}
    (step : StateMachine.Step checkExecutes checkAdmits s.checkRunner r) :
    Exclusive (s.advanceCheck r) := by
  have kept := h.keptCheck.step step
  rcases advanceCheck_step h.keptCheck step with ⟨same, is⟩ | ⟨input, other, state, is⟩
  · rw [is]
    exact h.ofCheck kept rfl (fun busy => h.checking (same ▸ busy)) (fun busy => same ▸ busy)
      (.inl rfl)
  · rw [is]
    exact h.observesCheck kept other (checkStep _ _) state

variable {r : Runner (continuation digest)} {disposition : Disposition} {t : Service digest}
  {outer : UpdaterSnapshot} {operation : CheckOperation} {before after : List Admission}

/-- The continuation actor moves on and its observer writes `state`. -/
theorem Exclusive.ofContinuation (h : Exclusive s) (kept : Conserved [] r)
    (pending : state.operationAdmissionPending = s.state.operationAdmissionPending)
    (checking : s.checkRunner.state.isBusy = true → state.snapshot.phase = .checking)
    (works : ∀ operation, ContinuationState.working r.state = some operation →
    ContinuationState.working s.continuationRunner.state = some operation ∧
    (state.snapshot.phase = .downloading ∨ state.snapshot.phase = .verifying) ∧
    state.snapshot.operationId = some operation.operationId) :
    Exclusive { s with continuationRunner := r, state } :=
  { h with
    keptContinuation := kept
    checking := checking
    working := fun operation now => (works operation now).2
    reserved := by
      rw [pending]
      exact h.reserved
    heldCheck := by
      intro operation outer listed idle
      have before := h.heldCheck operation outer listed idle
      cases now : ContinuationState.working r.state with
      | none => rfl
      | some other => exact absurd (before.symm.trans (works other now).1) nofun }

/-- A turn of the continuation actor, as the service sees it. -/
theorem advanceContinuation_step [Versions] (kept : Conserved [] s.continuationRunner)
    (step : StateMachine.Step continuationExecutes continuationAdmits s.continuationRunner r) :
    (r.state = s.continuationRunner.state ∧
      s.advanceContinuation r = { s with continuationRunner := r }) ∨
      ∃ (input : ContinuationInput) (current : ContinuationState) (disposition : Disposition),
        input.isRequest = false ∧ r.state = current ∧
        (∀ operation, current.working = some operation →
          ContinuationState.working s.continuationRunner.state = some operation) ∧
        s.advanceContinuation r = { s with
          continuationRunner := r
          state := s.state.observeContinuation digest input current disposition } := by
  have writes (state : RuntimeState)
      (observed : observeNew (observeContinuation digest) s.continuationRunner r s.state = state) :
      s.advanceContinuation r = { s with continuationRunner := r, state } :=
    congrArg (fun state => { s with continuationRunner := r, state }) observed
  rcases observeNew_step kept (fun _ _ => Option.some_ne_none _) step with
    ⟨same, observed⟩ | ⟨input, transition, reduces, state, observed, origin⟩
  · exact .inl ⟨same, writes _ (observed _)⟩
  · cases reduces
    have other : ContinuationInput.isRequest input = false := by
      rcases origin with allowed | rfl | ⟨effect, _, settles⟩
      · cases input <;> first | rfl | exact allowed.elim
      · rfl
      · obtain ⟨completion, rfl⟩ := settles_continuation settles
        rfl
    refine .inr ⟨input, _, _, other, state, fun operation works => ?_, writes _ (observed _)⟩
    rcases advances_or_idle digest s.continuationRunner.state input with advances | idle
    · exact advances.working other works
    · exact (congrArg ContinuationState.working idle.1).symm.trans works

theorem observeContinuation_other [Versions] (other : input.isRequest = false)
    (current : ContinuationState) (disposition : Disposition) (state : RuntimeState) :
    state.observeContinuation digest input current disposition =
    if shouldProject disposition then state.projectContinuation digest false input current
    else state := by
  cases input <;> first | rfl | cases other

/-- An input of the continuation actor that is no request, as the service sees it. -/
theorem Exclusive.observesContinuation [Versions] (h : Exclusive s)
    (kept : Conserved [] r) (other : input.isRequest = false)
    {current : ContinuationState} (now : r.state = current)
    (keeps : ∀ operation, current.working = some operation →
      ContinuationState.working s.continuationRunner.state = some operation) : Exclusive { s with
      continuationRunner := r
      state := s.state.observeContinuation digest input current disposition } := by
  rw [observeContinuation_other other]
  by_cases shown : shouldProject disposition = true
  · rw [if_pos shown]
    refine h.ofContinuation kept pending_projectContinuation
      (fun busy => ?_) fun operation runs => ?_
    · rw [projectContinuation_suppressed fun _ _ => .inl (h.checking busy)]
      exact h.checking busy
    · have works : current.working = some operation := now ▸ runs
      obtain ⟨phase, named⟩ := h.working operation (keeps operation works)
      obtain ⟨projection, projects, id, at_⟩ := projection_working works
      have open_ : ¬ Suppressed projection s.state := by
        rintro (checking | differs)
        · rw [checking] at phase
          rcases phase with phase | phase <;> cases phase
        · exact differs (id ▸ named)
      have published : fromSnapshot
          (s.state.projectContinuation digest false input current).snapshot =
          projection.published :=
        fromSnapshot_projectContinuation projects (.inr open_)
      have phase' : (s.state.projectContinuation digest false input current).snapshot.phase =
          projection.phase := congrArg CheckProjection.phase published
      have named' : (s.state.projectContinuation digest false input current).snapshot.operationId =
          some projection.operationId := congrArg operationId published
      exact ⟨keeps operation works, phase' ▸ at_, named'.trans (congrArg some id)⟩
  · rw [if_neg shown]
    refine h.ofContinuation kept rfl h.checking fun operation runs => ?_
    have works := keeps operation (now ▸ runs)
    exact ⟨works, h.working operation works⟩

theorem Exclusive.continuationTurn [Versions] (h : Exclusive s)
    (step : StateMachine.Step continuationExecutes continuationAdmits s.continuationRunner r) :
    Exclusive (s.advanceContinuation r) := by
  have kept := h.keptContinuation.step step
  rcases advanceContinuation_step h.keptContinuation step with
    ⟨same, is⟩ | ⟨input, current, disposition, other, now, keeps, is⟩
  · rw [is]
    refine h.ofContinuation kept rfl h.checking fun operation works => ?_
    have before : ContinuationState.working s.continuationRunner.state = some operation :=
      same ▸ works
    exact ⟨before, h.working operation before⟩
  · rw [is]
    exact h.observesContinuation kept other now keeps

/-! ## Answered admissions -/

/-- A request has been answered: nobody waits any more, and the flag is clear. -/
theorem exclusive_answered (kept : Conserved [] t.checkRunner)
    (kept' : Conserved [] t.continuationRunner)
    (free : t.state.operationAdmissionPending = false) (none : t.waiting = [])
    (checking : t.checkRunner.state.isBusy = true → t.state.snapshot.phase = .checking)
    (working : ∀ operation, ContinuationState.working t.continuationRunner.state = some operation →
    (t.state.snapshot.phase = .downloading ∨ t.state.snapshot.phase = .verifying) ∧
    t.state.snapshot.operationId = some operation.operationId) : Exclusive t where
  keptCheck := kept
  keptContinuation := kept'
  checking := checking
  working := working
  reserved := .inr ⟨free, none⟩
  heldCheck := fun _ _ listed => absurd (none ▸ listed) not_mem_nil
  heldDownload := fun _ _ _ listed => absurd (none ▸ listed) not_mem_nil

/-- A request for a check is refused or ignored, or it starts a check that nothing else has
published over. -/
theorem observeCheck_request {b : CheckState} {transition}
    (does : CheckStep b (checkInput operation outer) transition) (state : RuntimeState) :
    (state.observeCheck digest (checkInput operation outer) (transition.next b)
    transition.disposition).operationAdmissionPending = false ∧
    ((transition.next b = b ∧
    (state.observeCheck digest (checkInput operation outer) (transition.next b)
    transition.disposition).snapshot = state.snapshot) ∨
    (outer.phase.isBusy = false ∧
    (state.observeCheck digest (checkInput operation outer) (transition.next b)
    transition.disposition).snapshot.phase = .checking)) := by
  cases does with
  | rejected | unchanged | retired => exact ⟨rfl, .inl ⟨rfl, rfl⟩⟩
  | @proceeds t effects proceeds =>
    simp only [checkInput, observeCheck, checkDisposition_of_applied,
      if_true]
    refine ⟨pending_projectCheckState, .inr ?_⟩
    cases proceeds with
    | requested _ _ idle =>
      have busy : (CheckState.checking (inheriting b operation) false false).isBusy = true := rfl
      obtain ⟨projection, projects, phase⟩ := projection_busy busy
      have published := fromSnapshot_projectCheckState projects
        { state with operationAdmissionPending := false }
      refine ⟨?_, (congrArg CheckProjection.phase published).trans phase⟩
      cases phase : outer.phase <;> simp_all [UpdatePhase.isBusy]

theorem Exclusive.decideCheck (h : Exclusive s)
    (waits : s.waiting = before ++ .check operation outer :: after)
    (running : s.checkRunner.phase = .running) : Exclusive ((s.advanceCheck
    (s.checkRunner.admitInput (checkInput operation outer))).answer (before ++ after)
    (checkReduce s.checkRunner.state (checkInput operation outer))) := by
  have step : StateMachine.Step checkExecutes (fun _ _ => True) s.checkRunner
      (s.checkRunner.admitInput (checkInput operation outer)) :=
    .admitInput _ running trivial
  have called : s.checkRunner.Called
      (s.checkRunner.admitInput (checkInput operation outer)) .admission
      (checkInput operation outer)
      (checkReduce s.checkRunner.state (checkInput operation outer)) :=
    admitInput_called rfl
  have observed : (s.advanceCheck (s.checkRunner.admitInput
      (checkInput operation outer))).state = _ := observeNew_called called s.state
  obtain ⟨free, effect⟩ := observeCheck_request
    (checkStep s.checkRunner.state (checkInput operation outer)) s.state
  refine exclusive_answered (h.keptCheck.step step) h.keptContinuation
    ((congrArg operationAdmissionPending observed).trans free)
    (h.waits_alone waits) (fun busy => ?_) fun working works => ?_
  · rcases effect with ⟨same, snapshot⟩ | ⟨_, checking⟩
    · have before : s.checkRunner.state.isBusy = true :=
        (congrArg CheckState.isBusy (called.state.trans same)).symm.trans busy
      have stays := (congrArg RuntimeState.snapshot observed).trans snapshot
      exact (congrArg UpdaterSnapshot.phase stays).trans (h.checking before)
    · exact (congrArg (·.snapshot.phase) observed).trans checking
  · rcases effect with ⟨_, snapshot⟩ | ⟨idle, _⟩
    · have stays := (congrArg RuntimeState.snapshot observed).trans snapshot
      have published := h.working working works
      rw [← stays] at published
      exact published
    · have rests := h.heldCheck operation outer (by rw [waits]; simp) idle
      cases rests.symm.trans works

theorem observeContinuation_shown [Versions] (shown : shouldProject disposition = true)
    {operation resumedBytes current} :
    state.observeContinuation digest (.downloadRequested operation outer resumedBytes) current
    disposition =
    projectContinuation digest true (.downloadRequested operation outer resumedBytes) current
    { state with operationAdmissionPending := false } := by
  simp only [observeContinuation, shown, if_true]

/-- The state a request for a download leads to. -/
def ContinuationState.begun (operation : ContinuationOperation) (resumedBytes : Nat) :
    ContinuationState :=
  .downloading operation ⟨min resumedBytes operation.candidate.metadata.artifactSize,
    operation.candidate.metadata.artifactSize, 0⟩ false false

/-- A request for a download is refused or ignored, or it starts one that nothing else has
published over. -/
theorem observeContinuation_request [Versions] (b : ContinuationState) {operation resumedBytes}
    (requests : input = .downloadRequested operation outer resumedBytes) (state : RuntimeState) :
    ∃ (t : ContinuationState) (state' : RuntimeState),
    (continuationReduce digest b input).next b = t ∧
    state.observeContinuation digest input t (continuationReduce digest b input).disposition =
    state' ∧
    state'.operationAdmissionPending = false ∧
    ((t = b ∧ state'.snapshot = state.snapshot) ∨
    (outer.phase.isBusy = false ∧ t.working = some operation ∧
    state'.snapshot.phase = .downloading ∧
    state'.snapshot.operationId = some operation.operationId)) := by
  subst requests
  unfold continuationReduce reduceContinuation
  dsimp only
  cases decided : reduceDownloadRequested digest b operation outer resumedBytes with
  | error error => exact ⟨_, _, rfl, rfl, rfl, .inl ⟨rfl, rfl⟩⟩
  | ok decision =>
    rcases steps_requested decided with ⟨is, advances⟩ | ⟨disposition, rfl, idle⟩
    · obtain ⟨next, effects, disposition⟩ := decision
      rw [is]
      cases advances with
      | requested _ _ _ phase =>
        have projects : ∃ projection, (ContinuationState.begun operation resumedBytes).projection
            digest = some projection ∧ projection.phase = .downloading ∧
            projection.operationId = operation.operationId := ⟨_, rfl, rfl, rfl⟩
        obtain ⟨projection, projects, at_, id⟩ := projects
        have published : fromSnapshot (projectContinuation digest true
            (.downloadRequested operation outer resumedBytes) (.begun operation resumedBytes)
            { state with operationAdmissionPending := false }).snapshot = projection.published :=
          fromSnapshot_projectContinuation projects (.inl rfl)
        refine ⟨.begun operation resumedBytes, _, rfl, observeContinuation_shown rfl,
          pending_projectContinuation, .inr ⟨?_, rfl, ?_, ?_⟩⟩
        · rcases phase with phase | phase | phase <;> rw [phase] <;> rfl
        · exact (congrArg CheckProjection.phase published).trans at_
        · exact (congrArg operationId published).trans (congrArg some id)
    · cases disposition with
      | applied => exact absurd rfl idle
      | cancelTooLate | duplicate | retiredCompletion => exact ⟨_, _, rfl, rfl, rfl, .inl ⟨rfl, rfl⟩⟩

theorem Exclusive.decideDownload [Versions] (h : Exclusive s) {operation resumedBytes}
    (requests : input = .downloadRequested operation outer resumedBytes)
    (waits : s.waiting = before ++ .download operation outer resumedBytes :: after)
    (running : s.continuationRunner.phase = .running) :
    Exclusive ((s.advanceContinuation (s.continuationRunner.admitInput input)).answer
    (before ++ after) (continuationReduce digest s.continuationRunner.state input)) := by
  have step : StateMachine.Step continuationExecutes (fun _ _ => True) s.continuationRunner
      (s.continuationRunner.admitInput input) := .admitInput _ running trivial
  have called : s.continuationRunner.Called (s.continuationRunner.admitInput input) .admission
      input (continuationReduce digest s.continuationRunner.state input) := admitInput_called rfl
  have observed : (s.advanceContinuation (s.continuationRunner.admitInput input)).state = _ :=
    observeNew_called called s.state
  obtain ⟨t, state, next, writes, free, effect⟩ :=
    observeContinuation_request s.continuationRunner.state requests s.state
  have becomes := called.state.trans next
  have observed := observed.trans ((congrArg (fun current => s.state.observeContinuation digest _
    current _) next).trans writes)
  refine exclusive_answered h.keptCheck (h.keptContinuation.step step)
    ((congrArg operationAdmissionPending observed).trans free)
    (h.waits_alone waits) (fun busy => ?_) fun working works => ?_
  · rcases effect with ⟨_, snapshot⟩ | ⟨idle, _⟩
    · have stays := (congrArg RuntimeState.snapshot observed).trans snapshot
      exact (congrArg UpdaterSnapshot.phase stays).trans (h.checking busy)
    · have rests := h.heldDownload operation outer resumedBytes (by rw [waits]; simp) idle
      cases rests.symm.trans busy
  · have works : t.working = some working :=
      (congrArg ContinuationState.working becomes).symm.trans works
    rcases effect with ⟨same, snapshot⟩ | ⟨_, begins, phase, id⟩
    · have stays := (congrArg RuntimeState.snapshot observed).trans snapshot
      have published := h.working working (same ▸ works)
      rw [← stays] at published
      exact published
    · cases begins.symm.trans works
      exact ⟨.inl ((congrArg (·.snapshot.phase) observed).trans phase),
        (congrArg (·.snapshot.operationId) observed).trans id⟩

theorem Exclusive.step [Versions] (h : Exclusive s)
    (step : Step (fun s => s.waiting = []) s t) : Exclusive t := by
  cases step with
  | reserveCheck operationId channel free => exact h.reserveCheck free operationId channel
  | reserveDownload operationId free _ => exact h.reserveDownload free operationId _
  | decideCheck waits running => exact h.decideCheck waits running
  | decideDownload waits running => exact h.decideDownload rfl waits running
  | turnAway waits =>
    exact exclusive_answered h.keptCheck h.keptContinuation rfl (h.waits_alone waits) h.checking
      h.working
  | resume _ clear =>
    exact exclusive_answered h.keptCheck h.keptContinuation rfl clear h.checking h.working
  | checkTurn step => exact h.checkTurn step
  | continuationTurn step => exact h.continuationTurn step

theorem Exclusive.run [Versions] (h : Exclusive s)
    (run : Run (fun s => s.waiting = []) s t) : Exclusive t := by
  induction run with
  | refl => exact h
  | tail _ step ih => exact ih.step step

end

/-! ## Runs of the service -/

section
variable {clears : Service digest → Prop} {s t : Service digest}

theorem Service.Step.check [Versions] (step : Step clears s t) :
    Relation.ReflGen (StateMachine.Step checkExecutes checkCalls) s.checkRunner t.checkRunner := by
  cases step with
  | decideCheck _ running => exact .single (.admitInput _ running trivial)
  | checkTurn step =>
    refine .single (step.mono fun _ input admits => ?_)
    cases input <;> first | exact trivial | exact admits
  | reserveCheck | reserveDownload | decideDownload | turnAway | resume | continuationTurn =>
    exact .refl

theorem Service.Step.continuation [Versions] (step : Step clears s t) :
    Relation.ReflGen (StateMachine.Step continuationExecutes continuationCalls)
    s.continuationRunner t.continuationRunner := by
  cases step with
  | decideDownload _ running => exact .single (.admitInput _ running trivial)
  | continuationTurn step =>
    refine .single (step.mono fun _ input admits => ?_)
    cases input <;> first | exact trivial | exact admits
  | reserveCheck | reserveDownload | decideCheck | turnAway | resume | checkTurn =>
    exact .refl

/-- Each actor of the service makes a run of its own. -/
theorem Service.Run.actors [Versions] (run : Run clears s t) :
    StateMachine.Run checkExecutes checkCalls s.checkRunner t.checkRunner ∧
    StateMachine.Run continuationExecutes continuationCalls s.continuationRunner
    t.continuationRunner := by
  induction run with
  | refl => exact ⟨.refl, .refl⟩
  | tail _ step ih => exact ⟨ih.1.trans step.check.to_reflTransGen,
      ih.2.trans step.continuation.to_reflTransGen⟩

end

/-- While no caller that was refused clears the flag of another one, a check is never in flight
together with a download, and the flag is set exactly while one admission is undecided. -/
theorem check_and_download_exclude [Versions] {initial : ContinuationState} {state : RuntimeState}
    (starts : Initial initial) (free : state.operationAdmissionPending = false) {s : Service digest}
    (run : Service.Run (fun s => s.waiting = []) (.start initial state) s) :
    (∀ effect ∈ s.checkRunner.inFlight, ∀ work ∈ s.continuationRunner.inFlight,
      ContinuationEffect.isWork work = false) ∧
    (s.state.operationAdmissionPending = true → ∃ admission, s.waiting = [admission]) ∧
    (s.waiting = [] → s.state.operationAdmissionPending = false) := by
  have kept := (exclusive_start starts free).run run
  obtain ⟨checks, continues⟩ := run.actors
  refine ⟨?_, ?_, ?_⟩
  · intro effect checking work flies
    have idle := kept.not_both (busy_of_inFlight checks checking)
    by_contra works
    have some := working_of_inFlight continues flies (eq_true_of_ne_false works)
    rw [idle] at some
    cases some
  · intro pending
    rcases kept.reserved with ⟨_, one⟩ | ⟨free, _⟩
    · exact length_eq_one_iff.1 one
    · cases free.symm.trans pending
  · intro none
    rcases kept.reserved with ⟨_, one⟩ | ⟨free, _⟩
    · rw [none] at one
      cases one
    · exact free

section
open ByLength

def offered : RuntimeState := ⟨sampleOuter .available, .empty, some sampleCandidate, true, false⟩

/-- A candidate is on offer and nothing is at work. -/
def offering : Service id := .start .stable offered

def offeredDownload (scopeEpoch : Nat) : ContinuationOperation :=
  ⟨"authority", scopeEpoch, "operation", 1, sampleCandidate⟩

/-- A requested download has begun. -/
def downloading : Service id :=
  let s := offering.reserveDownload "operation" sampleCandidate
  (s.advanceContinuation (s.continuationRunner.admitInput (M := continuation id)
    (.downloadRequested (offeredDownload 1) (sampleOuter .available) 0))).answer []
      (continuationReduce id s.continuationRunner.state
        (.downloadRequested (offeredDownload 1) (sampleOuter .available) 0))

def lateCheck : CheckOperation :=
  ⟨"authority", 1, "other", saturatingSucc downloading.state.snapshot.revision, .alpha,
    .fromSnapshot downloading.state.snapshot⟩

/-- A check has been requested next, and refused. -/
def contended : Service id :=
  let s := downloading.reserveCheck "other" .alpha
  (s.advanceCheck (s.checkRunner.admitInput (M := check)
    (checkInput lateCheck downloading.state.snapshot))).answer []
      (checkReduce s.checkRunner.state (checkInput lateCheck downloading.state.snapshot))

theorem run_contended {clears} : Run clears offering contended := by
  have waits : (offering.reserveDownload "operation" sampleCandidate).waiting = [] ++
      .download (offeredDownload 1) (sampleOuter .available) 0 :: [] := rfl
  have checks : (downloading.reserveCheck "other" .alpha).waiting = [] ++
      .check lateCheck downloading.state.snapshot :: [] := rfl
  have begun : Run clears offering downloading :=
    .tail (.single (.reserveDownload "operation" rfl rfl)) (.decideDownload waits rfl)
  exact (begun.tail (.reserveCheck "other" .alpha (by decide +kernel))).tail
    (.decideCheck checks rfl)

theorem check_and_download_exclude_contended : contended.refused = 1 ∧
    contended.continuationRunner.inFlight =
      [ContinuationEffect.download ((offeredDownload 1).correlation downloadEffectId 0)
        sampleCandidate] ∧ (∀ effect ∈ contended.checkRunner.inFlight,
      ∀ work ∈ contended.continuationRunner.inFlight, ContinuationEffect.isWork work = false) ∧
    (contended.state.operationAdmissionPending = true →
      ∃ admission, contended.waiting = [admission]) ∧
    (contended.waiting = [] → contended.state.operationAdmissionPending = false) :=
  ⟨rfl, by rfl, check_and_download_exclude .stable
    (show offered.operationAdmissionPending = false from rfl) run_contended⟩

/-! ## A flag that is cleared for another caller -/

def wrongDownload : ContinuationOperation := ⟨"authority", 1, "wrong", 1, sampleCandidate⟩

def offeredCheck : CheckOperation :=
  ⟨"authority", 1, "other", 1, .alpha, .fromSnapshot (sampleOuter .available)⟩

/-- The download of an operation that is not the published one has been refused, and its caller has
not gone on yet. -/
def refusing : Service id :=
  let s := offering.reserveDownload "wrong" sampleCandidate
  (s.advanceContinuation (s.continuationRunner.admitInput (M := continuation id)
    (.downloadRequested wrongDownload (sampleOuter .available) 0))).answer []
      (continuationReduce id s.continuationRunner.state
        (.downloadRequested wrongDownload (sampleOuter .available) 0))

/-- The next caller has reserved its download when the first one clears the flag, so that a check is
reserved as well. -/
def doublyReserved : Service id :=
  Service.reserveCheck
    { (refusing.reserveDownload "operation" sampleCandidate).setPending false with refused := 0 }
    "other" .alpha

def downloadAdmitted : Service id :=
  (doublyReserved.advanceContinuation
    (doublyReserved.continuationRunner.admitInput (M := continuation id)
      (.downloadRequested (offeredDownload 2) (sampleOuter .available) 0))).answer
        [.check offeredCheck (sampleOuter .available)]
        (continuationReduce id doublyReserved.continuationRunner.state
          (.downloadRequested (offeredDownload 2) (sampleOuter .available) 0))

def bothAdmitted : Service id :=
  (downloadAdmitted.advanceCheck (downloadAdmitted.checkRunner.admitInput (M := check)
    (checkInput offeredCheck (sampleOuter .available)))).answer []
      (checkReduce downloadAdmitted.checkRunner.state
        (checkInput offeredCheck (sampleOuter .available)))

theorem run_doublyReserved : Run (fun _ => True) offering doublyReserved := by
  have waits : (offering.reserveDownload "wrong" sampleCandidate).waiting = [] ++
      .download wrongDownload (sampleOuter .available) 0 :: [] := rfl
  have refuses : Run (fun _ => True) offering refusing :=
    .tail (.single (.reserveDownload "wrong" rfl rfl)) (.decideDownload waits rfl)
  refine .tail (.tail (.tail refuses (.reserveDownload "operation" ?_ ?_)) (.resume ?_ trivial))
    (.reserveCheck "other" .alpha rfl)
  · decide +kernel
  · decide +kernel
  · rfl

theorem run_bothAdmitted : Run (fun _ => True) doublyReserved bothAdmitted := by
  have waits : doublyReserved.waiting = [] ++
      .download (offeredDownload 2) (sampleOuter .available) 0 ::
        [.check offeredCheck (sampleOuter .available)] := by decide +kernel
  have left : downloadAdmitted.waiting = [] ++
      .check offeredCheck (sampleOuter .available) :: [] := rfl
  have downloads : Step (fun _ => True) doublyReserved downloadAdmitted :=
    .decideDownload waits rfl
  exact .tail (.single downloads) (.decideCheck left rfl)

/-- A caller that was refused clears the flag after the next one has set it. Two admissions are then
undecided at once, and a check and a download are in flight together. -/
theorem check_and_download_overlap : Service.Run (fun _ => True) offering doublyReserved ∧
    (doublyReserved.state.operationAdmissionPending = true ∧ doublyReserved.waiting.length = 2) ∧
    Service.Run (fun _ => True) doublyReserved bothAdmitted ∧
    bothAdmitted.checkRunner.inFlight =
      [CheckEffect.discover (offeredCheck.correlation discoverEffectId) .alpha] ∧
    bothAdmitted.continuationRunner.inFlight =
      [ContinuationEffect.download ((offeredDownload 2).correlation downloadEffectId 0)
        sampleCandidate] :=
  ⟨run_doublyReserved, ⟨rfl, rfl⟩, run_bothAdmitted, by rfl, by rfl⟩

end

end Mish.Updater
