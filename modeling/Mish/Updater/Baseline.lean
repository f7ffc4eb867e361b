import Mish.Updater.Exclusion

/-!
# What a check that finds nothing new publishes again

A check remembers what was published when it was requested, and publishes it again when it ends
`Unchanged`. After a failed or cancelled check the next one takes over what that one remembered.
-/

namespace Mish.Updater
open StateMachine Service CheckProjection CheckState

variable {digest : String → String}

/-! ## One check -/

/-- How a check ends that has found nothing. -/
inductive CheckEnding where
  | failed | cancelled | noUpdate | unchanged
  deriving DecidableEq

def CheckState.ending : CheckState → Option CheckEnding
  | .failed .. => some .failed
  | .cancelled _ => some .cancelled
  | .noUpdate .. => some .noUpdate
  | .unchanged _ => some .unchanged
  | _ => none

namespace Service

/-- The operation `CheckRuntime::start` requests. -/
def checkOperation (s : Service digest) (operationId : String) (channel : UpdateChannel) :
    CheckOperation where
  machineAuthority := s.state.snapshot.authorityId
  scopeEpoch := s.checkEpoch
  operationId := operationId
  admittedRevision := saturatingSucc s.state.snapshot.revision
  channel := channel
  baseline := .fromSnapshot s.state.snapshot

/-- A check is reserved and its admission decided. -/
def beginCheck (s : Service digest) (operationId : String) (channel : UpdateChannel) :
    Service digest :=
  let input := Admission.checkInput (s.checkOperation operationId channel) s.state.snapshot
  ((s.reserveCheck operationId channel).advanceCheck
    (s.checkRunner.admitInput input)).answer s.waiting (checkReduce s.checkRunner.state input)

/-- What the next check remembers. -/
def baseline (s : Service digest) : CheckProjection :=
  (inheriting s.checkRunner.state (s.checkOperation "" .alpha)).baseline

/-- The check actor takes a turn while a check is at work. -/
def CheckTurn (s t : Service digest) : Prop :=
  s.checkRunner.state.isBusy = true ∧ ∃ r,
    StateMachine.Step checkExecutes checkAdmits s.checkRunner r ∧ t = s.advanceCheck r

/-- A check begins in `s` and ends in `t`. -/
inductive Round (s : Service digest) : CheckEnding → Service digest → Prop where
  | intro {operationId channel ending t} : s.state.operationAdmissionPending = false →
      s.checkRunner.phase = .running → s.checkRunner.state.isBusy = false →
      isBusy (s.beginCheck operationId channel).checkRunner.state = true →
      Relation.ReflTransGen CheckTurn (s.beginCheck operationId channel) t →
      CheckState.ending t.checkRunner.state = some ending → Round s ending t

/-- One check after another. -/
inductive Rounds : Service digest → List CheckEnding → Service digest → Prop where
  | nil {s} : Rounds s [] s
  | cons {s t u ending endings} :
      Round s ending t → Rounds t endings u → Rounds s (ending :: endings) u

end Service

theorem inheriting_baseline {s o p}
    (same : o.baseline = p.baseline) : (inheriting s o).baseline = (inheriting s p).baseline := by
  unfold inheriting
  split
  · split
    · rfl
    · exact same
  · split
    · rfl
    · exact same
  · exact same

variable {s t : CheckState}
  {input : CheckInput}
  {effects : List CheckEffect}

/-- While a check is at work it stays the same one. -/
theorem Proceeds.operation (proceeds : Proceeds s input t effects)
    (busy : s.isBusy = true) : t.operation = s.operation := by
  cases proceeds with
  | requested _ idle => cases idle.symm.trans busy
  | cancels | found | unchanged | noUpdate | failed => rfl
  | @cancelled operation shutdownRequested => cases shutdownRequested <;> rfl
  | @committed operation candidate shutdownRequested
  | @commitFailed operation candidate shutdownRequested => cases shutdownRequested <;> rfl
  | shutsDown =>
    cases s with
    | checking | committingAvailable => rfl
    | _ => cases busy

/-- Only a completion ends a check. -/
theorem Proceeds.ends (proceeds : Proceeds s input t effects) (busy : s.isBusy = true)
    (rests : t.isBusy = false) : ∃ completion, input = .effectCompleted completion := by
  cases proceeds with
  | requested | cancels | found => cases rests
  | cancelled | unchanged | noUpdate | failed | committed | commitFailed => exact ⟨_, rfl⟩
  | shutsDown =>
    cases s with
    | checking | committingAvailable => cases rests
    | _ => cases busy

variable {operation : CheckOperation} {a : CheckState}
  {transition : Transition CheckState CheckEffect UpdateOperationError}

theorem CheckStep.begins {outer}
    (does : CheckStep a (Admission.checkInput operation outer) transition)
    (idle : a.isBusy = false) (busy : (transition.next a).isBusy = true) :
    transition.next a = .checking (inheriting a operation) false false := by
  cases does with
  | @proceeds b effects proceeds =>
    cases proceeds
    rfl
  | rejected | unchanged | retired => cases idle.symm.trans busy

/-- A step while a check is at work, as the observer sees it. -/
theorem CheckStep.observed
    (does : CheckStep a input transition) (busy : a.isBusy = true) (state : RuntimeState) :
    (transition.next a).operation = a.operation ∧
    ((transition.next a).isBusy = false → ∀ projection,
    (transition.next a).projection digest = some projection →
    fromSnapshot (state.observeCheck digest input (transition.next a)
    transition.disposition).snapshot = projection) := by
  cases does with
  | @proceeds b effects proceeds =>
    rw [(checkTransition_of_applied a b effects).1]
    refine ⟨proceeds.operation busy, fun rests projection projects => ?_⟩
    obtain ⟨completion, rfl⟩ := proceeds.ends busy rests
    unfold RuntimeState.observeCheck
    dsimp only
    rw [if_pos (checkDisposition_of_applied b effects)]
    exact RuntimeState.fromSnapshot_projectCheckState projects state
  | rejected | unchanged | retired => exact ⟨rfl, fun rests => absurd (rests.symm.trans busy) nofun⟩

theorem unchanged_projection
    (ends : a.ending = some .unchanged) (holds : a.operation = some operation) :
    a.isBusy = false ∧ a.projection digest = some operation.baseline := by
  cases a <;> cases ends
  cases holds
  exact ⟨rfl, rfl⟩

variable {ending : CheckEnding}

theorem other_projection (ends : a.ending = some ending) (other : ending ≠ .unchanged) : a.isBusy =
    false ∧ ∃ projection, a.projection digest = some projection ∧ projection.candidate = none := by
  cases a with
  | noUpdate | failed | cancelled => exact ⟨rfl, _, rfl, rfl⟩
  | unchanged =>
    cases ends
    exact absurd rfl other
  | _ => cases ends

theorem inheriting_over
    (ends : a.ending = some ending) (ended : ending = .failed ∨ ending = .cancelled)
    (holds : a.operation = some operation) (next : CheckOperation) : (inheriting a next).baseline =
    if operation.baseline.candidate.isSome then operation.baseline else next.baseline := by
  cases a with
  | failed | cancelled =>
    cases holds
    unfold inheriting
    dsimp only
    split <;> rfl
  | noUpdate | unchanged =>
    cases ends
    rcases ended with ended | ended <;> cases ended
  | _ => cases ends

theorem inheriting_other (ends : a.ending = some ending)
    (other : ¬(ending = .failed ∨ ending = .cancelled)) (next : CheckOperation) :
    inheriting a next = next := by
  cases a with
  | failed | cancelled =>
    cases ends
    simp at other
  | _ => rfl

section
variable {s t : Service digest} {b : CheckProjection}

/-- A check that remembers `b` is at work, or has ended and is published. -/
structure Carries (b : CheckProjection) (s : Service digest) : Prop where
  kept : Conserved [] s.checkRunner
  carries : ∃ operation, CheckState.operation s.checkRunner.state = some operation ∧
    operation.baseline = b
  published : s.checkRunner.state.isBusy = false → ∀ projection,
    CheckState.projection digest s.checkRunner.state = some projection →
    fromSnapshot s.state.snapshot = projection

theorem Carries.turn (h : Carries b s) (turn : s.CheckTurn t) : Carries b t := by
  obtain ⟨busy, r, step, rfl⟩ := turn
  have kept := h.kept.step step
  rcases advanceCheck_step h.kept step with ⟨same, is⟩ | ⟨input, _, state, is⟩
  · rw [is]
    exact ⟨kept, same ▸ h.carries, fun rests => absurd (same ▸ busy) (by simp [rests])⟩
  · rw [is]
    obtain ⟨operation, published⟩ :=
      CheckStep.observed (checkStep s.checkRunner.state input) busy s.state
    obtain ⟨held, holds, remembers⟩ := h.carries
    exact {
      kept
      carries := ⟨held, ((congrArg CheckState.operation state).trans operation).trans holds,
        remembers⟩
      published := fun rests projection projects => published
        ((congrArg isBusy state).symm.trans rests) projection
        ((congrArg (CheckState.projection digest) state).symm.trans projects) }

theorem Carries.turns (h : Carries b s) (turns : Relation.ReflTransGen CheckTurn s t) :
    Carries b t := by
  induction turns with
  | refl => exact h
  | tail _ turn ih => exact ih.turn turn

/-- The check that has begun remembers the baseline. -/
theorem carries_beginCheck (kept : Conserved [] s.checkRunner) {operationId channel}
    (running : s.checkRunner.phase = .running) (idle : s.checkRunner.state.isBusy = false)
    (busy : isBusy (s.beginCheck operationId channel).checkRunner.state = true) :
    Carries s.baseline (s.beginCheck operationId channel) := by
  have called : s.checkRunner.Called (s.beginCheck operationId channel).checkRunner .admission
      (Admission.checkInput (s.checkOperation operationId channel) s.state.snapshot)
      (checkReduce s.checkRunner.state
        (Admission.checkInput (s.checkOperation operationId channel) s.state.snapshot)) :=
    admitInput_called rfl
  have step : StateMachine.Step checkExecutes (fun _ _ => True) s.checkRunner
      (s.beginCheck operationId channel).checkRunner := .admitInput _ running trivial
  have begins := (checkStep s.checkRunner.state _).begins idle
    ((congrArg isBusy called.state).symm.trans busy)
  have state : (s.beginCheck operationId channel).checkRunner.state = _ :=
    called.state.trans begins
  exact {
    kept := kept.step step
    carries := ⟨_, congrArg CheckState.operation state, inheriting_baseline rfl⟩
    published := fun rests => absurd (rests.symm.trans busy) nofun }

variable {clears : Service digest → Prop}

theorem run_beginCheck [Versions] (free : s.state.operationAdmissionPending = false)
    (running : s.checkRunner.phase = .running) (operationId : String) (channel : UpdateChannel) :
    Run clears s (s.beginCheck operationId channel) := by
  have waits : (s.reserveCheck operationId channel).waiting =
      s.waiting ++ .check (s.checkOperation operationId channel) s.state.snapshot :: [] := rfl
  have decides : Step clears (s.reserveCheck operationId channel) _ :=
    .decideCheck waits running
  rw [List.append_nil] at decides
  exact .tail (.single (.reserveCheck operationId channel free)) decides

variable {endings : List CheckEnding}

theorem Service.Rounds.run [Versions] (rounds : s.Rounds endings t) : Run clears s t := by
  induction rounds with
  | nil => exact .refl
  | cons round _ ih =>
    cases round with
    | @intro operationId channel _ _ free running _ _ turns =>
      have works : Run clears _ _ := Relation.ReflTransGen.mono (fun a b turn => by
        obtain ⟨_, r, step, rfl⟩ := turn
        exact .checkTurn step) _ _ turns
      exact ((run_beginCheck free running operationId channel).trans works).trans ih

/-! ## What a check makes of the baseline -/

theorem Service.Round.carries (round : s.Round ending t)
    (kept : Conserved [] s.checkRunner) : Carries s.baseline t := by
  cases round with
  | intro _ running idle busy turns _ =>
    exact (carries_beginCheck kept running idle busy).turns turns

theorem Service.Round.ends (round : s.Round ending t) :
    CheckState.ending t.checkRunner.state = some ending := by
  cases round
  assumption

/-- A check that ends `Unchanged` publishes what it remembers. -/
theorem Service.Round.unchanged (round : s.Round .unchanged t) (kept : Conserved [] s.checkRunner) :
    fromSnapshot t.state.snapshot = s.baseline := by
  have carried := round.carries kept
  obtain ⟨operation, holds, remembers⟩ := carried.carries
  have ⟨rests, projects⟩ : _ ∧ CheckState.projection digest t.checkRunner.state = _ :=
    unchanged_projection round.ends holds
  exact (carried.published rests _ projects).trans remembers

/-- Any other check publishes no candidate. -/
theorem Service.Round.publishes_none (round : s.Round ending t) (other : ending ≠ .unchanged)
    (kept : Conserved [] s.checkRunner) : t.state.snapshot.candidate = none := by
  have ⟨rests, projection, projects, lacks⟩ : _ ∧ ∃ projection,
      CheckState.projection digest t.checkRunner.state = some projection ∧ _ :=
    other_projection round.ends other
  exact (congrArg candidate ((round.carries kept).published rests projection projects)).trans lacks

/-- What a failed or cancelled check remembered is taken over, if it has a candidate. -/
theorem Service.Round.keeps (round : s.Round ending t)
    (ended : ending = .failed ∨ ending = .cancelled) (kept : Conserved [] s.checkRunner)
    (some : s.baseline.candidate.isSome = true) : t.baseline = s.baseline := by
  obtain ⟨operation, holds, remembers⟩ := (round.carries kept).carries
  have takes := inheriting_over round.ends ended holds (t.checkOperation "" .alpha)
  rw [remembers, if_pos some] at takes
  exact takes

/-- What was lost stays lost, and `NoUpdate` loses it. -/
theorem Service.Round.loses (round : s.Round ending t)
    (other : ending ≠ .unchanged) (kept : Conserved [] s.checkRunner)
    (lost : ending = .noUpdate ∨ s.baseline.candidate = none) : t.baseline.candidate = none := by
  have published := round.publishes_none other kept
  obtain ⟨operation, holds, remembers⟩ := (round.carries kept).carries
  by_cases ended : ending = .failed ∨ ending = .cancelled
  · have takes := inheriting_over round.ends ended holds (t.checkOperation "" .alpha)
    have none : s.baseline.candidate = none := by
      rcases lost with rfl | none
      · rcases ended with ended | ended <;> cases ended
      · exact none
    rw [remembers, none, if_neg (by simp)] at takes
    exact (congrArg candidate takes).trans published
  · have takes := inheriting_other round.ends ended (t.checkOperation "" .alpha)
    exact (congrArg (·.baseline.candidate) takes).trans published

/-- What a sequence of checks before the first `Unchanged` makes of the baseline. -/
theorem Service.Rounds.baseline (rounds : s.Rounds endings t) (kept : Conserved [] s.checkRunner)
    (first : .unchanged ∉ endings) : Conserved [] t.checkRunner ∧ (.noUpdate ∈ endings ∨
    s.baseline.candidate = none → t.baseline.candidate = none) ∧ (.noUpdate ∉ endings →
    s.baseline.candidate.isSome = true → t.baseline = s.baseline) := by
  induction rounds with
  | nil => exact ⟨kept, fun lost => lost.resolve_left List.not_mem_nil, fun _ _ => rfl⟩
  | @cons s t u ending endings round _ ih =>
    obtain ⟨other, rest⟩ := not_or.1 (mt List.mem_cons.2 first)
    obtain ⟨kept', lost, keeps⟩ := ih (round.carries kept).kept rest
    refine ⟨kept', fun before => lost ?_, fun none some => ?_⟩
    · rcases before with listed | none
      · rcases List.mem_cons.1 listed with now | later
        · exact .inr (round.loses (Ne.symm other) kept (.inl now.symm))
        · exact .inl later
      · exact .inr (round.loses (Ne.symm other) kept (.inr none))
    · obtain ⟨now, later⟩ := not_or.1 (mt List.mem_cons.2 none)
      have ended : ending = .failed ∨ ending = .cancelled := by
        cases ending with
        | failed => exact .inl rfl
        | cancelled => exact .inr rfl
        | noUpdate => exact absurd rfl now
        | unchanged => exact absurd rfl other
      have same := round.keeps ended kept some
      exact (keeps later (same ▸ some)).trans same

end

/-! ## A check that has been cancelled -/

/-- The candidate a check has found or is about to record. -/
def CheckState.available : CheckState → Option AvailableCandidate
  | .stable (some (_, candidate)) | .committingAvailable _ candidate _
  | .retired _ (.available candidate) => some candidate
  | _ => none

/-- A step that starts no other check. -/
def Onward (s t : CheckState) : Prop :=
  ∃ input, t = (checkReduce s input).next s ∧ (input.isRequest = true → t = s)

/-- The check has been cancelled, or is about to be. -/
inductive Withdrawn (operation : CheckOperation) : CheckState → Prop where
  | checking (shutdownRequested : Bool) :
      Withdrawn operation (.checking operation true shutdownRequested)
  | cancelled : Withdrawn operation (.cancelled operation)
  | retired : Withdrawn operation (.retired (some operation) .cancelled)

variable {operationId : String}

theorem withdrawn_of_accepted {s}
    (accepted : shouldProject (checkReduce s (.cancelRequested operationId)).disposition = true) :
    ∃ operation, s.operation = some operation ∧
    Withdrawn operation ((checkReduce s (.cancelRequested operationId)).next s) := by
  have does := checkStep s (.cancelRequested operationId)
  generalize checkReduce s (.cancelRequested operationId) = transition at does accepted
  cases does with
  | @proceeds t effects proceeds =>
    cases proceeds
    exact ⟨_, rfl, .checking _⟩
  | _ => cases accepted

theorem Withdrawn.onward
    (h : Withdrawn operation s) (step : Onward s t) : Withdrawn operation t := by
  obtain ⟨input, rfl, other⟩ := step
  have does := checkStep s input
  generalize checkReduce s input = transition at does other ⊢
  cases does with
  | @proceeds t effects proceeds =>
    cases proceeds with
    | requested =>
      rw [other rfl]
      exact h
    | @cancelled operation shutdownRequested =>
      cases h
      cases shutdownRequested
      · exact .cancelled
      · exact .retired
    | shutsDown =>
      cases h with
      | checking => exact .checking true
      | cancelled => exact .retired
      | retired => exact .retired
    | _ => cases h
  | rejected | unchanged | retired => exact h

theorem Withdrawn.outcome {s}
    (h : Withdrawn operation s) : s.operation = some operation ∧ s.available = none := by
  cases h <;> exact ⟨rfl, rfl⟩

theorem Withdrawn.reaches (h : Withdrawn operation s) (steps : Relation.ReflTransGen Onward s t) :
    Withdrawn operation t := by
  induction steps with
  | refl => exact h
  | tail _ step ih => exact ih.onward step

/-! ## The first check that ends `Unchanged` -/

/-- The published fields that are compared. -/
def CheckProjection.Republishes (p q : CheckProjection) : Prop :=
  p.phase = q.phase ∧ p.operationId = q.operationId ∧ p.candidate = q.candidate ∧
    p.progress = q.progress ∧ p.resumable = q.resumable

theorem inheriting_isSome (a : CheckState) {next} (offers : next.baseline.candidate.isSome = true) :
    (inheriting a next).baseline.candidate.isSome = true := by
  unfold inheriting
  split
  · split
    · assumption
    · exact offers
  · split
    · assumption
    · exact offers
  · exact offers

/-- A check that failed or was cancelled has left a candidate behind, and it is not the published
one. -/
def CheckState.HoldsOther (state : CheckState) (published : CheckProjection) : Prop :=
  match state with
  | .failed last _ | .cancelled last =>
    last.baseline.candidate.isSome = true ∧ ¬last.baseline.Republishes published
  | _ => False

theorem inheriting_republishes {s : CheckState} {o : CheckOperation} :
    (inheriting s o).baseline.Republishes o.baseline ↔ ¬s.HoldsOther o.baseline := by
  have same : o.baseline.Republishes o.baseline := ⟨rfl, rfl, rfl, rfl, rfl⟩
  unfold inheriting CheckState.HoldsOther
  cases s with
  | failed last | cancelled last =>
    by_cases left : last.baseline.candidate.isSome = true
    · simp [left]
    · simp [left, same]
  | _ => simp [same]

theorem Service.Rounds.last {s t : Service digest} {endings}
    (rounds : s.Rounds (endings ++ [ending]) t) : ∃ u, s.Rounds endings u ∧ u.Round ending t := by
  induction endings generalizing s with
  | nil =>
    cases rounds with
    | cons round rest =>
      cases rest
      exact ⟨s, .nil, round⟩
  | cons _ _ ih =>
    cases rounds with
    | cons round rest =>
      obtain ⟨u, before, final⟩ := ih rest
      exact ⟨u, .cons round before, final⟩

/-- In a sequence of checks that starts from a published candidate, the first one that ends
`Unchanged` publishes that snapshot again exactly when no check before it ended `NoUpdate` and the
machine is not left with another candidate by a check that failed or was cancelled. And a check
whose cancellation was accepted finds nothing. -/
theorem unchanged_republishes_iff [Versions] {clears : Service digest → Prop}
    {initial : ContinuationState} {state : RuntimeState} {s t : Service digest}
    {earlier : List CheckEnding}
    (reached : Service.Run clears (.start initial state) s)
    (offers : s.state.snapshot.candidate.isSome = true) (first : .unchanged ∉ earlier)
    (rounds : s.Rounds (earlier ++ [.unchanged]) t) :
    ((CheckProjection.fromSnapshot t.state.snapshot).Republishes (.fromSnapshot s.state.snapshot) ↔
      .noUpdate ∉ earlier ∧
        ¬CheckState.HoldsOther s.checkRunner.state (.fromSnapshot s.state.snapshot)) ∧
    ∀ (checking ended : CheckState) (operationId : String),
      shouldProject (checkReduce checking (.cancelRequested operationId)).disposition = true →
      Relation.ReflTransGen Onward
        ((checkReduce checking (.cancelRequested operationId)).next checking) ended →
      ended.operation = checking.operation ∧ ended.available = none := by
  refine ⟨?_, fun checking ended operationId accepted steps => ?_⟩
  · have kept : Conserved [] s.checkRunner :=
      (conserved_start CheckState.idle).run reached.actors.1
    obtain ⟨u, before, last⟩ := rounds.last
    obtain ⟨kept', lost, keeps⟩ := before.baseline kept first
    rw [last.unchanged kept']
    have some : s.baseline.candidate.isSome = true :=
      inheriting_isSome s.checkRunner.state offers
    by_cases lapsed : .noUpdate ∈ earlier
    · refine ⟨fun same => ?_, fun both => absurd lapsed both.1⟩
      have none : s.state.snapshot.candidate = none := same.2.2.1.symm.trans (lost (.inl lapsed))
      rw [none] at offers
      cases offers
    · rw [keeps lapsed some]
      have iff : s.baseline.Republishes (.fromSnapshot s.state.snapshot) ↔
          ¬CheckState.HoldsOther s.checkRunner.state (.fromSnapshot s.state.snapshot) :=
        inheriting_republishes
      exact ⟨fun same => ⟨lapsed, iff.1 same⟩, fun both => iff.2 both.2⟩
  · obtain ⟨operation, holds, withdrawn⟩ := withdrawn_of_accepted accepted
    obtain ⟨same, nothing⟩ := (withdrawn.reaches steps).outcome
    exact ⟨same.trans holds.symm, nothing⟩

/-- A check whose discovery, the task `task`, returns `result`. -/
def Service.discovers (s : Service digest) (operationId : String) (task : Nat)
    (result : Except UpdateOperationError DiscoveryOutcome) : Service digest :=
  let begun := s.beginCheck operationId .alpha
  begun.advanceCheck (begun.checkRunner.join (M := check) task (.completed (.effectCompleted
    ⟨(s.checkOperation operationId .alpha).correlation discoverEffectId, .discovery result⟩)))

theorem Service.round_discovers {s : Service digest} {task result}
    (free : s.state.operationAdmissionPending = false) (running : s.checkRunner.phase = .running)
    (idle : s.checkRunner.state.isBusy = false)
    (busy : isBusy (s.beginCheck operationId .alpha).checkRunner.state = true)
    (runs : (s.beginCheck operationId .alpha).checkRunner.phase = .running)
    (owns : (s.beginCheck operationId .alpha).checkRunner.owned ≠ [])
    (tasks : (s.beginCheck operationId .alpha).checkRunner.tasks = [⟨task,
    .discover ((s.checkOperation operationId .alpha).correlation discoverEffectId) .alpha,
    false⟩]) (ends : CheckState.ending (s.discovers operationId task result).checkRunner.state =
    some ending) : s.Round ending (s.discovers operationId task result) := by
  have listed : _ ∈ (s.beginCheck operationId .alpha).checkRunner.tasks :=
    tasks ▸ List.mem_singleton_self _
  let completion : CheckInput := .effectCompleted
    ⟨(s.checkOperation operationId .alpha).correlation discoverEffectId, .discovery result⟩
  have joins : StateMachine.Step checkExecutes checkAdmits
      (s.beginCheck operationId .alpha).checkRunner
      ((s.beginCheck operationId .alpha).checkRunner.join task (.completed completion)) :=
    .join _ _ runs owns listed ⟨result, rfl⟩
  exact .intro free running idle busy (.single ⟨busy, _, joins, rfl⟩) ends

section
open ByLength

/-- Two checks, the first of which fails. -/
def retried : Service id :=
  (offering.discovers "first" 0 (.error .network)).discovers "second" 1 (.ok .unchanged)

theorem rounds_retried : offering.Rounds ([.failed] ++ [.unchanged]) retried := by
  have fails : offering.Round .failed (offering.discovers "first" 0 (.error .network)) :=
    round_discovers rfl rfl rfl rfl rfl nofun rfl rfl
  have finds : Round (offering.discovers "first" 0 (.error .network)) .unchanged retried :=
    round_discovers rfl rfl rfl rfl rfl nofun rfl rfl
  exact .cons fails (.cons finds .nil)

theorem unchanged_republishes_iff_retried :
    ((CheckProjection.fromSnapshot retried.state.snapshot).Republishes
        (.fromSnapshot offering.state.snapshot) ↔
      .noUpdate ∉ [CheckEnding.failed] ∧ ¬CheckState.HoldsOther offering.checkRunner.state
        (.fromSnapshot offering.state.snapshot)) ∧
    ∀ (checking ended : CheckState) (operationId : String),
      shouldProject (checkReduce checking (.cancelRequested operationId)).disposition = true →
      Relation.ReflTransGen Onward
        ((checkReduce checking (.cancelRequested operationId)).next checking) ended →
      ended.operation = checking.operation ∧ ended.available = none :=
  unchanged_republishes_iff
    (show Run (fun _ => True) (.start .stable offered) offering from .refl) rfl (by decide)
    rounds_retried

/-! ## A candidate that is lost -/

/-- The candidate on offer is withdrawn, and a check finds the installed version. -/
def withdrawn : Service id :=
  offering.discovers "first" 0 (.error (.verification .equalVersionRejected))

/-- It is released again, and the next check finds it. -/
def rediscovered : Service id := withdrawn.discovers "second" 1 (.ok .unchanged)

theorem rounds_rediscovered : offering.Rounds [.noUpdate, .unchanged] rediscovered := by
  have lapses : offering.Round .noUpdate withdrawn :=
    round_discovers rfl rfl rfl rfl rfl nofun rfl rfl
  have finds : withdrawn.Round .unchanged rediscovered :=
    round_discovers rfl rfl rfl rfl rfl nofun rfl rfl
  exact .cons lapses (.cons finds .nil)

/-- A check that ends `NoUpdate` publishes a failure without a candidate, and that is what the next
one remembers. -/
theorem candidate_lost : Service.Run (fun _ => True) (.start .stable offered) offering ∧
    offering.state.snapshot.candidate = some (sampleCandidate.identity id) ∧
    offering.Rounds ([.noUpdate] ++ [.unchanged]) rediscovered ∧
    Service.Run (fun _ => True) offering rediscovered ∧
    rediscovered.state.snapshot.phase = .failed ∧
    rediscovered.state.snapshot.candidate = none :=
  ⟨.refl, rfl, rounds_rediscovered, rounds_rediscovered.run, rfl, rfl⟩

end

end Mish.Updater
