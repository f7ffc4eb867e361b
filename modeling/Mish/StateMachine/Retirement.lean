import Mish.StateMachine.Settlement

/-!
# What a shutdown reports

The drain keeps the disposition of the effect it settled last, and the reply to
`shutdown` is read off that one. A failure survives exactly when it is settled
last (`failed_cleanup_reported_iff`).
-/

namespace Mish.StateMachine
open Runner

inductive RetirementTerminal (Error : Type) where
  | applied
  | alreadyRetired
  | shutdownRejected (error : Error)
  | cleanupFailed (disposition : Disposition)
  | forced (reason : ForcedRetirementReason)
  | actorFailed (failure : ActorFailure)

structure Retirement (S Error : Type) where
  state : S
  disposition : Disposition
  terminal : RetirementTerminal Error

/-- The disposition of an admission; a refused one counts as rejected. -/
def admitted {Error : Type} : Except Error Disposition → Disposition
  | .ok disposition => disposition
  | .error _ => .rejected

def ShutdownReply.terminal {Error : Type} (reply : ShutdownReply Error) :
    RetirementTerminal Error :=
  match reply.drain.terminal, reply.result with
  | .forced reason, _ => .forced reason
  | .completed, .error error => .shutdownRejected error
  | .completed, .ok disposition =>
    let last := reply.drain.lastDisposition.getD disposition
    if last.isFailure then .cleanupFailed last else .applied

section
variable {M : Machine}

/-- What `RunnerHandle::shutdown` returns once the actor has ended. `closed`: a
shutdown was requested before. -/
def Runner.retirement (r : Runner M) (closed : Bool) : Option (Retirement M.State M.Error) :=
  if closed then some ⟨r.state, .unchanged, .alreadyRetired⟩
  else
    match r.phase with
    | .returned reply => some ⟨r.state, admitted reply.result, reply.terminal⟩
    | .failed failure => some ⟨r.state, .retired, .actorFailed failure⟩
    | _ => none

/-- The call belongs to the shutdown: its own transition, or a settlement during
the drain. -/
def Reduction.inCleanup (red : Reduction M) : Bool :=
  match red.cause, red.phase with
  | .shutdown, _ | .settlement _ _, .draining _ _ | .settlement _ _, .finalizing _ _ => true
  | _, _ => false

/-- The dispositions of a shutdown and of the settlements of its drain, newest
first. -/
def Runner.cleanup (r : Runner M) : List Disposition :=
  r.reductions.filterMap fun red =>
    if red.inCleanup then red.transition.map (·.disposition) else none

/-! ## What a reducer call adds -/

theorem applyInputWithRole_reductions (r : Runner M) (cause : Cause M.Input) (input : M.Input)
    (role : EffectRole) : (r.applyInputWithRole cause input role).1.reductions =
    r.reduction cause input :: r.reductions := by
  unfold applyInputWithRole
  cases reduces : M.reduce r.state input with
  | none => simp [reduction, reduces]
  | some transition => simp [reduction, reduces, performAll_same]

theorem applyInputWithRole_result (r : Runner M) (cause : Cause M.Input) (input : M.Input)
    (role : EffectRole) : (r.applyInputWithRole cause input role).2 =
    (M.reduce r.state input).map (·.admission) := by
  unfold applyInputWithRole
  cases reduces : M.reduce r.state input <;> simp

variable {r : Runner M} {cause : Cause M.Input} {input : M.Input} {disposition : Disposition}
  {shutdown : Except M.Error Disposition} {outcome : DrainOutcome}
  {admits : Runner M → M.Input → Prop} {executes : Executor M}

theorem applyInputWithRole_cleanup {role result}
    (belongs : (r.reduction cause input).inCleanup = true)
    (returns : (r.applyInputWithRole cause input role).2 = some result) :
    (r.applyInputWithRole cause input role).1.cleanup = admitted result :: r.cleanup := by
  rw [applyInputWithRole_result] at returns
  obtain ⟨transition, reduces, rfl⟩ := Option.map_eq_some_iff.mp returns
  have adds : (r.reduction cause input).transition.map (·.disposition) =
      some transition.disposition := by
    simp [reduction, reduces]
  unfold cleanup
  rw [applyInputWithRole_reductions, List.filterMap_cons_some (b := transition.disposition)]
  · cases transition <;> rfl
  · rw [if_pos belongs, adds]

/-! ## What the drain records -/

/-- The reply names the shutdown's disposition, and of the settlements after it
the newest. -/
def Recorded (r : Runner M) (shutdown : Except M.Error Disposition) (outcome : DrainOutcome) :
    Prop :=
  ∃ settled, r.cleanup = settled ++ [admitted shutdown] ∧ outcome.lastDisposition = settled.head?

def Accounted (r : Runner M) : Prop :=
  match r.phase with
  | .running => r.cleanup = []
  | .draining shutdown outcome | .finalizing shutdown outcome => Recorded r shutdown outcome
  | .returned reply => Recorded r reply.result reply.drain
  | .failed _ => True

theorem finishEffect_cleanup (h : Conserved [] r) {task} (member : task ∈ r.tasks) {joined force}
    (draining : ∀ owned input, (r.reduction (.settlement owned joined) input).inCleanup = true)
    (returns : (r.finishEffect task.id joined force).2 = some disposition) :
    (r.finishEffect task.id joined force).1.cleanup = disposition :: r.cleanup := by
  obtain ⟨o, found⟩ := h.find_owned member
  simp only [finishEffect, found, settle] at returns ⊢
  obtain ⟨result, applied, rfl⟩ := Option.map_eq_some_iff.mp returns
  have adds := applyInputWithRole_cleanup (r := r.without task.id) (draining o _) applied
  cases result <;> exact adds

/-- Outside a shutdown a reducer call leaves the record alone. -/
theorem applyInputWithRole_cleanup_other
    (role : EffectRole) (outside : (r.reduction cause input).inCleanup = false) :
    (r.applyInputWithRole cause input role).1.cleanup = r.cleanup := by
  unfold cleanup
  rw [applyInputWithRole_reductions, List.filterMap_cons_none]
  rw [outside]
  rfl

theorem finishEffect_cleanup_other (running : r.phase = .running) (task : Nat)
    (joined : Joined M.Input) (force : Bool) :
    (r.finishEffect task joined force).1.cleanup = r.cleanup := by
  unfold finishEffect
  cases r.owned.find? (·.task = task) with
  | none => rfl
  | some o =>
    apply applyInputWithRole_cleanup_other
    simp [reduction, without, Reduction.inCleanup, running]

theorem accounted_continueWith {α : Type} {applied : Runner M × Option α} {next}
    (returns : ∀ result, applied.2 = some result →
    Accounted { applied.1 with phase := next result }) :
    Accounted (continueWith applied next) := by
  obtain ⟨r, result⟩ := applied
  cases result with
  | none => trivial
  | some result => exact returns result rfl

theorem Recorded.settles (h : Recorded r shutdown outcome) {t}
    (adds : t.cleanup = disposition :: r.cleanup) :
    Recorded t shutdown { outcome with lastDisposition := some disposition } := by
  obtain ⟨settled, same, _⟩ := h
  exact ⟨disposition :: settled, by rw [adds, same]; rfl, rfl⟩

theorem Accounted.running (h : Accounted r) (running : r.phase = .running) : r.cleanup = [] := by
  simpa only [Accounted, running] using h

theorem Accounted.draining (h : Accounted r) (draining : r.phase = .draining shutdown outcome) :
    Recorded r shutdown outcome := by
  simpa only [Accounted, draining] using h

theorem Accounted.finalizing (h : Accounted r)
    (finalizing : r.phase = .finalizing shutdown outcome) : Recorded r shutdown outcome := by
  simpa only [Accounted, finalizing] using h

theorem accounted_step {r t}
    (kept : Conserved [] r) (h : Accounted r) (step : Step executes admits r t) : Accounted t := by
  cases step with
  | admitInput input running _ =>
    apply accounted_continueWith
    intro result _
    exact (applyInputWithRole_cleanup_other .operation rfl).trans (h.running running)
  | join task joined running _ _ _ =>
    apply accounted_continueWith
    intro result _
    exact (finishEffect_cleanup_other running task.id joined false).trans (h.running running)
  | shutdown running =>
    apply accounted_continueWith
    intro result returns
    have adds := applyInputWithRole_cleanup rfl returns
    rw [h.running running] at adds
    exact ⟨[], adds, rfl⟩
  | drainJoin task joined draining member _ =>
    apply accounted_continueWith
    intro disposition returns
    apply (h.draining draining).settles (finishEffect_cleanup kept member _ returns)
    simp [reduction, Reduction.inCleanup, draining]
  | drained draining _ => exact h.draining draining
  | shutdownDeadline draining _ =>
    have before := h.draining draining
    exact before
  | finalizerJoin task joined finalizing member _ =>
    apply accounted_continueWith
    intro disposition returns
    apply (h.finalizing finalizing).settles (finishEffect_cleanup kept member _ returns)
    simp [reduction, Reduction.inCleanup, finalizing]
  | finalized finalizing _ => exact h.finalizing finalizing
  | finalizerDeadline finalizing _ =>
    have before := h.finalizing finalizing
    exact before
  | abort => trivial

theorem accounted_run {initial} (run : Run executes admits (.start initial) r) : Accounted r := by
  induction run with
  | refl => rfl
  | tail before step ih => exact accounted_step ((conserved_start initial).run before) ih step

/-! ## What the caller learns -/

/-- Some disposition of the cleanup is a failure. -/
def Runner.CleanupFails (r : Runner M) : Prop := ∃ d ∈ r.cleanup, d.isFailure = true

/-- The disposition recorded last is a failure. -/
def Runner.FailsLast (r : Runner M) : Prop := ∃ d, r.cleanup.head? = some d ∧ d.isFailure = true

/-- The actor was unwound, a deadline cut the drain short, or the machine
refused the shutdown. -/
def Runner.EndsAbnormally (r : Runner M) : Prop :=
  match r.phase with
  | .returned reply => reply.drain.terminal ≠ .completed ∨ ∃ error, reply.result = .error error
  | _ => True

theorem Recorded.head (h : Recorded r shutdown outcome) :
    r.cleanup.head? = some (outcome.lastDisposition.getD (admitted shutdown)) := by
  obtain ⟨settled, same, last⟩ := h
  rw [same, last]
  cases settled <;> rfl

/-- A drain that ends by itself reports success exactly when what it settled
last is no failure. -/
theorem terminal_applied_iff {reply : ShutdownReply M.Error}
    (h : Recorded r reply.result reply.drain) (normal : reply.drain.terminal = .completed)
    (accepted : ∀ error, reply.result ≠ .error error) :
    reply.terminal = .applied ↔ ¬r.FailsLast := by
  have head := h.head
  obtain ⟨result, terminal, last⟩ := reply
  cases result with
  | error error => exact absurd rfl (accepted error)
  | ok disposition =>
    simp only [FailsLast, head, ShutdownReply.terminal, Option.some.injEq, admitted,
      exists_eq_left']
    split <;> simp_all

/-- A failure during the cleanup keeps `shutdown` from reporting success exactly
when the cleanup ended abnormally or its last settlement failed too. -/
theorem failed_cleanup_reported_iff {executes : Executor M} {admits : Runner M → M.Input → Prop}
    {initial : M.State} {r : Runner M} {closed : Bool} {retirement : Retirement M.State M.Error}
    (run : Run executes admits (.start initial) r) (ended : r.retirement closed = some retirement) :
    (r.CleanupFails → retirement.terminal ≠ .applied) ↔
      (closed = true ∨ r.EndsAbnormally ∨ (r.CleanupFails → r.FailsLast)) := by
  have record := accounted_run run
  cases closed with
  | true =>
    obtain rfl : _ = retirement := by simpa [Runner.retirement] using ended
    simp
  | false =>
    simp only [Bool.false_eq_true, false_or]
    cases phase : r.phase with
    | running | draining | finalizing => simp [Runner.retirement, phase] at ended
    | failed failure =>
      obtain rfl : _ = retirement := by simpa [Runner.retirement, phase] using ended
      simp [EndsAbnormally, phase]
    | returned reply =>
      obtain rfl : _ = retirement := by simpa [Runner.retirement, phase] using ended
      have recorded : Recorded r reply.result reply.drain := by
        simpa only [Accounted, phase] using record
      by_cases abnormal : r.EndsAbnormally
      · have reported : reply.terminal ≠ .applied := by
          simp only [EndsAbnormally, phase] at abnormal
          obtain ⟨result, terminal, last⟩ := reply
          cases terminal <;> cases result <;> simp_all [ShutdownReply.terminal]
        simp [abnormal, reported]
      · have normal := abnormal
        simp only [EndsAbnormally, phase, not_or, not_exists, not_not] at normal
        have applied := terminal_applied_iff recorded normal.1 normal.2
        simp only [abnormal, false_or, ne_eq, applied, not_not]

/-- The cleanup fails and the job ends after it: the shutdown reports success. -/
theorem overtaken_cleanup_reported_applied :
    Run finishing (fun _ _ => True) (Runner.start (M := jobs) JobState.idle) overtaken ∧
      overtaken.CleanupFails ∧
      (overtaken.retirement false).map (·.terminal) = some .applied :=
  ⟨run_overtaken, ⟨.failed, by decide, rfl⟩, rfl⟩

/-- The job ends before the cleanup that fails. -/
def orderly : Runner jobs :=
  let worked := closing.drainJoin (.ok .effectEmitting) ⟨.completed, none⟩ 0
    (.completed (JobInput.finished JobEffect.work.correlation))
  let cleaned := worked.drainJoin (.ok .effectEmitting) ⟨.completed, some .retired⟩ 1
    (.completed (JobInput.finished JobEffect.cleanup.correlation))
  { cleaned with phase := .returned ⟨.ok .effectEmitting, ⟨.completed, some .failed⟩⟩ }

theorem run_orderly : Run finishing (fun _ _ => True) (start JobState.idle) orderly :=
  .tail (.tail (.tail run_closing (step_finishing ⟨0, .work, false⟩ rfl (.head _)))
    (step_finishing ⟨1, .cleanup, false⟩ rfl (.head _))) (.drained rfl rfl)

theorem orderly_cleanup_reported :
    orderly.CleanupFails ∧ ∀ retirement, orderly.retirement false = some retirement →
      retirement.terminal ≠ .applied :=
  have fails : orderly.CleanupFails := ⟨.failed, by decide, rfl⟩
  ⟨fails, fun _ ended => (failed_cleanup_reported_iff run_orderly ended).mpr
    (.inr (.inr fun _ => ⟨.failed, rfl, rfl⟩)) fails⟩

end

end Mish.StateMachine
