import Mish.Capture.SingleFlight

/-!
# What a shutdown cancels

`Shutdown` computes the correlation to cancel from the state and its stage. The
effect in flight has its own id, which depends on how the state was reached:
`shutdown_cancels_iff` says for which effects the two agree.
-/

namespace Mish.Capture
open StateMachine

namespace CaptureMachine
variable {m : CaptureMachine} {effect : CaptureEffect} {r : Runner m.machine}

/-- The effects whose correlation a shutdown computes. -/
def cancelReaches : CaptureState → CaptureEffect → Bool
  | .transitioning _, .preflight .. | .transitioning _, .mutate .. | .transitioning _, .finalize ..
  | .reconciling _, .observe .. => true
  | _, _ => false

theorem withEffect_inj (operation : Correlation) (a b : Nat) :
    operation.withEffect a = operation.withEffect b ↔ a = b := by
  constructor
  · intro same
    exact congrArg Correlation.effectId same
  · rintro rfl
    rfl

theorem cancel_mem_shutdown (state : CaptureState) (correlation : Correlation) :
    CaptureEffect.cancel correlation ∈ (m.shutdown state).effects ↔
    cancelTarget state = some correlation := by
  unfold shutdown
  cases cancelTarget state with
  | none => simp [Transition.effects, EffectBatch.one, EffectBatch.toList]
  | some target =>
    simp [Transition.effects, EffectBatch.fromFirst, EffectBatch.toList, eq_comm]

theorem cancelTarget_transitioning {current}
    (awaited : effect.ordinal ∈ TransitionStage.awaits current.stage) :
    cancelTarget (.transitioning current) =
    some (current.operation.correlation.withEffect effect.ordinal) ↔
    cancelReaches (.transitioning current) effect = true := by
  cases stage : current.stage with
  | reserved =>
    rw [stage] at awaited
    cases awaited
  | preflighting | mutating | finalizing =>
    rw [stage] at awaited
    simp only [cancelTarget, stage, Option.some.injEq, withEffect_inj]
    -- the kinds of effect the stage does not wait for are excluded by their ids
    cases effect <;>
      simp [TransitionStage.awaits, CaptureEffect.ordinal, cancelReaches, preflightEffectId,
        mutationEffectId, recoveryEffectId, auditCommitEffectId, finalizerEffectId,
        observationEffectId, auditEffectId, shutdownEffectId] at awaited ⊢

theorem cancelTarget_reconciling {current} (awaited : effect.ordinal ∈ reconcilingAwaits) :
    cancelTarget (.reconciling current) =
    some (current.operation.correlation.withEffect effect.ordinal) ↔
    cancelReaches (.reconciling current) effect = true := by
  simp only [cancelTarget, Option.some.injEq, withEffect_inj]
  cases effect <;>
    simp [reconcilingAwaits, CaptureEffect.ordinal, cancelReaches, preflightEffectId,
      mutationEffectId, recoveryEffectId, auditCommitEffectId, finalizerEffectId,
      observationEffectId, auditEffectId, shutdownEffectId] at awaited ⊢

/-- Where the effects of the active operation are in flight, the state waits for
them, in every run. -/
theorem awaited_of_active {status} (run : Run CaptureExecutes Admits (.start (m.initial status)) r)
    {operation} (active : CaptureState.activeOperation r.state = some operation)
    (inFlight : effect ∈ r.inFlight)
    (own : operation.correlation.sameOperation effect.correlation = true) :
    ∃ revision, Awaited (plan r.state) operation.correlation revision effect := by
  have kept : FlightInvariant CaptureExecutes Admits (m.initial status)
      (fun state effects => Flies False (plan state) effects) (plan · = .gone) :=
    flight_invariant status (fun _ _ allowed => allowed.1) fun no => no.elim
  have now := kept.run run
  have waits : ∃ revision ids, plan r.state = .waiting operation.correlation revision ids := by
    cases state : r.state with
    | transitioning current | reconciling current =>
      rw [state] at active
      cases active
      exact ⟨_, _, rfl⟩
    | stable _ | recoveryRequired _ | shuttingDown _ | retired _ =>
      rw [state] at active
      cases active
  obtain ⟨revision, ids, waits⟩ := waits
  refine ⟨revision, ?_⟩
  cases phase : r.phase with
  | running =>
    simp only [FlightInvariant.At, phase, waits] at now
    obtain ⟨left, right, split⟩ := List.append_of_mem inFlight
    have front : r.inFlight.Perm (effect :: (left ++ right)) := by
      rw [split]
      exact List.perm_middle
    rcases (now.reorder front).taken with ⟨awaited, _⟩ | ⟨foreign, _⟩
    · rwa [waits]
    · rw [own] at foreign
      cases foreign
  | draining _ _ | finalizing _ _ | returned _ =>
    simp only [FlightInvariant.At, phase, waits] at now
    cases now
  | failed _ =>
    simp only [FlightInvariant.At, phase] at now
    rw [now] at inFlight
    cases inFlight

/-- The tasks after a shutdown that cancels `target`. -/
theorem applyShutdown_tasks {target} (computed : cancelTarget r.state = some target) :
    ∃ id correlation projection, r.applyShutdown.tasks =
    (r.cancel target).tasks ++ [⟨id, CaptureEffect.shutdown correlation projection, false⟩] := by
  have reduces : m.reduce r.state .shutdown = some (m.shutdown r.state) := rfl
  simp only [Runner.applyShutdown, Runner.applyInput, Runner.applyInputWithRole, reduces,
    Runner.continueWith, shutdown, computed]
  exact ⟨_, _, _, rfl⟩

/-- The kernel cancels the token of what the shutdown names. -/
theorem applyShutdown_cancels (kept : Conserved [] r)
    (computed : cancelTarget r.state = some effect.correlation)
    (plain : ∀ correlation projection, effect ≠ .shutdown correlation projection) :
    ∀ task ∈ r.applyShutdown.tasks, task.effect = effect → task.cancelled = true := by
  intro task member same
  obtain ⟨id, correlation, projection, tasks⟩ := applyShutdown_tasks computed
  rw [tasks] at member
  rcases List.mem_append.mp member with before | new
  · exact kept.cancel_marks before (congrArg CaptureEffect.correlation same)
  · obtain rfl := List.mem_singleton.mp new
    exact absurd same.symm (plain correlation projection)

/-- In every state with an effect of the active operation in flight, a shutdown
emits its cancellation, and so cancels its token, exactly when the effect is a
mutation, a finalization, an observation, or a preflight of a reserved
operation. -/
theorem shutdown_cancels_iff {status : CaptureRuntimeStatus} {r : Runner m.machine}
    (run : Run CaptureExecutes Admits (.start (m.initial status)) r) {operation : ActiveOperation}
    (active : CaptureState.activeOperation r.state = some operation) {effect : CaptureEffect}
    (inFlight : effect ∈ r.inFlight)
    (own : operation.correlation.sameOperation effect.correlation = true) :
    (CaptureEffect.cancel effect.correlation ∈ (m.shutdown r.state).effects ↔
      cancelReaches r.state effect = true) ∧ (cancelReaches r.state effect = true →
      ∀ task ∈ r.applyShutdown.tasks, task.effect = effect → task.cancelled = true) := by
  obtain ⟨revision, ⟨ids, waits, awaited⟩, named, _⟩ := awaited_of_active run active inFlight own
  have computes : cancelTarget r.state = some effect.correlation ↔
      cancelReaches r.state effect = true := by
    rw [named]
    cases state : r.state with
    | transitioning current =>
      rw [state] at waits
      obtain ⟨same, rfl, rfl⟩ := Plan.waiting.inj waits
      rw [← same]
      exact cancelTarget_transitioning awaited
    | reconciling current =>
      rw [state] at waits
      obtain ⟨same, rfl, rfl⟩ := Plan.waiting.inj waits
      rw [← same]
      exact cancelTarget_reconciling awaited
    | stable _ | recoveryRequired _ | shuttingDown _ | retired _ =>
      rw [state] at waits
      cases waits
  constructor
  · exact (cancel_mem_shutdown r.state effect.correlation).trans computes
  · intro reached
    apply applyShutdown_cancels ((conserved_start _).run run) (computes.mpr reached)
    rintro correlation projection rfl
    cases state : r.state <;> simp [state, cancelReaches] at reached

/-! ## An audit -/

/-- An audit is in flight. -/
def auditingSample : Runner sample.machine :=
  sampleStart.admitInput (CaptureInput.audit true .periodic)

theorem run_auditingSample : Run CaptureExecutes Admits sampleStart auditingSample :=
  .single (.admitInput _ rfl ⟨rfl, by simp [inputToken]⟩)

/-- The effect of that audit. -/
def sampleAudit : CaptureEffect :=
  .audit true ⟨"capture", 1, "audit-1", 1, auditEffectId⟩ sampleToken.previous .periodic

/-- A shutdown leaves its token alone. -/
theorem audit_not_cancelled : Run CaptureExecutes Admits sampleStart auditingSample ∧
    (∃ operation, CaptureState.activeOperation auditingSample.state = some operation ∧
      operation.correlation.sameOperation sampleAudit.correlation = true) ∧
    auditingSample.inFlight = [sampleAudit] ∧
    CaptureEffect.cancel sampleAudit.correlation ∉ (sample.shutdown auditingSample.state).effects ∧
    ∀ task ∈ auditingSample.applyShutdown.tasks, task.cancelled = false := by
  refine ⟨run_auditingSample, ⟨_, rfl, ?_⟩, ?_⟩ <;> decide +kernel

/-- The effect of the mutation that `markedSample` has in flight. -/
def sampleMutation : CaptureEffect :=
  .mutate true ⟨"capture", 1, "1", 1, mutationEffectId⟩ none sampleToken.previous sampleRequest

theorem mutation_cancelled :
    CaptureEffect.cancel sampleMutation.correlation ∈ (sample.shutdown markedSample.state).effects ∧
    ∀ task ∈ markedSample.applyShutdown.tasks, task.effect = sampleMutation →
      task.cancelled = true := by
  have flight : sampleMutation ∈ markedSample.inFlight := by decide +kernel
  have cancels := shutdown_cancels_iff (run_markedSample fun _ _ allowed _ => allowed) rfl flight
    (by decide +kernel)
  have reached : cancelReaches markedSample.state sampleMutation = true := rfl
  exact ⟨cancels.1.mpr reached, cancels.2 reached⟩

end CaptureMachine

end Mish.Capture
