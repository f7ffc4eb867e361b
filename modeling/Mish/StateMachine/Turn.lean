import Mish.StateMachine.Log

/-!
# What a turn of the actor does

A turn makes at most one call of the reducer. `Step.turn` says for each kind of turn what it does
to the state, to the log and to the effects in flight.
-/

namespace Mish.StateMachine
open Runner

section
variable {M : Machine} {executes : Executor M} {admits : Runner M → M.Input → Prop}
  {r t : Runner M}

/-- One call of the reducer, answered with `transition`, leads from `r` to `t`. -/
structure Runner.Called (r t : Runner M) (cause : Cause M.Input) (input : M.Input)
    (transition : Transition M.State M.Effect M.Error) : Prop where
  reduces : M.reduce r.state input = some transition
  state : t.state = transition.next r.state
  reductions : t.reductions = ⟨cause, r.phase, r.state, input, some transition⟩ :: r.reductions

inductive Turn (executes : Executor M) (admits : Runner M → M.Input → Prop) (r t : Runner M) :
    Prop where
  | admitted {input transition} : r.phase = .running → t.phase = .running → admits r input →
      r.Called t .admission input transition →
      t.inFlight = r.inFlight ++ M.spawned transition → Turn executes admits r t
  | shutdown {transition} :
      r.phase = .running → t.phase ≠ .running → r.Called t .shutdown M.shutdown transition →
      t.inFlight = r.inFlight ++ M.spawned transition → Turn executes admits r t
  | settled {effect rest input cause transition} :
      (t.phase = .running ↔ r.phase = .running) → r.inFlight.Perm (effect :: rest) →
      Settles executes r.state effect input → r.Called t cause input transition →
      t.inFlight = rest ++ M.spawned transition → Turn executes admits r t
  -- the drain goes on or ends, or the actor is gone
  | quiet : t.phase ≠ .running → t.state = r.state → t.reductions = r.reductions →
      (t.phase.live = false ∧ t.inFlight = [] ∨
        r.phase ≠ .running ∧ t.inFlight = r.inFlight) → Turn executes admits r t
  | panicked {input} : M.reduce r.state input = none → t.phase.live = false →
      t.state = r.state → (∃ red, red.transition = none ∧ t.reductions = red :: r.reductions) →
      t.inFlight = [] → Turn executes admits r t

/-- What a reducer call does to the runner, and what it returns. -/
theorem applyInputWithRole_called (r : Runner M) (cause : Cause M.Input) (input : M.Input)
    (role : EffectRole) :
    (∃ transition, r.Called (r.applyInputWithRole cause input role).1 cause input transition ∧
    (r.applyInputWithRole cause input role).1.inFlight = r.inFlight ++ M.spawned transition ∧
    (r.applyInputWithRole cause input role).2 = some transition.admission) ∨
    (M.reduce r.state input = none ∧ (r.applyInputWithRole cause input role).2 = none ∧
    (r.applyInputWithRole cause input role).1.state = r.state ∧ ∃ red, red.transition = none ∧
    (r.applyInputWithRole cause input role).1.reductions = red :: r.reductions) := by
  cases reduces : M.reduce r.state input with
  | none =>
    simp only [applyInputWithRole, reduces]
    exact .inr ⟨trivial, trivial, trivial, _, rfl, rfl⟩
  | some transition =>
    obtain ⟨moved, returns⟩ := applyInputWithRole_moved reduces cause role
    refine .inl ⟨transition, ⟨reduces, moved.state, ?_⟩, moved.inFlight, returns⟩
    simp only [applyInputWithRole, reduces]
    exact (performAll_same _ _ _).2.2

/-- A call made for an admission or for the shutdown. -/
theorem turn_applyInput {cause input next}
    (answered : ∀ {transition : Transition M.State M.Effect M.Error} {t : Runner M},
    r.Called t cause input transition → t.inFlight = r.inFlight ++ M.spawned transition →
    t.phase = next transition.admission → Turn executes admits r t) :
    Turn executes admits r (continueWith (r.applyInput cause input) next) := by
  rcases applyInputWithRole_called r cause input .operation with
    ⟨transition, called, inFlight, returns⟩ | ⟨panics, returns, state, logged⟩
  · simp only [applyInput, continueWith, returns]
    exact answered ⟨called.reduces, called.state, called.reductions⟩ inFlight rfl
  · simp only [applyInput, continueWith, returns]
    exact .panicked panics rfl state logged rfl

theorem admitInput_called {input transition} (reduces : M.reduce r.state input = some transition) :
    r.Called (r.admitInput input) .admission input transition := by
  rcases applyInputWithRole_called r .admission input .operation with
    ⟨other, called, _, returns⟩ | ⟨panics, _⟩
  · cases called.reduces.symm.trans reduces
    simp only [admitInput, applyInput, continueWith, returns]
    exact ⟨reduces, called.state, called.reductions⟩
  · cases panics.symm.trans reduces

theorem turn_finishEffect (kept : Conserved [] r) {task} (member : task ∈ r.tasks)
    {joined} (ends : executes.Ends task joined) {force next}
    (goesOn : ∀ disposition, next disposition = .running ↔ r.phase = .running) :
    Turn executes admits r (continueWith (r.finishEffect task.id joined force) next) := by
  obtain ⟨o, found, correlation⟩ := kept.find_correlation member
  rcases applyInputWithRole_called (r.without task.id) (.settlement o joined)
      ((r.without task.id).settling o joined force).1
      ((r.without task.id).settling o joined force).2 with
    ⟨transition, called, inFlight, returns⟩ | ⟨panics, returns, state, logged⟩
  · simp only [finishEffect, found, settle, continueWith, returns,
      Option.map_some]
    exact .settled (goesOn _) (inFlight_without kept member)
      (settling_settles correlation ends force)
      ⟨called.reduces, called.state, called.reductions⟩ inFlight
  · simp only [finishEffect, found, settle, continueWith, returns,
      Option.map_none]
    exact .panicked panics rfl state logged rfl

theorem Step.turn (kept : Conserved [] r) (step : Step executes admits r t) :
    Turn executes admits r t := by
  cases step with
  | admitInput input running allowed =>
    exact turn_applyInput fun called inFlight phase =>
      .admitted running phase allowed called inFlight
  | shutdown running =>
    refine turn_applyInput fun called inFlight phase => .shutdown running ?_ called inFlight
    rw [phase]
    exact nofun
  | join task joined running _ member ends =>
    exact turn_finishEffect kept member ends fun _ => by simp [running]
  | drainJoin task joined draining member ends =>
    exact turn_finishEffect kept member ends fun _ => by simp [draining]
  | finalizerJoin task joined finalizing member ends =>
    exact turn_finishEffect kept member ends fun _ => by simp [finalizing]
  | drained draining idle =>
    exact .quiet nofun rfl rfl (.inr ⟨by simp [draining], rfl⟩)
  | finalized finalizing idle =>
    exact .quiet nofun rfl rfl (.inr ⟨by simp [finalizing], rfl⟩)
  | shutdownDeadline draining =>
    refine .quiet nofun rfl rfl (.inr ⟨by simp [draining], ?_⟩)
    exact map_cancelled r.tasks _ fun _ effect => effect
  | finalizerDeadline | abort => exact .quiet nofun rfl rfl (.inl ⟨rfl, rfl⟩)

theorem Step.mono {wider} (within : ∀ r input, admits r input → wider r input)
    (step : Step executes admits r t) : Step executes wider r t := by
  cases step with
  | admitInput input running allowed => exact .admitInput input running (within r input allowed)
  | join task joined running owns member ends => exact .join task joined running owns member ends
  | shutdown running => exact .shutdown running
  | drainJoin task joined draining member ends => exact .drainJoin task joined draining member ends
  | drained draining none => exact .drained draining none
  | shutdownDeadline draining some => exact .shutdownDeadline draining some
  | finalizerJoin task joined finalizing member ends =>
    exact .finalizerJoin task joined finalizing member ends
  | finalized finalizing none => exact .finalized finalizing none
  | finalizerDeadline finalizing some => exact .finalizerDeadline finalizing some
  | abort returned failed => exact .abort returned failed

/-! ## The effects in flight in every phase -/

/-- What holds of the state and the effects in flight: `inv` while the actor is in its loop, `after`
from the shutdown on. -/
structure Course (executes : Executor M) (admits : Runner M → M.Input → Prop) (initial : M.State)
    (inv after : M.State → List M.Effect → Prop) : Prop where
  initially : inv initial []
  reorder : ∀ {s effects effects'}, effects.Perm effects' →
    (inv s effects → inv s effects') ∧ (after s effects → after s effects')
  admitted : ∀ {r : Runner M} {input transition}, admits r input → inv r.state r.inFlight →
    M.reduce r.state input = some transition →
    inv (transition.next r.state) (r.inFlight ++ M.spawned transition)
  settled : ∀ {s effect rest input transition}, inv s (effect :: rest) →
    Settles executes s effect input → M.reduce s input = some transition →
    inv (transition.next s) (rest ++ M.spawned transition)
  shutdown : ∀ {s effects transition}, inv s effects → M.reduce s M.shutdown = some transition →
    after (transition.next s) (effects ++ M.spawned transition)
  drained : ∀ {s effect rest input transition}, after s (effect :: rest) →
    Settles executes s effect input → M.reduce s input = some transition →
    after (transition.next s) (rest ++ M.spawned transition)
  gone : ∀ {s effects}, inv s effects ∨ after s effects → after s []

namespace Course
variable {initial : M.State} {inv after : M.State → List M.Effect → Prop}

def At (inv after : M.State → List M.Effect → Prop) (r : Runner M) : Prop :=
  (r.phase = .running → inv r.state r.inFlight) ∧ (r.phase ≠ .running → after r.state r.inFlight)

theorem step (h : Course executes admits initial inv after) (kept : Conserved [] r)
    (now : At inv after r) (step : Step executes admits r t) : At inv after t := by
  have either : inv r.state r.inFlight ∨ after r.state r.inFlight := by
    by_cases running : r.phase = .running
    · exact .inl (now.1 running)
    · exact .inr (now.2 running)
  cases step.turn kept with
  | admitted running still allowed called inFlight =>
    refine ⟨fun _ => ?_, fun other => absurd still other⟩
    rw [called.state, inFlight]
    exact h.admitted allowed (now.1 running) called.reduces
  | shutdown running stops called inFlight =>
    refine ⟨fun still => absurd still stops, fun _ => ?_⟩
    rw [called.state, inFlight]
    exact h.shutdown (now.1 running) called.reduces
  | settled phase perm settles called inFlight =>
    rw [At, called.state, inFlight]
    refine ⟨fun running => ?_, fun other => ?_⟩
    · exact h.settled ((h.reorder perm).1 (now.1 (phase.1 running))) settles called.reduces
    · have before : r.phase ≠ .running := fun running => other (phase.2 running)
      exact h.drained ((h.reorder perm).2 (now.2 before)) settles called.reduces
  | quiet other state _ inFlight =>
    refine ⟨fun running => absurd running other, fun _ => ?_⟩
    rw [state]
    rcases inFlight with ⟨_, none⟩ | ⟨before, same⟩
    · rw [none]
      exact h.gone either
    · rw [same]
      exact now.2 before
  | panicked _ ended state _ inFlight =>
    refine ⟨fun running => ?_, fun _ => ?_⟩
    · rw [running] at ended
      cases ended
    rw [state, inFlight]
    exact h.gone either

theorem run (h : Course executes admits initial inv after)
    (run : Run executes admits (.start initial) r) : At inv after r := by
  induction run with
  | refl => exact ⟨fun _ => h.initially, fun other => absurd rfl other⟩
  | tail before step ih => exact h.step ((conserved_start initial).run before) ih step

end Course

/-! ## What is upheld until the actor is gone -/

/-- An invariant of the state and the effects in flight that also survives the shutdown. -/
structure Upheld (executes : Executor M) (admits : Runner M → M.Input → Prop) (initial : M.State)
    (inv : M.State → List M.Effect → Prop) : Prop where
  initially : inv initial []
  reorder : ∀ {s effects effects'}, effects.Perm effects' → inv s effects → inv s effects'
  admitted : ∀ {r : Runner M} {input transition}, admits r input → inv r.state r.inFlight →
    M.reduce r.state input = some transition →
    inv (transition.next r.state) (r.inFlight ++ M.spawned transition)
  settled : ∀ {s effect rest input transition}, inv s (effect :: rest) →
    Settles executes s effect input → M.reduce s input = some transition →
    inv (transition.next s) (rest ++ M.spawned transition)
  shutdown : ∀ {s effects transition}, inv s effects → M.reduce s M.shutdown = some transition →
    inv (transition.next s) (effects ++ M.spawned transition)

namespace Upheld
variable {initial : M.State} {inv : M.State → List M.Effect → Prop}

theorem step (h : Upheld executes admits initial inv) (kept : Conserved [] r)
    (now : inv r.state r.inFlight) (step : Step executes admits r t)
    (live : t.phase.live = true) : inv t.state t.inFlight := by
  cases step.turn kept with
  | admitted _ _ allowed called inFlight =>
    rw [called.state, inFlight]
    exact h.admitted allowed now called.reduces
  | shutdown _ _ called inFlight =>
    rw [called.state, inFlight]
    exact h.shutdown now called.reduces
  | settled _ perm settles called inFlight =>
    rw [called.state, inFlight]
    exact h.settled (h.reorder perm now) settles called.reduces
  | quiet _ state _ inFlight =>
    rcases inFlight with ⟨ended, _⟩ | ⟨_, same⟩
    · cases ended.symm.trans live
    · rw [state, same]
      exact now
  | panicked _ ended => cases ended.symm.trans live

theorem run (h : Upheld executes admits initial inv) (run : Run executes admits (.start initial) r)
    (live : r.phase.live = true) : inv r.state r.inFlight := by
  induction run with
  | refl => exact h.initially
  | @tail r t before step ih =>
    have alive : r.phase.live = true := by
      obtain ⟨returned, failed⟩ := step.alive
      cases phase : r.phase with
      | returned reply => exact absurd phase (returned reply)
      | failed failure => exact absurd phase (failed failure)
      | _ => rfl
    exact h.step ((conserved_start initial).run before) (ih alive) step live

end Upheld

end

end Mish.StateMachine
