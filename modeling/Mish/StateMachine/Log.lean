import Mish.StateMachine.Flight

/-!
# The log of an actor

The calls of the reducer that an actor has made lead from state to state:
`run_since` gives, for any run, the calls made in it, each in the state that the
one before it left.
-/

namespace Mish.StateMachine
open Runner

section
variable {M : Machine}

/-- The state a call leaves. A panic leaves the one before it. -/
def Reduction.after (red : Reduction M) : M.State :=
  (red.transition.map (·.next red.before)).getD red.before

/-- Calls, newest first, that lead from `s` to a state. -/
inductive Linked (s : M.State) : List (Reduction M) → M.State → Prop where
  | nil : Linked s [] s
  | cons {log} (red : Reduction M) : red.transition = M.reduce red.before red.input →
      Linked s log red.before → Linked s (red :: log) red.after

variable {log later : List (Reduction M)} {executes : Executor M}
  {admits : Runner M → M.Input → Prop} {r t : Runner M}

theorem Linked.append {s t u} (h : Linked s log t)
    (then_ : Linked t later u) : Linked s (later ++ log) u := by
  induction then_ with
  | nil => exact h
  | cons red reduces _ ih => exact .cons red reduces ih

/-- The calls that have been made between `r` and `t`. -/
structure Since (r t : Runner M) (log : List (Reduction M)) : Prop where
  recorded : t.reductions = log ++ r.reductions
  linked : Linked r.state log t.state

theorem Since.refl (r : Runner M) : Since r r [] := ⟨rfl, .nil⟩

theorem Since.trans {r t u} (h : Since r t log)
    (then_ : Since t u later) : Since r u (later ++ log) := by
  refine ⟨?_, h.linked.append then_.linked⟩
  rw [then_.recorded, h.recorded, List.append_assoc]

/-- Nothing but the state and the log matters. -/
theorem Since.of_eq {r r' t t'} (h : Since r t log)
    (before : r'.state = r.state ∧ r'.reductions = r.reductions)
    (after : t'.state = t.state ∧ t'.reductions = t.reductions) : Since r' t' log := by
  obtain ⟨recorded, linked⟩ := h
  refine ⟨?_, ?_⟩
  · rw [after.2, before.2, recorded]
  · rw [after.1, before.1]
    exact linked

theorem since_applyInputWithRole (r : Runner M) (cause : Cause M.Input) (input : M.Input)
    (role : EffectRole) :
    Since r (r.applyInputWithRole cause input role).1 [r.reduction cause input] := by
  have linked : Linked r.state [r.reduction cause input] (r.reduction cause input).after :=
    .cons _ rfl .nil
  unfold applyInputWithRole
  cases reduces : M.reduce r.state input with
  | none =>
    refine ⟨?_, ?_⟩
    · simp [reduction, reduces]
    · simpa [reduction, Reduction.after, reduces] using linked
  | some transition =>
    refine ⟨?_, ?_⟩
    · simp [performAll_same, reduction, reduces]
    · simpa [performAll_same, reduction, Reduction.after, reduces] using linked

theorem continueWith_same {α : Type} {applied} (next : α → Phase M.Error) :
    (continueWith applied next).state = applied.1.state ∧
    (continueWith applied next).reductions = applied.1.reductions := by
  unfold continueWith
  split <;> exact ⟨rfl, rfl⟩

theorem since_finishEffect (r : Runner M) (task : Nat) (joined : Joined M.Input) (force : Bool) :
    ∃ log, Since r (r.finishEffect task joined force).1 log := by
  unfold finishEffect
  split
  · exact ⟨[], (Since.refl r).of_eq ⟨rfl, rfl⟩ ⟨rfl, rfl⟩⟩
  · rename_i owned _
    have called := since_applyInputWithRole (r.without task) (.settlement owned joined)
      ((r.without task).settling owned joined force).1
      ((r.without task).settling owned joined force).2
    exact ⟨_, called.of_eq ⟨rfl, rfl⟩ ⟨rfl, rfl⟩⟩

theorem Step.since (step : Step executes admits r t) : ∃ log, Since r t log := by
  have apply (cause : Cause M.Input) (input : M.Input)
      (next : Except M.Error Disposition → Phase M.Error) :
      ∃ log, Since r (continueWith (r.applyInput cause input) next) log :=
    ⟨_, (since_applyInputWithRole r cause input .operation).of_eq ⟨rfl, rfl⟩
      (continueWith_same _)⟩
  have finish (task : Nat) (joined : Joined M.Input) (force : Bool)
      (next : Disposition → Phase M.Error) :
      ∃ log, Since r (continueWith (r.finishEffect task joined force) next) log := by
    obtain ⟨log, since⟩ := since_finishEffect r task joined force
    exact ⟨log, since.of_eq ⟨rfl, rfl⟩ (continueWith_same _)⟩
  cases step with
  | admitInput input => exact apply _ _ _
  | shutdown => exact apply _ _ _
  | join task joined => exact finish _ _ _ _
  | drainJoin task joined => exact finish _ _ _ _
  | finalizerJoin task joined => exact finish _ _ _ _
  | drained | shutdownDeadline | finalized | finalizerDeadline | abort =>
    exact ⟨[], (Since.refl r).of_eq ⟨rfl, rfl⟩ ⟨rfl, rfl⟩⟩

theorem run_since (run : Run executes admits r t) : ∃ log, Since r t log := by
  induction run with
  | refl => exact ⟨[], .refl r⟩
  | tail _ step ih =>
    obtain ⟨log, since⟩ := ih
    obtain ⟨later, more⟩ := step.since
    exact ⟨later ++ log, since.trans more⟩

end

end Mish.StateMachine
