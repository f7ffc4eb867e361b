import Mish.StateMachine.Settlement

/-!
# Effects in flight

While the actor is in its loop, what it does to the state and to the effects in
flight is one of two things: it admits an input, or it takes one effect out of
flight and reduces the input that settles it. An invariant of both is proved by
`FlightInvariant.run`.
-/

namespace Mish.StateMachine
open List Runner

section
variable {M : Machine}

def Runner.inFlight (r : Runner M) : List M.Effect := r.tasks.map (·.effect)

/-- The effects of a transition that become tasks. -/
def Machine.spawned (M : Machine) (transition : Transition M.State M.Effect M.Error) :
    List M.Effect :=
  transition.effects.filter (M.mode · = .spawn)

/-- `input` is what settles `effect` in `state`: what its task returned, if that
is current, or a failure. -/
def Settles (executes : Executor M) (state : M.State) (effect : M.Effect) (input : M.Input) :
    Prop :=
  (∃ cancelled, executes effect cancelled input ∧
    M.inputCorrelation state input = some (M.correlation effect) ∧
    M.effectIsCurrent state (M.correlation effect) = true) ∨
  ∃ failure, input = M.taskFailed (M.correlation effect) failure

/-! ## What performing effects does -/

/-- The effects in flight, each with the id of its task. -/
def Runner.roster (r : Runner M) : List (M.Effect × Nat) :=
  r.tasks.map fun task => (task.effect, task.id)

theorem perform_roster (role : EffectRole) (r : Runner M) (effect : M.Effect) :
    (r.perform role effect).roster =
    r.roster ++ ([effect].filter (M.mode · = .spawn)).zipIdx r.nextId ∧
    (r.perform role effect).nextId = r.nextId + ([effect].filter (M.mode · = .spawn)).length := by
  unfold perform
  cases mode : M.mode effect with
  | cancel =>
    simp only [filter, mode, decide_false, reduceCtorEq, zipIdx_nil, append_nil]
    exact ⟨map_cancelled r.tasks _ fun id effect => (effect, id), rfl⟩
  | spawn => simp [mode, spawn, Runner.roster]

/-- Spawned tasks are numbered on from the last one. -/
theorem performAll_roster (role : EffectRole) (effects : List M.Effect) (r : Runner M) :
    (effects.foldl (perform role) r).roster =
    r.roster ++ (effects.filter (M.mode · = .spawn)).zipIdx r.nextId ∧
    (effects.foldl (perform role) r).nextId =
    r.nextId + (effects.filter (M.mode · = .spawn)).length := by
  induction effects generalizing r with
  | nil => simp
  | cons effect effects ih =>
    obtain ⟨roster, nextId⟩ := ih (r.perform role effect)
    obtain ⟨first, after⟩ := perform_roster role r effect
    rw [foldl_cons, roster, nextId, first, after, append_assoc, Nat.add_assoc,
      ← length_append, ← zipIdx_append, ← filter_append]
    exact ⟨rfl, rfl⟩

/-- What a reducer call that returns `transition` leaves of `r`. -/
structure Runner.Moved (r : Runner M) (transition : Transition M.State M.Effect M.Error)
    (t : Runner M) : Prop where
  state : t.state = transition.next r.state
  roster : t.roster = r.roster ++ (M.spawned transition).zipIdx r.nextId
  nextId : t.nextId = r.nextId + (M.spawned transition).length

variable {r : Runner M} {input : M.Input} {transition : Transition M.State M.Effect M.Error}
  {task : Task M.Effect} {due : List OwnedEffect} {joined : Joined M.Input} {executes : Executor M}
  {o : OwnedEffect} {force : Bool}

theorem applyInputWithRole_moved (reduces : M.reduce r.state input = some transition)
    (cause : Cause M.Input) (role : EffectRole) :
    r.Moved transition (r.applyInputWithRole cause input role).1 ∧
    (r.applyInputWithRole cause input role).2 = some transition.admission := by
  unfold applyInputWithRole
  rw [reduces]
  refine ⟨⟨(performAll_same _ _ _).1, ?_, ?_⟩, rfl⟩
  · exact (performAll_roster _ _ _).1
  · exact (performAll_roster _ _ _).2

theorem Runner.Moved.inFlight {t}
    (moved : r.Moved transition t) : t.inFlight = r.inFlight ++ M.spawned transition := by
  have effects := congrArg (map Prod.fst) moved.roster
  simpa [Runner.roster, Runner.inFlight, Function.comp_def] using effects

/-- A reducer call that returns moves the state and adds what it spawns. -/
theorem applyInputWithRole_moves {cause role result}
    (returns : (r.applyInputWithRole cause input role).2 = some result) :
    ∃ transition, M.reduce r.state input = some transition ∧
    (r.applyInputWithRole cause input role).1.state = transition.next r.state ∧
    (r.applyInputWithRole cause input role).1.inFlight = r.inFlight ++ M.spawned transition := by
  cases reduces : M.reduce r.state input with
  | none => simp [applyInputWithRole, reduces] at returns
  | some transition =>
    obtain ⟨moved, _⟩ := applyInputWithRole_moved reduces cause role
    exact ⟨transition, rfl, moved.state, moved.inFlight⟩

theorem admitInput_of_reduce (h : M.reduce r.state input = some transition) :
    (r.admitInput input).phase = .running ∧ (r.admitInput input).state = transition.next r.state ∧
    (r.admitInput input).inFlight = r.inFlight ++ M.spawned transition := by
  obtain ⟨moved, returns⟩ := applyInputWithRole_moved h .admission .operation
  simp only [admitInput, applyInput, continueWith, returns, true_and]
  exact ⟨moved.state, moved.inFlight⟩

/-- An admission the reducer panics on unwinds the actor. -/
theorem admitInput_of_panic (h : M.reduce r.state input = none) :
    (r.admitInput input).state = r.state ∧ (r.admitInput input).inFlight = [] := by
  simp [admitInput, applyInput, applyInputWithRole, h, continueWith,
    fail, Runner.inFlight]

theorem inFlight_without (h : Conserved due r) (member : task ∈ r.tasks) :
    r.inFlight.Perm (task.effect :: (r.without task.id).inFlight) := by
  have distinct : (r.tasks.map (·.id)).Nodup := by
    rw [h.aligned_ids]
    exact h.owned_distinct
  exact ((perm_cons_filter_key (·.id) distinct member).map (·.effect)).symm

theorem Conserved.owned_correlations
    (h : Conserved due r) : r.owned.map (·.correlation) = r.inFlight.map M.correlation := by
  have same := congrArg (map Prod.snd) h.aligned
  simpa [Runner.inFlight, map_map, Function.comp_def] using same.symm

/-- What is found in the owned table for a task is that task's effect. -/
theorem Conserved.find_correlation (h : Conserved due r) (member : task ∈ r.tasks) :
    ∃ o, r.owned.find? (·.task = task.id) = some o ∧ o.correlation = M.correlation task.effect := by
  obtain ⟨o, found⟩ := h.find_owned member
  refine ⟨o, found, ?_⟩
  have named : o.task = task.id := by simpa using find?_some found
  have listed : (task.id, M.correlation task.effect) ∈
      r.owned.map fun o => (o.task, o.correlation) := by
    rw [← h.aligned]
    exact mem_map.mpr ⟨task, member, rfl⟩
  obtain ⟨o', owns', same⟩ := mem_map.mp listed
  obtain ⟨named', correlation⟩ := Prod.mk.inj same
  have one : o = o' := inj_on_of_nodup_map h.owned_distinct
    (mem_of_find?_eq_some found) owns' (named.trans named'.symm)
  rw [one, correlation]

/-- Cancelling a correlation cancels the token of every task that runs under it. -/
theorem Conserved.cancel_marks (h : Conserved due r)
    {correlation} (member : task ∈ (r.cancel correlation).tasks)
    (named : M.correlation task.effect = correlation) : task.cancelled = true := by
  obtain ⟨before, listed, same⟩ := mem_map.mp member
  split at same
  · rw [← same]
  · rename_i unowned
    rw [← same] at named
    obtain ⟨o, found, owned⟩ := h.find_correlation listed
    have id : o.task = before.id := by simpa using find?_some found
    have matched : r.owned.any (fun owned =>
        owned.task = before.id && owned.correlation = correlation) = true :=
      any_eq_true.mpr ⟨o, mem_of_find?_eq_some found, by simp [id, owned, named]⟩
    exact absurd matched unowned

theorem settling_settles (correlation : o.correlation = M.correlation task.effect)
    (ends : executes.Ends task joined) (force : Bool) :
    Settles executes r.state task.effect ((r.without task.id).settling o joined force).1 := by
  cases joined with
  | panicked => exact .inr ⟨.panicked, by rw [← correlation]; rfl⟩
  | aborted => exact .inr ⟨.aborted, by rw [← correlation]; rfl⟩
  | completed input =>
    -- the completion is handed over only after both tests of `finish_effect`
    simp only [settling]
    split
    · exact .inr ⟨.completionConflict, by rw [← correlation]⟩
    · rename_i accepted
      simp only [Bool.or_eq_true, not_or, decide_eq_true_eq, not_not, Bool.not_eq_true',
        Bool.not_eq_false] at accepted
      rw [correlation] at accepted
      exact .inl ⟨task.cancelled, ends, accepted.1.1, accepted.1.2⟩

/-- Joining a task takes its effect out of flight and reduces what settles it. -/
theorem finishEffect_moves (h : Conserved [] r) (member : task ∈ r.tasks) {disposition}
    (ends : executes.Ends task joined)
    (returns : (r.finishEffect task.id joined force).2 = some disposition) :
    ∃ input transition, Settles executes r.state task.effect input ∧ M.reduce r.state input =
    some transition ∧ (r.finishEffect task.id joined force).1.state = transition.next r.state ∧
    (r.finishEffect task.id joined force).1.inFlight =
    (r.without task.id).inFlight ++ M.spawned transition := by
  obtain ⟨o, found, correlation⟩ := h.find_correlation member
  simp only [finishEffect, found, settle] at returns ⊢
  obtain ⟨result, applied, _⟩ := Option.map_eq_some_iff.mp returns
  obtain ⟨transition, reduces, state, inFlight⟩ := applyInputWithRole_moves applied
  refine ⟨_, transition, ?_, reduces, state, inFlight⟩
  exact settling_settles correlation ends force

/-! ## Which task runs which effect -/

/-- The actor still takes turns. -/
def Phase.live {Error : Type} : Phase Error → Bool
  | .running | .draining _ _ | .finalizing _ _ => true
  | .returned _ | .failed _ => false

/-- What joining a task leaves, once the reducer answers what it is settled with. -/
theorem finishEffect_settled (found : r.owned.find? (·.task = task.id) = some o)
    (reduces : M.reduce r.state ((r.without task.id).settling o joined force).1 = some transition) :
    (r.without task.id).Moved transition (r.finishEffect task.id joined force).1 ∧
    (r.finishEffect task.id joined force).2 = some transition.disposition := by
  obtain ⟨moved, returns⟩ := applyInputWithRole_moved
    (r := r.without task.id) reduces (.settlement o joined)
    ((r.without task.id).settling o joined force).2
  simp only [finishEffect, found, settle]
  refine ⟨moved, ?_⟩
  rw [returns]
  cases transition <;> rfl

/-- What joining a task settles it with, whatever the reducer then makes of it. -/
theorem finishEffect_moved (h : Conserved [] r) (member : task ∈ r.tasks)
    (ends : executes.Ends task joined) (force : Bool) :
    ∃ input, Settles executes r.state task.effect input ∧ ∀ transition, M.reduce r.state input =
    some transition → (r.without task.id).Moved transition (r.finishEffect task.id joined force).1 ∧
    (r.finishEffect task.id joined force).2 = some transition.disposition := by
  obtain ⟨o, found, correlation⟩ := h.find_correlation member
  exact ⟨_, settling_settles correlation ends force, fun _ => finishEffect_settled found⟩

/-- A reducer call that panics has not moved the state. -/
theorem finishEffect_of_panic {task} (panics : (r.finishEffect task joined force).2 = none) :
    (r.finishEffect task joined force).1.state = r.state := by
  unfold finishEffect at panics ⊢
  split
  · rfl
  · rename_i owned found
    simp only [found, settle, applyInputWithRole] at panics ⊢
    split
    · rfl
    · rename_i transition reduces
      simp [reduces] at panics

/-! ## Invariants of the state and the effects in flight -/

/-- An invariant `inv` of the actor's loop, and what holds of the state once a
shutdown has been applied. -/
structure FlightInvariant (executes : Executor M) (admits : Runner M → M.Input → Prop)
    (initial : M.State) (inv : M.State → List M.Effect → Prop) (final : M.State → Prop) :
    Prop where
  initially : inv initial []
  reorder : ∀ {s effects effects'}, effects.Perm effects' → inv s effects → inv s effects'
  admitted : ∀ {r : Runner M} {input transition}, admits r input → inv r.state r.inFlight →
    M.reduce r.state input = some transition →
    inv (transition.next r.state) (r.inFlight ++ M.spawned transition)
  settled : ∀ {s effect rest input transition}, inv s (effect :: rest) →
    Settles executes s effect input → M.reduce s input = some transition →
    inv (transition.next s) (rest ++ M.spawned transition)
  shutdown : ∀ {s transition}, M.reduce s M.shutdown = some transition → final (transition.next s)
  drained : ∀ {s effect input transition}, final s → Settles executes s effect input →
    M.reduce s input = some transition → final (transition.next s)

/-- What a flight invariant says of a runner. An actor that was unwound has no
effects left. -/
def FlightInvariant.At (inv : M.State → List M.Effect → Prop) (final : M.State → Prop)
    (r : Runner M) : Prop :=
  match r.phase with
  | .running => inv r.state r.inFlight
  | .draining _ _ | .finalizing _ _ | .returned _ => final r.state
  | .failed _ => r.inFlight = []

namespace FlightInvariant
variable {executes : Executor M} {admits : Runner M → M.Input → Prop} {initial : M.State}
  {inv : M.State → List M.Effect → Prop} {final : M.State → Prop}

/-- A reducer call that panics leaves nothing in flight; otherwise the turn goes
on in `next`. -/
theorem at_continueWith {α : Type} {applied : Runner M × Option α} {next}
    (returns : ∀ result, applied.2 = some result →
    At inv final { applied.1 with phase := next result }) :
    At inv final (continueWith applied next) := by
  obtain ⟨r, result⟩ := applied
  cases result with
  | none => rfl
  | some result => exact returns result rfl

theorem step (h : FlightInvariant executes admits initial inv final) {r t} (kept : Conserved [] r)
    (now : At inv final r) (step : Step executes admits r t) : At inv final t := by
  have drains {task : Task M.Effect} {joined : Joined M.Input} {force : Bool}
      (member : task ∈ r.tasks) (ends : executes.Ends task joined) (ended : final r.state)
      (disposition : Disposition)
      (returns : (r.finishEffect task.id joined force).2 = some disposition) :
      final (r.finishEffect task.id joined force).1.state := by
    obtain ⟨input, transition, settles, reduces, state, _⟩ :=
      finishEffect_moves kept member ends returns
    rw [state]
    exact h.drained ended settles reduces
  cases step with
  | admitInput input running allowed =>
    have before : inv r.state r.inFlight := by simpa only [At, running] using now
    apply at_continueWith
    intro result returns
    obtain ⟨transition, reduces, state, inFlight⟩ := applyInputWithRole_moves returns
    have after := h.admitted allowed before reduces
    rw [← state, ← inFlight] at after
    exact after
  | join task joined running _ member ends =>
    have before : inv r.state r.inFlight := by simpa only [At, running] using now
    apply at_continueWith
    intro disposition returns
    obtain ⟨input, transition, settles, reduces, state, inFlight⟩ :=
      finishEffect_moves kept member ends returns
    have taken := h.reorder (inFlight_without kept member) before
    have after := h.settled taken settles reduces
    rw [← state, ← inFlight] at after
    exact after
  | shutdown =>
    apply at_continueWith
    intro result returns
    obtain ⟨transition, reduces, state, _⟩ := applyInputWithRole_moves returns
    have after := h.shutdown reduces
    rw [← state] at after
    exact after
  | drainJoin task joined draining member ends =>
    have before : final r.state := by simpa only [At, draining] using now
    exact at_continueWith fun disposition returns => drains member ends before disposition returns
  | finalizerJoin task joined finalizing member ends =>
    have before : final r.state := by simpa only [At, finalizing] using now
    exact at_continueWith fun disposition returns => drains member ends before disposition returns
  | drained draining _ => simpa only [At, draining] using now
  | finalized finalizing _ => simpa only [At, finalizing] using now
  | shutdownDeadline draining _ =>
    have before : final r.state := by simpa only [At, draining] using now
    exact before
  | finalizerDeadline finalizing _ =>
    have before : final r.state := by simpa only [At, finalizing] using now
    exact before
  | abort => rfl

theorem run (h : FlightInvariant executes admits initial inv final)
    (run : Run executes admits (.start initial) r) : At inv final r := by
  induction run with
  | refl => exact h.initially
  | tail before step ih => exact h.step ((conserved_start initial).run before) ih step

end FlightInvariant

end

end Mish.StateMachine
