import Mish.StateMachine.Turn

/-!
# The chronicle of an actor

What an actor has been told, without its phases and its tasks: the calls of the reducer that
returned, newest first, the state they led to and the effects still in flight.
`Run.chronicle` derives it from any run.
-/

namespace Mish.StateMachine

section
variable {M : Machine}

/-- A call of the reducer that returned. -/
structure Call (M : Machine) where
  before : M.State
  input : M.Input
  transition : Transition M.State M.Effect M.Error

def Call.after (call : Call M) : M.State := call.transition.next call.before

def Reduction.call? (red : Reduction M) : Option (Call M) :=
  red.transition.map fun transition => ⟨red.before, red.input, transition⟩

/-- The calls of the reducer that returned, newest first. -/
def Runner.calls (r : Runner M) : List (Call M) := r.reductions.filterMap (·.call?)

inductive Chronicle (executes : Executor M) (told : M.Input → Prop) (initial : M.State) :
    List (Call M) → M.State → List M.Effect → Prop where
  | start : Chronicle executes told initial [] initial []
  | told {log s effects input transition} :
      Chronicle executes told initial log s effects → told input ∨ input = M.shutdown →
      M.reduce s input = some transition →
      Chronicle executes told initial (⟨s, input, transition⟩ :: log) (transition.next s)
        (effects ++ M.spawned transition)
  | settled {log s effects rest effect input transition} :
      Chronicle executes told initial log s effects → effects.Perm (effect :: rest) →
      Settles executes s effect input → M.reduce s input = some transition →
      Chronicle executes told initial (⟨s, input, transition⟩ :: log) (transition.next s)
        (rest ++ M.spawned transition)
  -- the actor is gone, and its tasks with it
  | dropped {log s effects} :
      Chronicle executes told initial log s effects → Chronicle executes told initial log s []

variable {executes : Executor M} {admits : Runner M → M.Input → Prop} {told : M.Input → Prop}
  {initial : M.State} {r t : Runner M} {effects : List M.Effect} {log : List (Call M)}

theorem Runner.Called.calls {cause input transition} (called : r.Called t cause input transition) :
    t.calls = ⟨r.state, input, transition⟩ :: r.calls := by
  simp [Runner.calls, called.reductions, Reduction.call?]

theorem Chronicle.turn (within : ∀ r input, admits r input → told input)
    (before : Chronicle executes told initial r.calls r.state r.inFlight)
    (turn : Turn executes admits r t) :
    Chronicle executes told initial t.calls t.state t.inFlight := by
  cases turn with
  | admitted _ _ allowed called inFlight =>
    rw [called.calls, called.state, inFlight]
    exact .told before (.inl (within r _ allowed)) called.reduces
  | shutdown _ _ called inFlight =>
    rw [called.calls, called.state, inFlight]
    exact .told before (.inr rfl) called.reduces
  | settled _ perm settles called inFlight =>
    rw [called.calls, called.state, inFlight]
    exact .settled before perm settles called.reduces
  | quiet _ state reductions inFlight =>
    rw [Runner.calls, reductions, state]
    rcases inFlight with ⟨_, none⟩ | ⟨_, same⟩
    · rw [none]
      exact .dropped before
    · rw [same]
      exact before
  | panicked _ _ state logged inFlight =>
    obtain ⟨red, panics, reductions⟩ := logged
    have same : t.calls = r.calls := by
      simp [Runner.calls, reductions, Reduction.call?, panics]
    rw [same, state, inFlight]
    exact .dropped before

theorem Run.chronicle (run : Run executes admits (.start initial) r)
    (within : ∀ r input, admits r input → told input) :
    Chronicle executes told initial r.calls r.state r.inFlight := by
  induction run with
  | refl => exact .start
  | tail before step ih => exact ih.turn within (step.turn ((conserved_start initial).run before))

/-- Every call is the reducer's answer in the state before it. -/
theorem Chronicle.answered {s} (h : Chronicle executes told initial log s effects) :
    ∀ call ∈ log, M.reduce call.before call.input = some call.transition := by
  induction h with
  | start => exact fun _ listed => absurd listed List.not_mem_nil
  | told _ _ reduces ih | settled _ _ _ reduces ih =>
    intro call listed
    rcases List.mem_cons.1 listed with rfl | earlier
    · exact reduces
    · exact ih call earlier
  | dropped _ ih => exact ih

/-- What had been told when a call was made. -/
theorem Chronicle.before {later earlier s call} (h : Chronicle executes told initial log s effects)
    (split : log = later ++ call :: earlier) :
    ∃ effects, Chronicle executes told initial earlier call.before effects := by
  induction h generalizing later with
  | start => exact absurd split.symm (List.append_ne_nil_of_right_ne_nil _ nofun)
  | told before _ _ ih | settled before _ _ _ ih =>
    cases later with
    | nil =>
      obtain ⟨rfl, rfl⟩ := List.cons.inj split
      exact ⟨_, before⟩
    | cons _ later => exact ih (List.cons.inj split).2
  | dropped _ ih => exact ih split

end

end Mish.StateMachine
