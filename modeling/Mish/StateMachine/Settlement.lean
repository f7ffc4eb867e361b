import Mathlib.Data.List.Nodup
import Mish.StateMachine.Kernel

/-!
# Exactly-once settlement

Every spawned effect is, at any time, settled, owned or lost, and only a panic,
an abort or the second deadline loses effects. The three lists together are
the spawned effects, so none is settled twice (`settled_exactly_once`).
-/

namespace Mish.StateMachine
open List Phase Runner

section
variable {M : Machine}

/-- The effect a reducer call settles. -/
def Cause.settles {Input : Type} : Cause Input → Option OwnedEffect
  | .settlement owned _ => some owned
  | _ => none

def Runner.settled (r : Runner M) : List OwnedEffect := r.reductions.filterMap (·.cause.settles)

/-- The actor is gone and took effects with it: it was unwound, or the second
deadline detached them. -/
def Phase.abandons {Error : Type} : Phase Error → Prop
  | .failed _ => True
  | .returned reply => reply.drain.terminal = .forced .finalizerDeadlineExceeded
  | _ => False

def Phase.isFinalizing {Error : Type} : Phase Error → Bool
  | .finalizing _ _ => true
  | _ => false

/-- The completion of an owned effect may reach the reducer. -/
def Reduction.Current (red : Reduction M) (owned : OwnedEffect) (input : M.Input) : Prop :=
  M.inputCorrelation red.before input = some owned.correlation ∧
    M.effectIsCurrent red.before owned.correlation = true ∧
    ¬(red.phase.isFinalizing = true ∧ owned.role = .operation)

/-- A settlement hands over what the task returned when that is current, and
otherwise one failure built from the owned correlation. -/
def Reduction.Lawful (red : Reduction M) : Prop :=
  match red.cause with
  | .admission | .shutdown => True
  | .settlement owned (.completed input) =>
    (red.Current owned input ∧ red.input = input) ∨
      (¬red.Current owned input ∧ red.input = M.taskFailed owned.correlation .completionConflict)
  | .settlement owned .panicked => red.input = M.taskFailed owned.correlation .panicked
  | .settlement owned .aborted => red.input = M.taskFailed owned.correlation .aborted

/-- What a runner keeps while the effects `due` are being settled: the join set
and the owned table agree, task ids are fresh, and no spawned effect is
forgotten. -/
structure Conserved (due : List OwnedEffect) (r : Runner M) : Prop where
  aligned : r.tasks.map (fun task => (task.id, M.correlation task.effect)) =
    r.owned.map fun o => (o.task, o.correlation)
  fresh : ∀ o ∈ r.spawned, o.task < r.nextId
  distinct : (r.spawned.map (·.task)).Nodup
  partition : ∃ lost, (due ++ r.settled ++ r.owned ++ lost).Perm r.spawned ∧
    (¬r.phase.abandons → lost = [])
  lawful : ∀ red ∈ r.reductions, red.Lawful

theorem conserved_start (initial : M.State) : Conserved [] (start initial) where
  aligned := rfl
  fresh := by simp [start]
  distinct := by simp [start]
  partition := ⟨[], by simp [start, settled]⟩
  lawful := by simp [start]

variable {r : Runner M} {due : List OwnedEffect} {task : Task M.Effect} {α : Type}
  {cause : Cause M.Input} {input : M.Input} {o : OwnedEffect}

theorem Conserved.owned_distinct (h : Conserved due r) : (r.owned.map (·.task)).Nodup := by
  obtain ⟨lost, perm, _⟩ := h.partition
  have all := (perm.map (·.task)).nodup_iff.mpr h.distinct
  simp only [map_append] at all
  exact (nodup_append.mp (nodup_append.mp all).1).2.1

theorem Conserved.aligned_ids (h : Conserved due r) :
    r.tasks.map (·.id) = r.owned.map (·.task) := by
  simpa [map_map, Function.comp_def] using congrArg (map Prod.fst) h.aligned

theorem Conserved.task_lt (h : Conserved due r) (member : task ∈ r.tasks) : task.id < r.nextId := by
  have listed : task.id ∈ r.owned.map (·.task) := by
    rw [← h.aligned_ids]
    exact mem_map.mpr ⟨task, member, rfl⟩
  obtain ⟨o, owns, named⟩ := mem_map.mp listed
  obtain ⟨lost, perm, _⟩ := h.partition
  have spawned : o ∈ r.spawned := perm.subset (by simp [owns])
  exact named ▸ h.fresh o spawned

/-! ## Performing effects -/

/-- Cancelling a task changes nothing but its token. -/
theorem map_cancelled (tasks : List (Task M.Effect)) (chosen : Task M.Effect → Bool)
    (f : Nat → M.Effect → α) :
    (tasks.map fun task => if chosen task then { task with cancelled := true } else task).map
    (fun task => f task.id task.effect) = tasks.map fun task => f task.id task.effect := by
  rw [map_map]
  apply map_congr_left
  intro task _
  simp only [Function.comp_apply]
  split <;> rfl

theorem Conserved.cancel (h : Conserved [] r) (correlation : Correlation) :
    Conserved [] (r.cancel correlation) :=
  { h with
    aligned := (map_cancelled r.tasks _ fun id effect => (id, M.correlation effect)).trans h.aligned }

/-- A new task has an id no earlier one had. -/
theorem Conserved.spawn (h : Conserved [] r) (effect : M.Effect)
    (role : EffectRole) : Conserved [] (r.spawn effect role) where
  aligned := by simp [Runner.spawn, h.aligned]
  fresh := by
    intro o spawned
    have older : o.task ≤ r.nextId := by
      rcases mem_cons.mp spawned with rfl | earlier
      · exact Nat.le_refl _
      · exact Nat.le_of_lt (h.fresh o earlier)
    exact Nat.lt_succ_of_le older
  distinct := by
    have unused : r.nextId ∉ r.spawned.map (·.task) := by
      intro used
      obtain ⟨o, earlier, same⟩ := mem_map.mp used
      have below := h.fresh o earlier
      omega
    exact nodup_cons.mpr ⟨unused, h.distinct⟩
  partition := by
    obtain ⟨lost, perm, kept⟩ := h.partition
    refine ⟨lost, ?_, kept⟩
    have moved (new : OwnedEffect) :
        (r.settled ++ (r.owned ++ [new]) ++ lost).Perm (new :: (r.settled ++ r.owned ++ lost)) := by
      rw [← append_assoc, append_assoc]
      exact perm_middle
    exact (moved _).trans (perm.cons _)
  lawful := h.lawful

theorem Conserved.perform (h : Conserved [] r) (role : EffectRole)
    (effect : M.Effect) : Conserved [] (r.perform role effect) := by
  unfold Runner.perform
  cases M.mode effect with
  | cancel => exact h.cancel _
  | spawn => exact h.spawn effect role

theorem Conserved.performAll (h : Conserved [] r) (role : EffectRole)
    (effects : List M.Effect) : Conserved [] (effects.foldl (Runner.perform role) r) := by
  induction effects generalizing r with
  | nil => exact h
  | cons effect effects ih => exact ih (h.perform role effect)

/-- Performing effects changes the tasks and the owned table only. -/
theorem perform_same (role : EffectRole) (r : Runner M) (effect : M.Effect) :
    (r.perform role effect).state = r.state ∧ (r.perform role effect).phase = r.phase ∧
    (r.perform role effect).reductions = r.reductions := by
  unfold Runner.perform
  cases M.mode effect <;> exact ⟨rfl, rfl, rfl⟩

theorem performAll_same (role : EffectRole) (effects : List M.Effect) (r : Runner M) :
    (effects.foldl (Runner.perform role) r).state = r.state ∧
    (effects.foldl (Runner.perform role) r).phase = r.phase ∧
    (effects.foldl (Runner.perform role) r).reductions = r.reductions := by
  induction effects generalizing r with
  | nil => exact ⟨rfl, rfl, rfl⟩
  | cons effect effects ih =>
    obtain ⟨state, phase, reductions⟩ := perform_same role r effect
    rw [← state, ← phase, ← reductions]
    exact ih _

/-! ## Calling the reducer -/

/-- The reducer call that is about to be made. -/
def Runner.reduction (r : Runner M) (cause : Cause M.Input) (input : M.Input) : Reduction M :=
  ⟨cause, r.phase, r.state, input, M.reduce r.state input⟩

theorem Conserved.reduced (h : Conserved cause.settles.toList r)
    (lawful : (r.reduction cause input).Lawful) (state : M.State) : Conserved [] { r with
      state, reductions := r.reduction cause input :: r.reductions } :=
  { h with
    partition := by
      obtain ⟨lost, perm, kept⟩ := h.partition
      refine ⟨lost, ?_, kept⟩
      cases cause <;> exact perm
    lawful := by
      intro red called
      rcases mem_cons.mp called with rfl | earlier
      · exact lawful
      · exact h.lawful red earlier }

theorem Conserved.applyInputWithRole
    (h : Conserved cause.settles.toList r) (lawful : (r.reduction cause input).Lawful)
    (role : EffectRole) : Conserved [] (r.applyInputWithRole cause input role).1 := by
  unfold Runner.applyInputWithRole
  cases reduces : M.reduce r.state input with
  | none =>
    have kept := h.reduced lawful r.state
    simpa only [reduction, reduces] using kept
  | some transition =>
    have kept := (h.reduced lawful (transition.next r.state)).performAll role transition.effects
    simpa only [reduction, reduces] using kept

theorem applyInputWithRole_phase (r : Runner M) (cause : Cause M.Input) (input : M.Input)
    (role : EffectRole) : (r.applyInputWithRole cause input role).1.phase = r.phase := by
  unfold Runner.applyInputWithRole
  cases M.reduce r.state input with
  | none => rfl
  | some transition => exact (performAll_same _ _ _).2.1

/-! ## Settling an effect -/

/-- Keys that are pairwise distinct make removal by key the removal of one entry. -/
theorem perm_cons_filter_key (key : α → Nat) {entries o} (distinct : (entries.map key).Nodup)
    (listed : o ∈ entries) : (o :: entries.filter (key · ≠ key o)).Perm entries := by
  induction entries with
  | nil => simp at listed
  | cons head rest ih =>
    obtain ⟨absent, distinct⟩ := nodup_cons.mp distinct
    have others : ∀ other ∈ rest, key other ≠ key head := by
      intro other member same
      exact absent (mem_map.mpr ⟨other, member, same⟩)
    rcases mem_cons.mp listed with rfl | later
    · have all : rest.filter (key · ≠ key o) = rest := by
        rw [filter_eq_self]
        intro other member
        simpa using others other member
      rw [filter_cons_of_neg (by simp), all]
    · have keeps : key head ≠ key o := fun same => others o later same.symm
      rw [filter_cons_of_pos (by simpa using keeps)]
      exact (Perm.swap _ _ _).trans ((ih distinct later).cons head)

theorem Conserved.taken (h : Conserved [] r) (owns : o ∈ r.owned) :
    Conserved [o] (r.without o.task) :=
  { h with
    aligned := by
      have same := congrArg (filter (·.1 ≠ o.task)) h.aligned
      simpa [without, filter_map, Function.comp_def] using same
    partition := by
      obtain ⟨lost, perm, kept⟩ := h.partition
      refine ⟨lost, ?_, kept⟩
      refine Perm.trans ?_ perm
      have back := perm_cons_filter_key (·.task) h.owned_distinct owns
      have moved : (o :: (r.settled ++ r.owned.filter (·.task ≠ o.task))).Perm
          (r.settled ++ r.owned) :=
        perm_middle.symm.trans (back.append_left _)
      exact moved.append_right lost }

/-- The test `finish_effect` makes is the one `Current` states. -/
theorem conflict_iff (r : Runner M) (owned : OwnedEffect) (input settled : M.Input) :
    (M.inputCorrelation r.state input ≠ some owned.correlation ||
    !M.effectIsCurrent r.state owned.correlation ||
    (r.phase.isFinalizing && owned.role = .operation)) = true ↔
    ¬(r.reduction (.settlement owned (.completed input)) settled).Current owned input := by
  simp only [reduction, Reduction.Current, Bool.or_eq_true, Bool.and_eq_true,
    decide_eq_true_eq, Bool.not_eq_true']
  grind

/-- The input chosen for a settlement is the lawful one. -/
theorem settling_lawful (r : Runner M) (owned : OwnedEffect) (joined : Joined M.Input)
    (force : Bool) (forced : force = r.phase.isFinalizing) :
    (r.reduction (.settlement owned joined) (r.settling owned joined force).1).Lawful := by
  subst forced
  cases joined with
  | panicked => rfl
  | aborted => rfl
  | completed input =>
    have test := conflict_iff r owned input
      (r.settling owned (.completed input) r.phase.isFinalizing).1
    by_cases current : (r.reduction (.settlement owned (.completed input))
        (r.settling owned (.completed input) r.phase.isFinalizing).1).Current owned input
    · refine .inl ⟨current, ?_⟩
      simp only [reduction, settling]
      rw [if_neg fun conflict => test.mp conflict current]
    · refine .inr ⟨current, ?_⟩
      simp only [reduction, settling]
      rw [if_pos (test.mpr current)]

theorem Conserved.settle (h : Conserved [o] r) (joined : Joined M.Input) {force}
    (forced : force = r.phase.isFinalizing) : Conserved [] (r.settle o joined force).1 := by
  have due : Conserved (Cause.settlement o joined).settles.toList r := h
  exact due.applyInputWithRole (settling_lawful r o joined force forced) _

/-- The join set and the owned table name the same tasks, so every task that
ends is found. -/
theorem Conserved.find_owned (h : Conserved due r) (member : task ∈ r.tasks) :
    ∃ o, r.owned.find? (·.task = task.id) = some o := by
  have listed : task.id ∈ r.owned.map (·.task) := by
    rw [← h.aligned_ids]
    exact mem_map.mpr ⟨task, member, rfl⟩
  obtain ⟨o, owns, named⟩ := mem_map.mp listed
  exact Option.isSome_iff_exists.mp (find?_isSome.mpr ⟨o, owns, by simpa using named⟩)

theorem Conserved.finishEffect (h : Conserved [] r) (member : task ∈ r.tasks)
    (joined : Joined M.Input) {force} (forced : force = r.phase.isFinalizing) :
    Conserved [] (r.finishEffect task.id joined force).1 := by
  obtain ⟨o, found⟩ := h.find_owned member
  have owns := mem_of_find?_eq_some found
  have named : o.task = task.id := by simpa using find?_some found
  unfold Runner.finishEffect
  rw [found, ← named]
  exact (h.taken owns).settle joined forced

theorem finishEffect_phase (r : Runner M) (task : Nat) (joined : Joined M.Input) (force : Bool) :
    (r.finishEffect task joined force).1.phase = r.phase := by
  unfold Runner.finishEffect
  cases r.owned.find? (·.task = task) with
  | none => rfl
  | some o => exact applyInputWithRole_phase _ _ _ _

/-! ## One turn of the actor -/

theorem Conserved.withPhase (h : Conserved [] r) (live : ¬r.phase.abandons)
    (phase : Phase M.Error) : Conserved [] { r with phase } :=
  { h with
    partition := by
      obtain ⟨lost, perm, kept⟩ := h.partition
      exact ⟨lost, perm, fun _ => kept live⟩ }

/-- What is dropped with the actor is lost. -/
theorem Conserved.dropped (h : Conserved [] r) {phase} (abandons : phase.abandons) :
    Conserved [] { r with tasks := [], owned := [], phase } :=
  { h with
    aligned := rfl
    partition := by
      obtain ⟨lost, perm, _⟩ := h.partition
      refine ⟨r.owned ++ lost, ?_, fun live => absurd abandons live⟩
      simpa [settled] using perm }

theorem Conserved.continueWith {applied}
    (h : Conserved [] applied.1) (live : ¬applied.1.phase.abandons) (next : α → Phase M.Error) :
    Conserved [] (Runner.continueWith applied next) := by
  obtain ⟨r, result⟩ := applied
  cases result with
  | none => exact h.dropped trivial
  | some result => exact h.withPhase live _

variable {admits : Runner M → M.Input → Prop} {executes : Executor M} {t : Runner M}
  {reply : ShutdownReply M.Error}

theorem Conserved.step
    {r} (h : Conserved [] r) (step : Step executes admits r t) : Conserved [] t := by
  -- every turn starts in a phase that abandons nothing
  have apply (cause : Cause M.Input) (input : M.Input) (none : cause.settles = none)
      (live : ¬r.phase.abandons) (next : Except M.Error Disposition → Phase M.Error)
      (lawful : (r.reduction cause input).Lawful) :
      Conserved [] (Runner.continueWith (r.applyInput cause input) next) := by
    have due : Conserved cause.settles.toList r := by simpa [none] using h
    refine (due.applyInputWithRole lawful _).continueWith ?_ next
    rwa [applyInputWithRole_phase]
  have finish {task : Task M.Effect} (member : task ∈ r.tasks) (joined : Joined M.Input)
      {force : Bool} (forced : force = r.phase.isFinalizing) (live : ¬r.phase.abandons)
      (next : Disposition → Phase M.Error) :
      Conserved [] (Runner.continueWith (r.finishEffect task.id joined force) next) := by
    refine (h.finishEffect member joined forced).continueWith ?_ next
    rwa [finishEffect_phase]
  cases step with
  | admitInput input running _ => exact apply _ _ rfl (by simp [running, abandons]) _ trivial
  | join task joined running _ member _ =>
    exact finish member joined (by simp [running, isFinalizing]) (by simp [running, abandons]) _
  | shutdown running => exact apply _ _ rfl (by simp [running, abandons]) _ trivial
  | drainJoin task joined draining member _ =>
    exact finish member joined (by simp [draining, isFinalizing]) (by simp [draining, abandons]) _
  | drained draining _ => exact h.withPhase (by simp [draining, abandons]) _
  | shutdownDeadline draining _ =>
    have aborted : Conserved [] r.abortOwned :=
      ⟨(map_cancelled r.tasks _ fun id effect => (id, M.correlation effect)).trans h.aligned,
        h.fresh, h.distinct, h.partition, h.lawful⟩
    exact aborted.withPhase (by simp [abortOwned, draining, abandons]) _
  | finalizerJoin task joined finalizing member _ =>
    exact finish member joined (by simp [finalizing, isFinalizing])
      (by simp [finalizing, abandons]) _
  | finalized finalizing _ => exact h.withPhase (by simp [finalizing, abandons]) _
  | finalizerDeadline finalizing _ => exact h.dropped rfl
  | abort => exact h.dropped trivial

theorem Conserved.run
    {r} (h : Conserved [] r) (run : Run executes admits r t) : Conserved [] t := by
  induction run with
  | refl => exact h
  | tail _ step ih => exact ih.step step

/-! ## The end of a run -/

/-- An actor that has returned or was unwound takes no further turn. -/
theorem Step.alive {r} (step : Step executes admits r t) :
    (∀ reply, r.phase ≠ .returned reply) ∧ ∀ failure, r.phase ≠ .failed failure := by
  cases step with
  | abort returned failed => exact ⟨returned, failed⟩
  | _ => simp [*]

theorem run_of_returned {r} (returned : r.phase = .returned reply)
    (run : Run executes admits r t) : t = r := by
  rcases Relation.ReflTransGen.cases_head run with rfl | ⟨_, step, _⟩
  · rfl
  · exact absurd returned (step.alive.1 reply)

theorem continueWith_phase_ne (applied : Runner M × Option α) (next : α → Phase M.Error)
    (stays : ∀ result, next result ≠ .returned reply) :
    (Runner.continueWith applied next).phase ≠ .returned reply := by
  obtain ⟨r, result⟩ := applied
  cases result with
  | none => simp [Runner.continueWith, fail]
  | some result => exact stays result

theorem Step.returned_idle {r} (step : Step executes admits r t)
    (returned : t.phase = .returned reply) : t.tasks = [] := by
  have goesOn {α : Type} {applied : Runner M × Option α} {next : α → Phase M.Error}
      (stays : ∀ result, next result ≠ .returned reply)
      (returned : (Runner.continueWith applied next).phase = .returned reply) :
      (Runner.continueWith applied next).tasks = [] :=
    absurd returned (continueWith_phase_ne applied next stays)
  cases step with
  | admitInput | join | shutdown | drainJoin | finalizerJoin => exact goesOn (by simp) returned
  | drained _ idle => exact idle
  | finalized _ idle => exact idle
  | shutdownDeadline => simp [exceedShutdownDeadline] at returned
  | finalizerDeadline => rfl
  | abort => rfl

theorem returned_owns_nothing {initial} (run : Run executes admits (.start initial) r)
    (returned : r.phase = .returned reply) : r.owned = [] := by
  have idle : r.tasks = [] := by
    cases run with
    | refl => rfl
    | tail _ step => exact step.returned_idle returned
  have aligned := ((conserved_start initial).run run).aligned
  simpa [idle] using aligned.symm

/-- The reducer calls that settle an effect. -/
def Runner.settlements (r : Runner M) (o : OwnedEffect) : List (Reduction M) :=
  r.reductions.filter (·.cause.settles == some o)

theorem settlements_length (r : Runner M) (o : OwnedEffect) :
    (r.settlements o).length = r.settled.count o := by
  simp [settlements, settled, count_filterMap, countP_eq_length_filter]

theorem Conserved.count_spawned (h : Conserved [] r)
    (spawned : o ∈ r.spawned) : r.spawned.count o = 1 :=
  count_eq_one_of_mem (Nodup.of_map _ h.distinct) spawned

/-- In every run of the actor an effect is settled by at most one reducer call,
with what its task returned exactly when that is current; a drain that ends
before its second deadline has settled every effect; and an actor that has
returned never calls the reducer again. -/
theorem settled_exactly_once {executes : Executor M} {admits : Runner M → M.Input → Prop}
    {initial : M.State} {r : Runner M} (run : Run executes admits (.start initial) r) :
    (r.spawned.map (·.task)).Nodup ∧ (∀ o ∈ r.spawned, (r.settlements o).length ≤ 1) ∧
    (∀ red ∈ r.reductions, red.Lawful ∧ ∀ o, red.cause.settles = some o → o ∈ r.spawned) ∧
    ∀ reply, r.phase = .returned reply →
      (reply.drain.terminal = .completed ∨
        reply.drain.terminal = .forced .shutdownDeadlineExceeded →
        ∀ o ∈ r.spawned, (r.settlements o).length = 1) ∧
      ∀ later, Run executes admits r later → later.reductions = r.reductions := by
  have kept := (conserved_start initial).run run
  obtain ⟨lost, perm, nothingLost⟩ := kept.partition
  refine ⟨kept.distinct, ?_, ?_, ?_⟩
  · intro o spawned
    have total := (perm.count_eq o).trans (kept.count_spawned spawned)
    rw [settlements_length]
    simp only [count_append] at total
    omega
  · intro red called
    refine ⟨kept.lawful red called, fun o settles => perm.subset ?_⟩
    have settled : o ∈ r.settled := mem_filterMap.mpr ⟨red, called, settles⟩
    simp [settled]
  · intro reply returned
    refine ⟨fun terminal o spawned => ?_, fun later rest => ?_⟩
    · have none : lost = [] := by
        rcases terminal with completed | forced <;> simp [abandons, *]
      have total := (perm.count_eq o).trans (kept.count_spawned spawned)
      rw [none, returned_owns_nothing run returned] at total
      rw [settlements_length]
      simpa using total
    · rw [run_of_returned returned rest]

end

/-! ## A run on a small machine -/

inductive JobState where
  | idle | working | closing | closed

inductive JobInput where
  | begin
  | finished (correlation : Correlation)
  | failed (correlation : Correlation) (failure : TaskFailure)
  | shutdown

inductive JobEffect where
  | work | cleanup

def JobEffect.correlation : JobEffect → Correlation
  | .work => ⟨"jobs", 0, "work", 0, 0⟩
  | .cleanup => ⟨"jobs", 0, "shutdown", 0, 0⟩

/-- One job, and a cleanup at shutdown that fails. -/
def jobs : Machine where
  State := JobState
  Input := JobInput
  Effect := JobEffect
  Error := Unit
  reduce := fun
    | .idle, .begin => some (.effectEmitting .working (.one .work))
    | .working, .finished _ => some (.committed .idle)
    | .closing, .finished _ => some (.failed .closed)
    | _, .shutdown => some (.effectEmitting .closing (.one .cleanup))
    | _, _ => some .retired
  inputCorrelation := fun
    | _, .finished correlation | _, .failed correlation _ => some correlation
    | _, _ => none
  effectIsCurrent := fun
    | .working, correlation => correlation = JobEffect.work.correlation
    | .closing, correlation => correlation = JobEffect.cleanup.correlation
    | _, _ => false
  taskFailed := .failed
  shutdown := .shutdown
  correlation := JobEffect.correlation
  mode := fun _ => .spawn

/-- A job's task returns its own completion. -/
def finishing : Executor jobs := fun effect _ input => input = .finished effect.correlation

/-- The job is running when the shutdown starts. -/
def closing : Runner jobs := ((start (M := jobs) .idle).admitInput JobInput.begin).applyShutdown

/-- The cleanup ends first. -/
def cleaned : Runner jobs :=
  closing.drainJoin (.ok .effectEmitting) ⟨.completed, none⟩ 1
    (.completed (JobInput.finished JobEffect.cleanup.correlation))

/-- Then the job ends. -/
def worked : Runner jobs :=
  cleaned.drainJoin (.ok .effectEmitting) ⟨.completed, some .failed⟩ 0
    (.completed (JobInput.finished JobEffect.work.correlation))

def overtaken : Runner jobs :=
  { worked with phase := .returned ⟨.ok .effectEmitting, ⟨.completed, some .retired⟩⟩ }

/-- A task that returns its own completion in the first window of the drain. -/
theorem step_finishing {r} {shutdown : Except Unit Disposition} {outcome} (task : Task JobEffect)
    (draining : r.phase = .draining shutdown outcome) (member : task ∈ r.tasks) :
    Step finishing (fun _ _ => True) r (r.drainJoin shutdown outcome task.id
    (.completed (JobInput.finished task.effect.correlation))) := by
  apply Step.drainJoin task _ draining member
  rfl

theorem run_closing : Run finishing (fun _ _ => True) (start JobState.idle) closing :=
  .tail (.tail .refl (.admitInput _ rfl trivial)) (.shutdown rfl)

theorem run_overtaken : Run finishing (fun _ _ => True) (start JobState.idle) overtaken := by
  have cleans : Step finishing (fun _ _ => True) closing cleaned :=
    step_finishing ⟨1, .cleanup, false⟩ rfl (.tail _ (.head _))
  have works : Step finishing (fun _ _ => True) cleaned worked :=
    step_finishing ⟨0, .work, false⟩ rfl (.head _)
  exact .tail (.tail (.tail run_closing cleans) works) (.drained rfl rfl)

theorem overtaken_settled_once :
    overtaken.spawned.length = 2 ∧ ∀ o ∈ overtaken.spawned, (overtaken.settlements o).length = 1 :=
  ⟨rfl, ((settled_exactly_once run_overtaken).2.2.2 _ rfl).1 (.inl rfl)⟩

end Mish.StateMachine
