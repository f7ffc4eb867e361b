import Mish.Capture.CaptureReconciler
import Mish.Capture.Moves
import Mish.Capture.Quiet

/-!
# The course of an operation

With no caller but `reconcile` and `audit` an operation is a fixed sequence of
effects, one at a time: it mutates and observes, or audits and commits, and is
finalized where an effect ends without a result. What it publishes at its end is
calm if it switched capture off, or if capture was off and it did not ask for it.
-/

namespace Mish.Capture
open Interaction StateMachine CaptureMachine
open SystemProxy (Fallible)

theorem Calm.withOperation {allowed status}
    (h : Calm allowed status) (operation : CaptureOperationStatus) :
    Calm allowed { status with captureOperation := operation } :=
  ⟨h.systemProxy, h.tunUnwanted, h.tunOff, h.selection⟩

namespace CaptureReconciler
open CaptureEffectAdapter
variable {m : CaptureMachine} {σ τ : Type}

/-- What is known of an operation that does not ask for capture. Where capture
was off when it began (`held`), it stays so. -/
structure Carries (c : CaptureEffectAdapter) (allowed : CaptureSelection → Prop) (held : Prop)
    (operation : ActiveOperation) (w : Worlds σ τ) : Prop where
  inactive : operation.request.active = false
  chosen : allowed operation.request.selection
  pending : held → Calm allowed operation.pending
  previous : held → Calm allowed operation.previous
  quiet : held → c.Quiet w

/-- The states of the machine with the effect in flight and the backends, while
no operation is active or the one named is. `off` says that the operation does
not ask for capture. -/
inductive Course (c : CaptureEffectAdapter) (allowed : CaptureSelection → Prop) (off held : Prop)
    (named : Correlation) : CaptureState → List CaptureEffect → Worlds σ τ → Prop where
  | stable {current w} :
      (off → held ∨ current.lastError = none → Calm allowed current.projection ∧ c.Quiet w) →
      Course c allowed off held named (.stable current) [] w
  | recoveryRequired {current w} :
      (off → held ∨ current.error = none → Calm allowed current.projection ∧ c.Quiet w) →
      Course c allowed off held named (.recoveryRequired current) [] w
  | mutating {operation stable coreHealthy preflight w} : operation.correlation = named →
      operation.mode = .ordinary → (off → Carries c allowed held operation w) →
      Course c allowed off held named (.transitioning ⟨none, operation, stable, .mutating⟩)
        [.mutate coreHealthy (operation.correlation.withEffect mutationEffectId) preflight
          operation.previous operation.request] w
  | observing {operation stable w} : operation.correlation = named → operation.mode = .ordinary →
      (off → Carries c allowed held operation w ∧ c.Quiet w) →
      Course c allowed off held named (.reconciling ⟨operation, stable⟩)
        [.observe true (operation.correlation.withEffect observationEffectId) operation.request] w
  | auditing {operation stable coreHealthy reason w} : operation.correlation = named →
      operation.mode = .ordinary →
      (off → held ∧ Carries c allowed held operation w ∧ Calm allowed operation.publicPending) →
      Course c allowed off held named (.reconciling ⟨operation, stable⟩)
        [.audit coreHealthy (operation.correlation.withEffect auditEffectId) operation.previous
          reason] w
  | committing {operation stable outcome w} :
      operation.correlation = named → operation.mode = .ordinary →
      (off → held ∧ Carries c allowed held operation w ∧ Calm allowed outcome.status) →
      Course c allowed off held named (.transitioning ⟨none, operation, stable, .mutating⟩)
        [.commitAudit (operation.correlation.withEffect auditCommitEffectId) outcome] w
  | finalizing {operation stable w} : operation.correlation = named → operation.mode = .ordinary →
      (off → Carries c allowed held operation w) →
      Course c allowed off held named (.transitioning ⟨none, operation, stable, .finalizing⟩)
        [.finalize false (operation.correlation.withEffect finalizerEffectId)
          operation.request] w

section
variable {c : CaptureEffectAdapter} {allowed : CaptureSelection → Prop} {off held : Prop}
  {named : Correlation} {operation : ActiveOperation} {w t : Worlds σ τ}
  {projection : CaptureRuntimeStatus} {stable : StableCapture} {services : SystemProxy.Behaviour σ}
  {network : Tun.Behaviour τ} {state : CaptureState} {effect : CaptureEffect}
  {rest : Effectful CaptureInput} {input : CaptureInput} {transition : CaptureTransition}

theorem Carries.worlds (h : Carries c allowed held operation w) (quiet : held → c.Quiet t) :
    Carries c allowed held operation t :=
  ⟨h.inactive, h.chosen, h.pending, h.previous, quiet⟩

theorem Carries.finalizing (h : Carries c allowed held operation w) (failure : CaptureFailureKind) :
    Carries c allowed held (finalizingOperation operation failure) w :=
  ⟨h.inactive, h.chosen, fun yes => (h.pending yes).withOperation _, h.previous, h.quiet⟩

/-- A failed end publishes no more than what was calm before. -/
theorem course_recovery (error : CaptureTransitionError) (ordinary : operation.mode = .ordinary)
    (calm : off → held → Calm allowed projection ∧ c.Quiet w) :
    Course c allowed off held named (recovery stable operation projection error) [] w := by
  simp only [recovery, ordinary, reduceCtorEq, if_false]
  refine .recoveryRequired fun yes ended => ?_
  have was : held := by simpa using ended
  exact ⟨(calm yes was).1.withOperation _, (calm yes was).2⟩

theorem course_failed (error : CaptureTransitionError)
    (calm : off → held → Calm allowed projection ∧ c.Quiet w) :
    Course c allowed off held named (failed stable operation projection error) [] w := by
  refine .stable fun yes ended => ?_
  have was : held := by simpa using ended
  exact ⟨(calm yes was).1.withOperation _, (calm yes was).2⟩

theorem course_endWith (error : CaptureTransitionError) (ordinary : operation.mode = .ordinary)
    (calm : off → held → Calm allowed projection ∧ c.Quiet w) :
    Course c allowed off held named ((endWith stable operation projection error).next state)
    (spawns (endWith stable operation projection error)) w := by
  unfold endWith
  split
  · exact course_recovery error ordinary calm
  · exact course_failed error calm

/-- A successful end publishes what the outcome says. -/
theorem course_finish {phase} (ended : phase = .applied ∨ phase = .recoveryRequired)
    (calm : off → Calm allowed projection ∧ c.Quiet w) :
    Course c allowed off held named (finish stable operation projection phase) [] w := by
  rcases ended with rfl | rfl
  · exact .stable fun yes _ => ⟨(calm yes).1.withOperation _, (calm yes).2⟩
  · exact .recoveryRequired fun yes _ => ⟨(calm yes).1.withOperation _, (calm yes).2⟩

theorem course_finalizer (error : CaptureTransitionError) (same : operation.correlation = named)
    (ordinary : operation.mode = .ordinary) (carries : off → Carries c allowed held operation w) :
    Course c allowed off held named ((finalizer stable operation error).next state)
    (spawns (finalizer stable operation error)) w :=
  .finalizing same ordinary fun yes => (carries yes).finalizing _

/-! ## What the effect in flight does -/

theorem quiet_of_exec {α : Type} {p rest : Effectful α} {post}
    (safe : Quietly services network post p w)
    (h : c.Quiet w) (run : Exec (backends services network) p w rest t) : c.Quiet t :=
  safe.invariant (fun _ _ _ _ => quiet_kept) h run

theorem execute_mutate_off {preflight req previous correlation coreHealthy}
    (inactive : req.active = false) (chosen : allowed req.selection)
    (before : held → c.Quiet w ∧ Calm allowed previous) :
    Safe (backends services network) (fun _ r => held → WritesQuiet r)
    (fun input t => ∃ outcome, input = .mutationFinished correlation outcome ∧
    (held ∨ outcome.error = none → c.Quiet t ∧ Calm allowed outcome.status))
    (c.execute (.mutate coreHealthy correlation preflight previous req)) w :=
  (mutateOutcome_off coreHealthy preflight inactive chosen before).bind
    fun outcome _ ended => ⟨outcome, rfl, ended⟩

/-- An effect that returns the outcome of a quiet program. -/
theorem returns_quiet {α : Type} {p : Effectful α} {status : α → CaptureRuntimeStatus}
    {f : α → CaptureInput}
    (safe : Quietly services network (fun a t => c.Quiet t ∧ Calm allowed (status a)) p w) :
    Quietly services network (fun input t => ∃ a, input = f a ∧ c.Quiet t ∧ Calm allowed (status a))
      (do return f (← p)) w :=
  safe.bind fun a _ ended => ⟨a, rfl, ended⟩

/-- However far the effect in flight gets, backends that were quiet stay so. -/
theorem Course.kept (h : Course c allowed off held named state [effect] w)
    (run : Exec (backends services network) (c.execute effect) w rest t) (yes : off) (was : held) :
    c.Quiet t := by
  cases h with
  | mutating _ _ carries =>
    obtain ⟨inactive, chosen, _, previous, quiet⟩ := carries yes
    exact (execute_mutate_off inactive chosen fun was => ⟨quiet was, previous was⟩).invariant
      (fun _ _ _ _ => quiet_kept_if) quiet run was
  | observing _ _ carries =>
    obtain ⟨carried, quiet⟩ := carries yes
    exact quiet_of_exec (returns_quiet (observeOutcome_quiet _ carried.chosen quiet)) quiet run
  | auditing _ _ carries =>
    obtain ⟨_, carried, _⟩ := carries yes
    exact quiet_of_exec (returns_quiet (auditOutcome_quiet (carried.previous was).selection
      (carried.quiet was))) (carried.quiet was) run
  | committing _ _ carries =>
    obtain ⟨_, carried, _⟩ := carries yes
    cases run
    exact carried.quiet was
  | finalizing _ _ carries =>
    obtain ⟨_, chosen, _, _, quiet⟩ := carries yes
    exact quiet_of_exec (returns_quiet (observeOutcome_quiet _ chosen (quiet was))) (quiet was) run

/-- An effect that ends without a result is followed by the finalizer. -/
theorem Course.interrupted (h : Course c allowed off held named state [effect] w)
    (error : CaptureTransitionError) (kept : off → held → c.Quiet t) :
    Course c allowed off held named ((interrupted state effect.correlation error).next state)
    (spawns (interrupted state effect.correlation error)) t := by
  cases h with
  | mutating same ordinary carries | finalizing same ordinary carries =>
    simp only [interrupted, CaptureEffect.correlation, sameOperation_withEffect]
    exact course_finalizer error same ordinary fun yes => (carries yes).worlds (kept yes)
  | observing same ordinary carries =>
    simp only [interrupted, CaptureEffect.correlation, sameOperation_withEffect]
    exact course_finalizer error same ordinary fun yes => (carries yes).1.worlds (kept yes)
  | auditing same ordinary carries | committing same ordinary carries =>
    simp only [interrupted, CaptureEffect.correlation, sameOperation_withEffect]
    exact course_finalizer error same ordinary fun yes => (carries yes).2.1.worlds (kept yes)

/-- A task that runs to its end returns what its executor may return. -/
theorem execute_refines (spawned : effect.mode = .spawn) (cancelled : Bool)
    (run : Exec (backends services network) (c.execute effect) w (.done input) t) :
    CaptureExecutes effect cancelled input := by
  have returns {α : Type} {p : Effectful α} {f : α → CaptureInput}
      (lawful : ∀ a, CaptureExecutes effect cancelled (f a)) :
      Safe (backends services network) (fun _ _ => True)
        (fun input _ => CaptureExecutes effect cancelled input) (do return f (← p)) w :=
    (safe_of_allowed fun _ _ => trivial).bind fun a _ _ => lawful a
  suffices safe : Safe (backends services network) (fun _ _ => True)
      (fun input _ => CaptureExecutes effect cancelled input) (c.execute effect) w from
    safe.result run
  cases effect with
  | preflight => exact returns fun _ => .preflight ..
  | mutate => exact returns fun _ => .mutate ..
  | observe => exact returns fun _ => .observe ..
  | audit => exact returns fun _ => .audit ..
  | commitAudit => exact CaptureExecutes.commitAudit ..
  | recover => exact returns fun _ => .recover ..
  | finalize => exact returns fun _ => .finalize ..
  | shutdown => exact returns fun _ => .shutdown ..
  | cancel => cases spawned

/-- The effect in flight ran to its end, and its result is reduced. -/
theorem Course.completed (h : Course c allowed off held named state [effect] w)
    (run : Exec (backends services network) (c.execute effect) w (.done input) t)
    (reduces : m.reduce state input = some transition) :
    Course c allowed off held named (transition.next state) (spawns transition) t := by
  have kept := h.kept run
  cases h with
  | @mutating operation stable coreHealthy preflight _ same ordinary carries =>
    cases execute_refines rfl false run with
    | mutate _ _ _ _ _ _ outcome =>
    cases reduces
    have ended (yes : off) : held ∨ outcome.error = none →
        c.Quiet t ∧ Calm allowed outcome.status := by
      obtain ⟨inactive, chosen, _, previous, quiet⟩ := carries yes
      obtain ⟨_, ⟨⟩, ended⟩ :=
        (execute_mutate_off inactive chosen fun was => ⟨quiet was, previous was⟩).result run
      exact ended
    simp only [mutationFinished, effectFinished, matching_withEffect, Bool.true_eq_false, if_false]
    cases failure : outcome.error with
    | none =>
      have quiet (yes : off) : c.Quiet t := (ended yes (.inr failure)).1
      exact .observing same ordinary fun yes => ⟨(carries yes).worlds (kept yes), quiet yes⟩
    | some error =>
      exact course_endWith error ordinary fun yes was =>
        ⟨(ended yes (.inl was)).2, (ended yes (.inl was)).1⟩
  | @observing operation stable _ same ordinary carries =>
    cases execute_refines rfl false run with
    | observe _ _ _ _ outcome =>
    cases reduces
    have ended (yes : off) : c.Quiet t ∧ Calm allowed outcome.status := by
      obtain ⟨carried, quiet⟩ := carries yes
      obtain ⟨_, ⟨⟩, ended⟩ := (returns_quiet (observeOutcome_quiet _ carried.chosen quiet)).result run
      exact ended
    simp only [observationFinished, matching_withEffect, Bool.true_eq_false, if_false]
    cases outcome.error with
    | none => exact course_finish (.inl rfl) fun yes => (ended yes).symm
    | some error => exact course_recovery error ordinary fun yes _ => (ended yes).symm
  | @auditing operation stable coreHealthy reason _ same ordinary carries =>
    cases execute_refines rfl false run with
    | audit _ _ _ _ _ outcome =>
    have ended (yes : off) : c.Quiet t ∧ Calm allowed outcome.status := by
      obtain ⟨was, carried, _⟩ := carries yes
      obtain ⟨_, ⟨⟩, ended⟩ := (returns_quiet (auditOutcome_quiet (carried.previous was).selection
        (carried.quiet was))).result run
      exact ended
    simp only [reduce, auditFinished, matching_withEffect, Bool.true_eq_false, if_false] at reduces
    split at reduces
    · -- nothing changed: the operation leaves no trace
      simp only [rewound, Option.bind_eq_bind, Option.bind_eq_some_iff, Option.pure_def,
        Option.some.injEq] at reduces
      obtain ⟨_, _, _, _, rfl⟩ := reduces
      exact .stable fun yes _ => ⟨(carries yes).2.1.previous (carries yes).1, (ended yes).1⟩
    · cases reduces
      refine .committing same ordinary fun yes => ?_
      obtain ⟨was, carried, pending⟩ := carries yes
      exact ⟨was, ⟨carried.inactive, carried.chosen, fun _ => pending, carried.previous, kept yes⟩,
        (ended yes).2⟩
  | @committing operation stable outcome _ same ordinary carries =>
    cases run
    cases reduces
    have calm (yes : off) : Calm allowed outcome.status ∧ c.Quiet w :=
      ⟨(carries yes).2.2, (carries yes).2.1.quiet (carries yes).1⟩
    simp only [auditCommitted, matching_withEffect, Bool.true_eq_false, if_false]
    cases outcome.error with
    | some error => exact course_recovery error ordinary fun yes _ => calm yes
    | none =>
      simp only
      split
      · exact course_finish (.inr rfl) calm
      · exact course_finish (.inl rfl) calm
  | @finalizing operation stable _ same ordinary carries =>
    cases execute_refines rfl false run with
    | finalize _ _ _ _ outcome =>
    cases reduces
    have ended (yes : off) (was : held) : c.Quiet t ∧ Calm allowed outcome.status := by
      obtain ⟨_, chosen, _, _, quiet⟩ := carries yes
      obtain ⟨_, ⟨⟩, ended⟩ := (returns_quiet (observeOutcome_quiet _ chosen (quiet was))).result run
      exact ended
    simp only [finalized, matching_withEffect, ne_eq, not_true_eq_false, Bool.true_eq_false,
      or_false, if_false]
    exact course_recovery _ ordinary fun yes was => (ended yes was).symm

theorem Course.gaveUp (h : Course c allowed off held named state [effect] w)
    (gives : CaptureReconciler.gaveUp effect = some input) :
    input = .taskCancelled effect.correlation := by
  cases h with
  | mutating | observing | auditing => exact (Option.some.inj gives).symm
  | _ => cases gives

theorem Course.operationId (h : Course c allowed off held named state [effect] w) :
    effect.correlation.operationId = named.operationId := by
  cases h with
  | mutating same | observing same | auditing same | committing same | finalizing same =>
    rw [← same]
    rfl

theorem Course.settled {task joined} (h : Course c allowed off held named state [task.effect] w)
    (plain : named.operationId ≠ "shutdown")
    (run : Exec (backends services network) (c.execute task.effect) w rest t)
    (ends : Ends task rest joined)
    (settles : Settles (M := m.machine) (fun _ _ input => joined = .completed input) state
    task.effect input)
    (reduces : m.reduce state input = some transition) :
    Course c allowed off held named (transition.next state) (spawns transition) t := by
  have kept := h.kept run
  rcases settles with ⟨_, rfl, _⟩ | ⟨failure, rfl⟩
  · rcases ends with rfl | ⟨_, gives⟩
    · exact h.completed run reduces
    · obtain rfl := h.gaveUp gives
      cases reduces
      exact h.interrupted cancelledError kept
  · cases reduces
    have ordinary : task.effect.correlation.operationId ≠ "shutdown" := by
      rw [h.operationId]
      exact plain
    simp only [taskFailed, ordinary, if_false]
    exact h.interrupted _ kept

/-! ## Runs of the actor -/

/-- What a state says of the operation, whether the actor lives or not. -/
structure Outlook (c : CaptureEffectAdapter) (allowed : CaptureSelection → Prop) (off held : Prop)
    (named : Correlation) (state : CaptureState) (w : Worlds σ τ) : Prop where
  active : ∀ operation, state.activeOperation = some operation → operation.correlation = named
  calm : off → held ∨ (state.activeOperation = none ∧ state.lastError = none) →
    Calm allowed state.projection ∧ c.Quiet w

theorem Course.outlook {effects} (h : Course c allowed off held named state effects w) :
    Outlook c allowed off held named state w := by
  have busy {operation : ActiveOperation} {state : CaptureState}
      (active : state.activeOperation = some operation) (same : operation.correlation = named)
      (shown : state.projection = operation.pending)
      (carries : off → Carries c allowed held operation w) :
      Outlook c allowed off held named state w := by
    refine ⟨?_, fun yes was => ?_⟩
    · intro other found
      obtain rfl := Option.some.inj (active.symm.trans found)
      exact same
    · have was : held := by simpa [active] using was
      rw [shown]
      exact ⟨(carries yes).pending was, (carries yes).quiet was⟩
  cases h with
  | stable calm | recoveryRequired calm =>
    refine ⟨fun _ found => ?_, fun yes was => calm yes (was.imp_right fun ended => ended.2)⟩
    cases found
  | mutating same _ carries | finalizing same _ carries => exact busy rfl same rfl carries
  | observing same _ carries => exact busy rfl same rfl fun yes => (carries yes).1
  | auditing same _ carries | committing same _ carries =>
    exact busy rfl same rfl fun yes => (carries yes).2.1

end

end CaptureReconciler

end Mish.Capture
