import Mish.Capture.Course

/-!
# What the calls of the reconciler leave behind

`reconcile` and `audit` find the actor at rest and leave it so, or gone. A
`reconcile` that switches capture off and succeeds leaves it off; one that does
not ask for capture, and any audit, leaves it off where it was.
-/

namespace Mish.Capture
open Interaction StateMachine
open SystemProxy (Fallible)

namespace CaptureReconciler
open CaptureMachine CaptureEffectAdapter
variable {m : CaptureMachine} {σ τ : Type}

/-- An actor in the course of the operation named, or gone during it. -/
structure Sound (c : CaptureEffectAdapter) (allowed : CaptureSelection → Prop) (off held : Prop)
    (named : Correlation) (d : Live m σ τ) : Prop where
  conserved : Conserved [] d.runner
  plain : named.operationId ≠ "shutdown"
  course : d.runner.phase = .running →
    Course c allowed off held named d.runner.state d.runner.inFlight d.worlds
  outlook : Outlook c allowed off held named d.runner.state d.worlds

/-- No operation is active, unless the actor has gone during one. -/
structure Idle (d : Live m σ τ) : Prop where
  conserved : Conserved [] d.runner
  atRest : d.runner.phase = .running → d.runner.inFlight = [] ∧
    ((∃ current, d.runner.state = .stable current) ∨
      ∃ current, d.runner.state = .recoveryRequired current)

/-- Capture is neither wanted nor on, as published and in the backends. -/
def Live.Off (c : CaptureEffectAdapter) (allowed : CaptureSelection → Prop) (d : Live m σ τ) :
    Prop :=
  Calm allowed d.runner.state.projection ∧ c.Quiet d.worlds

/-- Nothing has changed but, perhaps, that the actor has gone. -/
def Live.Same (d t : Live m σ τ) : Prop := t.runner.state = d.runner.state ∧ t.worlds = d.worlds

section
variable {c : CaptureEffectAdapter} {services : SystemProxy.Behaviour σ} {network : Tun.Behaviour τ}
  {allowed : CaptureSelection → Prop} {off held : Prop} {named : Correlation} {d t : Live m σ τ}
  {state : CaptureState} {w : Worlds σ τ} {effects : List CaptureEffect} {effect : CaptureEffect}
  {req : CaptureRequest} {transition : CaptureTransition} {input : CaptureInput}
  {token : CaptureOperation}

theorem Live.Same.keeps_off (same : d.Same t) (h : d.Off c allowed) : t.Off c allowed := by
  unfold Live.Off
  rw [same.1, same.2]
  exact h

/-! ## Ticks -/

/-- What happens on its own is a turn of the actor. -/
theorem tick_step {admits : Runner m.machine → CaptureInput → Prop} (h : Conserved [] d.runner)
    (spawned : ∀ effect ∈ d.runner.inFlight, effect.mode = .spawn)
    (tick : Tick c services network d t) : Step CaptureExecutes admits d.runner t.runner := by
  have aborts (running : d.runner.phase = .running) :
      Step CaptureExecutes admits d.runner (d.runner.fail .cancelled) := by
    apply Step.abort
    · simp [running]
    · simp [running]
  cases tick with
  | join task joined running member run ends =>
    have owns : d.runner.owned ≠ [] := by
      obtain ⟨o, found⟩ := h.find_owned member
      exact List.ne_nil_of_mem (List.mem_of_find?_eq_some found)
    refine .join task joined running owns member ?_
    cases joined with
    | panicked | aborted => trivial
    | completed input =>
      rcases ends with rfl | ⟨cancelled, gives⟩
      · exact execute_refines (spawned _ (List.mem_map_of_mem member)) _ run
      · simp only [Executor.Ends, cancelled]
        cases effect : task.effect <;> rw [effect] at gives <;> cases gives <;> constructor
  | abort running => exact aborts running
  | abortTask task running _ _ => exact aborts running

theorem Course.spawned (h : Course c allowed off held named state effects w) :
    ∀ effect ∈ effects, effect.mode = .spawn := by
  cases h with
  | stable | recoveryRequired => simp
  | mutating | observing | auditing | committing | finalizing =>
    intro effect member
    obtain rfl := List.mem_singleton.mp member
    rfl

theorem Course.single (h : Course c allowed off held named state effects w)
    (listed : effect ∈ effects) : effects = [effect] := by
  cases h with
  | stable | recoveryRequired => cases listed
  | mutating | observing | auditing | committing | finalizing =>
    rw [List.mem_singleton.mp listed]

/-- An operation with an effect in flight is active. -/
theorem Course.busy
    (h : Course c allowed off held named state [effect] w) : state.activeOperation ≠ none := by
  cases h <;> exact Option.some_ne_none _

/-- An actor that is gone in the middle of an effect. -/
theorem Sound.gone {task : StateMachine.Task CaptureEffect} {rest : Effectful CaptureInput}
    (h : Sound c allowed off held named d) (running : d.runner.phase = .running)
    (member : task ∈ d.runner.tasks)
    (run : Exec (backends services network) (c.execute task.effect) d.worlds rest t.worlds)
    (kept : Conserved [] t.runner) (dead : t.runner.phase ≠ .running)
    (same : t.runner.state = d.runner.state) : Sound c allowed off held named t := by
  have course := h.course running
  rw [course.single (List.mem_map_of_mem member)] at course
  refine ⟨kept, h.plain, fun live => absurd live dead, ?_, ?_⟩
  · rw [same]
    exact h.outlook.active
  · rw [same]
    intro yes was
    have was : held := was.resolve_right fun ended => course.busy ended.1
    exact ⟨(h.outlook.calm yes (.inl was)).1, course.kept run yes was⟩

theorem Sound.tick (h : Sound c allowed off held named d) (tick : Tick c services network d t) :
    Sound c allowed off held named t := by
  have running : d.runner.phase = .running := by cases tick <;> assumption
  have course := h.course running
  have turn : Step CaptureExecutes (fun _ _ => True) d.runner t.runner :=
    tick_step h.conserved course.spawned tick
  have kept := h.conserved.step turn
  cases tick with
  | abort _ => exact ⟨kept, h.plain, (by cases ·), h.outlook⟩
  | abortTask task _ member run => exact h.gone running member run kept (by cases ·) rfl
  | @join task joined rest worlds _ member run ends =>
    cases finished : (d.runner.finishEffect task.id joined false).2 with
    | none =>
      have unwound : d.runner.join task.id joined =
          (d.runner.finishEffect task.id joined false).1.fail .panicked := by
        simp only [Runner.join, Runner.continueWith, finished]
      refine h.gone running member run kept ?_ ?_
      · rw [unwound]
        simp [Runner.fail]
      · rw [unwound]
        exact finishEffect_of_panic finished
    | some disposition =>
      rw [course.single (List.mem_map_of_mem member)] at course
      have ended : Executor.Ends (M := m.machine) (fun _ _ input => joined = .completed input)
          task joined := by
        cases joined with
        | completed input => rfl
        | panicked | aborted => trivial
      obtain ⟨input, transition, settles, reduces, state, inFlight⟩ :=
        finishEffect_moves h.conserved member ended finished
      have next := course.settled h.plain run ends settles reduces
      have none : (d.runner.without task.id).inFlight = [] := by
        have split := inFlight_without h.conserved member
        rw [(h.course running).single (List.mem_map_of_mem member)] at split
        simpa using split.length_eq
      have goesOn : Course c allowed off held named (d.runner.join task.id joined).state
          (d.runner.join task.id joined).inFlight worlds := by
        simp only [Runner.join, Runner.continueWith, finished, Runner.inFlight]
        rw [state]
        rw [none, List.nil_append] at inFlight
        rw [Runner.inFlight] at inFlight
        rw [inFlight]
        exact next
      exact ⟨kept, h.plain, fun _ => goesOn, goesOn.outlook⟩

theorem Sound.ticks (h : Sound c allowed off held named d) (ticks : Ticks c services network d t) :
    Sound c allowed off held named t := by
  induction ticks with
  | refl => exact h
  | tail _ tick ih => exact ih.tick tick

/-- At rest there is nothing to wait for: only the actor may go. -/
theorem Idle.ticks (h : Idle d) (ticks : Ticks c services network d t) : Idle t ∧ d.Same t := by
  induction ticks with
  | refl => exact ⟨h, rfl, rfl⟩
  | @tail u v _ tick ih =>
    obtain ⟨idle, state, worlds⟩ := ih
    have vacant {task : StateMachine.Task CaptureEffect} (running : u.runner.phase = .running)
        (member : task ∈ u.runner.tasks) : False := by
      have listed : task.effect ∈ u.runner.inFlight := List.mem_map_of_mem member
      rw [(idle.atRest running).1] at listed
      cases listed
    have turn : Step CaptureExecutes (fun _ _ => True) u.runner v.runner := by
      refine tick_step idle.conserved ?_ tick
      have running : u.runner.phase = .running := by cases tick <;> assumption
      simp [(idle.atRest running).1]
    have kept := idle.conserved.step turn
    cases tick with
    | abort _ => exact ⟨⟨kept, fun live => nomatch live⟩, state, worlds⟩
    | abortTask task running member => exact (vacant running member).elim
    | join task _ running member => exact (vacant running member).elim

/-! ## Admissions -/

/-- An operation that does not ask for capture is published without it. -/
theorem calm_pendingProjection {projection} (calm : Calm allowed projection)
    (inactive : req.active = false) (chosen : allowed req.selection) {id} :
    Calm allowed (m.pendingProjection projection req id) := by
  obtain ⟨⟨unwanted, disabled⟩, tunUnwanted, tunOff, _⟩ := calm
  refine ⟨⟨?_, disabled⟩, ?_, tunOff, chosen⟩
  · simp only [pendingProjection, inactive, Bool.false_and]
    split
    · rfl
    · exact unwanted
  · simp only [pendingProjection, inactive, Bool.false_and]
    split
    · rfl
    · exact tunUnwanted

/-- What an admission does to a machine at rest: nothing, or it opens the course
of an operation. -/
def Opens (c : CaptureEffectAdapter) (allowed : CaptureSelection → Prop) (off held : Prop)
    (state : CaptureState) (w : Worlds σ τ) (transition : CaptureTransition) : Prop :=
  (transition.next state = state ∧ spawns transition = []) ∨
  ∃ operation : ActiveOperation, operation.correlation.operationId ≠ "shutdown" ∧
    (transition.next state).activeOperation = some operation ∧
    transition.admission = .ok .effectEmitting ∧
    Course c allowed off held operation.correlation (transition.next state) (spawns transition) w

theorem start_opens (coreHealthy : Bool) (asks : off → req.active = false ∧ allowed req.selection)
    (before : off → held → Calm allowed state.projection ∧ c.Quiet w) :
    Opens c allowed off held state w (m.start state coreHealthy .ordinary none none req) := by
  unfold start
  split
  · exact .inl ⟨rfl, rfl⟩
  · rename_i stable operation started
    obtain ⟨base, free, admitted⟩ := Option.bind_eq_some_iff.mp started
    obtain ⟨-, rfl⟩ := operation_spec admitted
    refine .inr ⟨_, operationId_ne_shutdown _, rfl, rfl, .mutating rfl rfl fun yes => ?_⟩
    obtain ⟨inactive, chosen⟩ := asks yes
    have calm (was : held) : Calm allowed base.projection := by
      rw [base_projection free]
      exact (before yes was).1
    exact ⟨inactive, chosen, fun was => calm_pendingProjection (calm was) inactive chosen, calm,
      fun was => (before yes was).2⟩

theorem audit_opens (coreHealthy : Bool)
    (reason : CaptureAuditReason) (before : off → Calm allowed state.projection ∧ c.Quiet w) :
    Opens c allowed off True state w (m.audit state coreHealthy reason) := by
  unfold CaptureMachine.audit
  split
  · exact .inl ⟨rfl, rfl⟩
  · rename_i base free
    split
    · exact .inl ⟨rfl, rfl⟩
    · rename_i stable operation admitted
      obtain ⟨-, rfl⟩ := operation_spec admitted
      refine .inr ⟨_, operationId_ne_shutdown _, rfl, rfl, .auditing rfl rfl fun yes => ?_⟩
      have calm : Calm allowed base.projection := by
        rw [base_projection free]
        exact (before yes).1
      have inactive : (standingRequest base.projection).active = false := by
        simp [standingRequest, calm.systemProxy.1, calm.tunUnwanted]
      exact ⟨trivial, ⟨inactive, calm.selection, fun _ => calm, fun _ => calm,
        fun _ => (before yes).2⟩, calm_pendingProjection calm inactive calm.selection⟩

/-- What the caller of an admission is told, by the transition. -/
theorem admission_of_reduce {r : Runner m.machine} (h : m.reduce r.state input = some transition) :
    admission r input = match transition.admission with
      | .error error => .error error
      | .ok _ => .ok (transition.next r.state) := by
  obtain ⟨moved, applied⟩ := applyInputWithRole_moved (M := m.machine) h .admission .operation
  simp only [admission, Runner.applyInput, applied]
  cases transition.admission with
  | error => rfl
  | ok => exact congrArg Except.ok moved.state

theorem Idle.operation_none (h : Idle d) (running : d.runner.phase = .running) :
    d.runner.state.operation = none := by
  rcases (h.atRest running).2 with ⟨current, same⟩ | ⟨current, same⟩ <;> rw [same] <;> rfl

/-- An admission at rest is refused, changes nothing, or opens an operation. -/
theorem safe_admitInput {post : Fallible CaptureState → Live m σ τ → Prop} (idle : Idle d)
    (reduces : m.reduce d.runner.state input = some transition)
    (opens : Opens c allowed off held d.runner.state d.worlds transition)
    (refused : ∀ error t, Idle t → d.Same t → post (.error error) t) (unchanged : ∀ t, Idle t →
    d.Same t → t.runner.state.operation = none → post (.ok t.runner.state) t)
    (opened : ∀ t operation, t.runner.state.activeOperation = some operation →
    Sound c allowed off held operation.correlation t → post (.ok t.runner.state) t) :
    Safe (live c services network) (fun _ _ => True) post (call (.admitInput input)) d := by
  refine ⟨trivial, ?_⟩
  rintro reply t ⟨d', ticks, answers⟩
  obtain ⟨rest, same, worlds⟩ := idle.ticks ticks
  rcases answers with ⟨rfl, rfl⟩ | ⟨running, rfl, rfl⟩
  · exact refused _ _ rest ⟨same, worlds⟩
  · rw [← same] at reduces opens
    rw [← worlds] at opens
    obtain ⟨goesOn, state, inFlight⟩ := admitInput_of_reduce (M := m.machine) reduces
    have turn : Step CaptureExecutes (fun _ _ => True) d'.runner (d'.runner.admitInput input) :=
      .admitInput input running trivial
    have kept := rest.conserved.step turn
    rw [(rest.atRest running).1, List.nil_append] at inFlight
    rw [admission_of_reduce reduces]
    rcases opens with ⟨stays, none⟩ | ⟨operation, plain, active, accepted, course⟩
    · have state : (d'.runner.admitInput input).state = d'.runner.state := state.trans stays
      have idle' : Idle (⟨d'.runner.admitInput input, d'.worlds⟩) := by
        refine ⟨kept, fun _ => ⟨inFlight.trans none, ?_⟩⟩
        have at_ := (rest.atRest running).2
        rw [← state] at at_
        exact at_
      cases transition.admission with
      | error error => exact refused error _ idle' ⟨state.trans same, worlds⟩
      | ok disposition =>
        rw [stays, ← state]
        exact unchanged _ idle' ⟨state.trans same, worlds⟩ (idle'.operation_none goesOn)
    · have sound : Sound c allowed off held operation.correlation
          (⟨d'.runner.admitInput input, d'.worlds⟩) := by
        have course : Course c allowed off held operation.correlation
            (d'.runner.admitInput input).state (d'.runner.admitInput input).inFlight d'.worlds := by
          rw [state, inFlight]
          exact course
        exact ⟨kept, plain, fun _ => course, course.outlook⟩
      rw [accepted, ← state]
      exact opened _ operation (by rw [state]; exact active) sound

/-! ## Whole calls -/

theorem safe_live {α : Type} {r} {f : Reply r → Operation α} {post}
    (next : ∀ a d' t, Ticks c services network d d' → Answers d' r a t →
    Safe (live c services network) (fun _ _ => True) post (f a) t) :
    Safe (live c services network) (fun _ _ => True) post (call r >>= f) d :=
  safe_request_bind.mpr ⟨trivial, fun a t ⟨d', ticks, answers⟩ => next a d' t ticks answers⟩

/-- What a call that returned `result` leaves behind. -/
def Leaves (c : CaptureEffectAdapter) (allowed : CaptureSelection → Prop) (off held : Prop)
    (result : Fallible CaptureRuntimeStatus) (t : Live m σ τ) : Prop :=
  Idle t ∧ (off → held ∨ (∃ status, result = .ok status) → t.Off c allowed)

theorem Sound.idle (h : Sound c allowed off held named d) (same : token.correlation = named)
    (ended : d.runner.state.activeOperation.any token.names = false) :
    Idle d ∧ d.runner.state.activeOperation = none := by
  have inactive : d.runner.state.activeOperation = none := by
    cases active : d.runner.state.activeOperation with
    | none => rfl
    | some operation =>
      rw [active] at ended
      simp [CaptureOperation.names, same, h.outlook.active operation active,
        Correlation.sameOperation] at ended
  refine ⟨⟨h.conserved, fun running => ?_⟩, inactive⟩
  have course := h.course running
  revert inactive course
  generalize d.runner.state = state
  generalize d.runner.inFlight = effects
  intro inactive course
  cases course with
  | stable => exact ⟨rfl, .inl ⟨_, rfl⟩⟩
  | recoveryRequired => exact ⟨rfl, .inr ⟨_, rfl⟩⟩
  | _ => cases inactive

theorem waitForOperation_leaves
    (h : Sound c allowed off held named d) (same : token.correlation = named) :
    Safe (live c services network) (fun _ _ => True) (Leaves c allowed off held)
    (waitForOperation token) d := by
  refine safe_live fun reply d' t ticks answers => ?_
  have sound := h.ticks ticks
  cases reply with
  | none =>
    obtain ⟨dead, rfl⟩ := answers
    refine ⟨⟨sound.conserved, fun live => absurd live dead⟩, fun yes ended => ?_⟩
    have was : held := by simpa using ended
    exact sound.outlook.calm yes (.inl was)
  | some state =>
    obtain ⟨rfl, ended, rfl⟩ := answers
    obtain ⟨idle, inactive⟩ := sound.idle same ended
    simp only
    cases failure : t.runner.state.lastError with
    | some error =>
      refine ⟨idle, fun yes ended => ?_⟩
      have was : held := by simpa using ended
      exact sound.outlook.calm yes (.inl was)
    | none => exact ⟨idle, fun yes _ => sound.outlook.calm yes (.inr ⟨inactive, failure⟩)⟩

theorem operation_of_active {operation} (h : state.activeOperation = some operation) :
    state.operation = some operation.publicOperation := by
  simp [CaptureState.operation, h]

/-- A request that does not ask for capture leaves it off where it was, and
wherever it succeeds. -/
theorem reconcile_leaves (coreHealthy : Bool) (idle : Idle d)
    (asks : off → req.active = false ∧ allowed req.selection)
    (before : off → held → d.Off c allowed) :
    Safe (live c services network) (fun _ _ => True) (Leaves c allowed off held)
    (reconcile req coreHealthy) d := by
  have failed {t : Live m σ τ} (error : CaptureTransitionError) (rest : Idle t)
      (calm : off → held → t.Off c allowed) : Leaves c allowed off held (.error error) t :=
    ⟨rest, fun yes was => calm yes (by simpa using was)⟩
  refine safe_live fun switching d' t ticks answers => ?_
  obtain rfl : t = d' := answers
  obtain ⟨rest, same⟩ := idle.ticks ticks
  have calm (yes : off) (was : held) : t.Off c allowed := same.keeps_off (before yes was)
  cases switching with
  | true => exact failed _ rest calm
  | false =>
    simp only [Bool.false_eq_true, if_false]
    unfold startAndWait
    rw [safe_bind]
    refine safe_admitInput rest rfl (start_opens coreHealthy asks calm) ?_ ?_ ?_
    · intro error u restU same
      exact failed error restU fun yes was => same.keeps_off (calm yes was)
    · intro u restU same none
      simp only [none]
      exact failed _ restU fun yes was => same.keeps_off (calm yes was)
    · intro u operation active sound
      simp only [operation_of_active active]
      exact waitForOperation_leaves sound rfl

theorem status_reads (idle : Idle d) : Safe (live c services network) (fun _ _ => True)
    (fun shown t => Idle t ∧ d.Same t ∧ shown = d.runner.state.projection) status d := by
  refine safe_live fun state d' t ticks answers => ?_
  obtain ⟨rfl, rfl⟩ := answers
  obtain ⟨rest, same⟩ := idle.ticks ticks
  exact ⟨rest, same, congrArg CaptureState.projection same.1⟩

/-- Audits leave capture off where it was. -/
theorem audit_leaves (reason : CaptureAuditReason) (coreHealthy : Bool) (idle : Idle d)
    (before : off → d.Off c allowed) : Safe (live c services network) (fun _ _ => True)
    (fun _ t => Idle t ∧ (off → t.Off c allowed)) (audit reason coreHealthy) d := by
  have reads {u : Live m σ τ} (rest : Idle u) (calm : off → u.Off c allowed) :
      Safe (live c services network) (fun _ _ => True) (fun _ t => Idle t ∧ (off → t.Off c allowed))
        (do return .ok (← status) : Operation (Fallible CaptureRuntimeStatus)) u :=
    (status_reads rest).bind fun _ _ h => ⟨h.1, fun yes => h.2.1.keeps_off (calm yes)⟩
  refine safe_live fun switching d' t ticks answers => ?_
  obtain rfl : t = d' := answers
  obtain ⟨rest, same⟩ := idle.ticks ticks
  have calm (yes : off) : t.Off c allowed := same.keeps_off (before yes)
  cases switching with
  | true => exact reads rest calm
  | false =>
    refine safe_bind.mpr (safe_live fun state d' u ticks answers => ?_)
    obtain ⟨rfl, rfl⟩ := answers
    obtain ⟨restU, same⟩ := rest.ticks ticks
    have calm (yes : off) : u.Off c allowed := same.keeps_off (calm yes)
    simp only [safe_pure, safe_ite]
    refine ⟨fun _ => reads restU calm, fun _ => ?_⟩
    unfold auditAdmitted
    rw [safe_bind]
    refine safe_admitInput restU rfl (audit_opens coreHealthy reason calm) ?_ ?_ ?_
    · intro error v restV same
      exact ⟨restV, fun yes => same.keeps_off (calm yes)⟩
    · intro v restV same none
      simp only [none]
      exact ⟨restV, fun yes => same.keeps_off (calm yes)⟩
    · intro v operation active sound
      simp only [operation_of_active active]
      exact (waitForOperation_leaves sound rfl).mono fun _ _ h =>
        ⟨h.1, fun yes => h.2 yes (.inl trivial)⟩

end

end CaptureReconciler

end Mish.Capture
