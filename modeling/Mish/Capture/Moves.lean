import Mish.Capture.Machine
import Mish.StateMachine.Flight

/-!
# What the Capture machine waits for

Of a state only three things matter to the effects in flight: the revision of
its counters, the operation that is active, and the effect ids the stage
accepts. `reduce_admission` and `reduce_settlement` say what an input does to
them and which effect it launches.
-/

namespace Mish.Capture
open StateMachine

namespace CaptureEffect

/-- The effects that read or change the platform. -/
def isPlatform : CaptureEffect → Bool
  | .mutate .. | .observe .. | .audit .. | .recover .. | .finalize .. => true
  | .preflight .. | .commitAudit .. | .cancel _ | .shutdown .. => false

/-- The effect id of each kind of effect. -/
def ordinal : CaptureEffect → Nat
  | .preflight .. => preflightEffectId
  | .mutate .. => mutationEffectId
  | .observe .. => observationEffectId
  | .audit .. => auditEffectId
  | .commitAudit .. => auditCommitEffectId
  | .recover .. => recoveryEffectId
  | .finalize .. => finalizerEffectId
  | .cancel _ => 0
  | .shutdown .. => shutdownEffectId

end CaptureEffect

namespace CaptureMachine
variable {m : CaptureMachine} {effect : CaptureEffect} {operation : Correlation} {ids : List Nat}
  (stable : StableCapture) {base : StableCapture} {request : CaptureRequest}
  {operationPrefix : Option String} {mode : TransitionMode} {state : CaptureState}
  {transition : CaptureTransition} {current : ReconcilingCapture} {revision : Nat}
  {error : CaptureTransitionError} {token : CaptureOperation} {input : CaptureInput}
  {cancelled : Bool}

/-- The effect ids a state with an active operation accepts while it is
reconciling. -/
def reconcilingAwaits : List Nat := [preflightEffectId, observationEffectId, auditEffectId]

inductive Plan where
  | idle (revision : Nat)
  | waiting (operation : Correlation) (revision : Nat) (ids : List Nat)
  | gone

def plan : CaptureState → Plan
  | .stable state => .idle state.revision
  | .recoveryRequired state => .idle state.revision
  | .transitioning state =>
    .waiting state.operation.correlation state.stable.revision (TransitionStage.awaits state.stage)
  | .reconciling state =>
    .waiting state.operation.correlation state.stable.revision reconcilingAwaits
  | .shuttingDown _ | .retired _ => .gone

/-- What is launched for the operation when it comes to wait for `ids`. -/
def Launches (operation : Correlation) (ids : List Nat) (effects : List CaptureEffect) : Prop :=
  (ids = [] ∧ effects = []) ∨
  ∃ effect, effects = [effect] ∧ effect.ordinal ∈ ids ∧
    effect.correlation = operation.withEffect effect.ordinal

/-- A move of the machine: the plan before it, the plan after it, and what it
spawns. An operation that waits for nothing is one whose effect has just been
taken out of flight, or that is reserved. -/
inductive Moves : Plan → Plan → List CaptureEffect → Prop where
  | keeps (plan : Plan) : Moves plan plan []
  | begins {operation revision ids effects} : operation.admittedRevision = revision + 1 →
      operation.operationId ≠ "shutdown" → Launches operation ids effects →
      Moves (.idle revision) (.waiting operation (revision + 1) ids) effects
  | launches {operation revision ids effects} : Launches operation ids effects →
      Moves (.waiting operation revision []) (.waiting operation revision ids) effects
  | ends (operation : Correlation) (revision : Nat) :
      Moves (.waiting operation revision []) (.idle revision) []
  | rewinds (operation : Correlation) (revision : Nat) :
      Moves (.waiting operation (revision + 1) []) (.idle revision) []

/-- The effects a transition puts in flight. -/
def spawns (transition : CaptureTransition) : List CaptureEffect :=
  transition.effects.filter (CaptureEffect.mode · = .spawn)

/-- The move of a transition taken in `state` from the plan `before`. -/
def Moved (before : Plan) (state : CaptureState) (transition : CaptureTransition) : Prop :=
  Moves before (plan (transition.next state)) (spawns transition)

theorem Launches.one (awaited : effect.ordinal ∈ ids)
    (named : effect.correlation = operation.withEffect effect.ordinal) :
    Launches operation ids [effect] :=
  .inr ⟨effect, rfl, awaited, named⟩

/-! ## Operations -/

theorem operationId_ne_shutdown :
    (m.operationCorrelation stable operationPrefix revision).operationId ≠ "shutdown" := by
  intro same
  have chars := congrArg String.toList same
  cases operationPrefix with
  | none =>
    -- a number has digits only
    have digit : 's' ∈ Nat.toDigits 10 stable.nextOperationId := by
      rw [← Nat.toList_repr]
      exact chars ▸ by decide
    have isDigit := Nat.isDigit_of_mem_toDigits (by decide) (by decide) digit
    exact absurd isDigit (by decide)
  | some text =>
    have dash : '-' ∈ "shutdown".toList := by
      rw [← chars]
      simp [operationCorrelation]
    exact absurd dash (by decide)

/-- A new operation runs at the next revision, over the projection before it. -/
theorem operation_spec {stable operation}
    (h : m.operation base request mode operationPrefix = some (stable, operation)) :
    stable = ⟨base.lastError, base.projection, base.nextOperationId + 1, base.revision + 1⟩ ∧
      operation =
        { correlation := m.operationCorrelation base operationPrefix (base.revision + 1)
          mode
          pending := m.pendingProjection base.projection request (toString base.nextOperationId)
          publicPending :=
            m.pendingProjection base.projection request (toString base.nextOperationId)
          previous := base.projection
          publicOperationId := toString base.nextOperationId
          request } := by
  simp only [CaptureMachine.operation, checkedSucc, Option.bind_eq_bind, Option.bind_eq_some_iff,
    Option.ite_none_right_eq_some, Option.pure_def, Option.some.injEq, Prod.mk.injEq] at h
  obtain ⟨_, ⟨_, rfl⟩, _, ⟨_, rfl⟩, rfl, rfl⟩ := h
  exact ⟨rfl, rfl⟩

theorem base_cases (h : state.base = some base) : state = .stable base ∨ state = .recoveryRequired
    ⟨base.lastError, base.nextOperationId, base.projection, base.revision⟩ := by
  unfold CaptureState.base at h
  split at h
  · split at h
    · cases h
      exact .inl rfl
    · cases h
  · cases h
    exact .inr rfl
  · cases h

theorem base_projection (h : state.base = some base) : base.projection = state.projection := by
  obtain rfl | rfl := base_cases h <;> rfl

theorem plan_of_base (h : state.base = some base) : plan state = .idle base.revision := by
  obtain rfl | rfl := base_cases h <;> rfl

/-- An operation that is started from `base`. -/
theorem moves_begin {stable operation effects} (free : state.base = some base)
    (admitted : m.operation base request mode operationPrefix = some (stable, operation))
    (launched : Launches operation.correlation ids effects) :
    Moves (plan state) (.waiting operation.correlation stable.revision ids) effects := by
  obtain ⟨rfl, rfl⟩ := operation_spec admitted
  rw [plan_of_base free]
  exact .begins rfl (operationId_ne_shutdown _) launched

theorem plan_recovery (operation : ActiveOperation)
    (projection : CaptureRuntimeStatus) (error : CaptureTransitionError) :
    plan (recovery stable operation projection error) = .idle stable.revision := by
  unfold recovery
  split <;> rfl

/-! ## Transitions that end, start or continue an operation -/

theorem moved_endWith {stable active projection} :
    Moved (.waiting operation stable.revision []) state
    (endWith stable active projection error) := by
  unfold Moved endWith
  split
  · simp only [Transition.next, plan_recovery]
    exact .ends _ _
  · exact .ends _ _

theorem moved_finalizer {operation} :
    Moved (.waiting operation.correlation stable.revision []) state
    (finalizer stable operation error) :=
  .launches (.one (List.mem_singleton_self _) rfl)

theorem moved_rewound (h : rewound current = some transition) :
    Moved (.waiting operation current.stable.revision []) state transition := by
  simp only [rewound, Option.bind_eq_bind, Option.bind_eq_some_iff, Option.pure_def,
    Option.some.injEq] at h
  obtain ⟨nextOperationId, _, revision, previous, rfl⟩ := h
  cases counted : current.stable.revision with
  | zero => simp [counted, checkedPred] at previous
  | succ n =>
    rw [counted] at previous
    cases previous
    exact .rewinds _ _

/-! ## Admissions -/

/-- The inputs that callers of the runner send. -/
def isAdmission : CaptureInput → Bool
  | .preflight _ | .reserve .. | .start .. | .executeReserved .. | .failReserved ..
  | .markFinalizing .. | .audit .. | .recover .. => true
  | _ => false

/-- A failure reported for the operation that is published as finalizing: it
ends whatever is active, by name and not by correlation. -/
def Abandons (state : CaptureState) (input : CaptureInput) : Prop :=
  ∃ error token, input = .failReserved error token ∧ publishes state.projection token = true ∧
    state.projection.captureOperation.phase = .finalizing

theorem moved_preflight (h : m.preflight state request = some transition) :
    Moved (plan state) state transition := by
  cases state with
  | stable current | recoveryRequired current =>
    simp only [preflight, Option.bind_eq_bind, Option.bind_eq_some_iff] at h
    obtain ⟨base, free, h⟩ := h
    cases admitted : m.operation base request .ordinary (some "preflight") with
    | none =>
      rw [admitted] at h
      cases h
      exact .keeps _
    | some started =>
      obtain ⟨stable, operation⟩ := started
      rw [admitted] at h
      cases h
      have launched : Launches operation.correlation reconcilingAwaits
          [.preflight (operation.correlation.withEffect preflightEffectId) request] :=
        .one (.head _) rfl
      have begun := moves_begin free admitted launched
      exact begun
  | transitioning current =>
    simp only [preflight] at h
    split at h
    · rename_i reserved
      cases h
      simp only [Moved, plan, reserved.1]
      exact .launches (.one (List.mem_singleton_self _) rfl)
    · cases h
      exact .keeps _
  | reconciling current | shuttingDown current | retired current =>
    cases h
    exact .keeps _

theorem moved_reserve : Moved (plan state) state (m.reserve state request mode) := by
  unfold reserve
  split
  · exact .keeps _
  · rename_i stable operation started
    obtain ⟨base, free, admitted⟩ := Option.bind_eq_some_iff.mp started
    exact moves_begin free admitted (.inl ⟨rfl, rfl⟩)

theorem moved_start {coreHealthy preflight} : Moved (plan state) state
    (m.start state coreHealthy mode operationPrefix preflight request) := by
  unfold start
  split
  · exact .keeps _
  · rename_i stable operation started
    obtain ⟨base, free, admitted⟩ := Option.bind_eq_some_iff.mp started
    exact moves_begin free admitted (.one (.head _) rfl)

theorem moved_executeReserved {coreHealthy preflight} :
    Moved (plan state) state (executeReserved state coreHealthy token preflight request) := by
  unfold executeReserved
  split
  · rename_i current
    split
    · exact .keeps _
    · rename_i proceeds
      have reserved : current.stage = .reserved := by
        by_contra other
        exact proceeds (.inl other)
      simp only [Moved, plan, reserved]
      exact .launches (.one (.head _) rfl)
  · exact .keeps _

theorem moved_markFinalizing : Moved (plan state) state (markFinalizing state error token) := by
  unfold markFinalizing
  split
  all_goals first | exact .keeps _ | (split <;> exact .keeps _)

theorem moved_audit {coreHealthy reason} :
    Moved (plan state) state (m.audit state coreHealthy reason) := by
  unfold audit
  split
  · exact .keeps _
  · rename_i base free
    split
    · exact .keeps _
    · rename_i stable operation admitted
      have launched : Launches operation.correlation reconcilingAwaits
          [.audit coreHealthy (operation.correlation.withEffect auditEffectId)
            base.projection reason] :=
        .one (.tail _ (.tail _ (.head _))) rfl
      have begun := moves_begin free admitted launched
      exact begun

theorem moved_recover {action coreHealthy} :
    Moved (plan state) state (m.recover state action coreHealthy) := by
  unfold recover
  split
  · exact .keeps _
  · rename_i base free
    simp only
    split
    · exact .keeps _
    · rename_i stable operation admitted
      exact moves_begin free admitted (.one (.tail _ (.head _)) rfl)

theorem moved_failUnpublished : Moved (plan state) state (failUnpublished state error token) := by
  unfold failUnpublished
  split
  · split
    · exact .keeps _
    · split
      · split <;> exact .keeps _
      · rename_i reserved
        simp only [plan, reserved]
        exact moved_endWith
      · exact .keeps _
  · exact .keeps _

/-- The active operation is over and what it had in flight goes on. -/
def Abandoned (state : CaptureState) (transition : CaptureTransition) : Prop :=
  ∃ operation revision ids, plan state = .waiting operation revision ids ∧
    plan (transition.next state) = .idle revision ∧ spawns transition = []

/-- An operation that is active and published as finalizing is ended by name. -/
theorem abandoned_failReserved (abandons : Abandons state (.failReserved error token))
    (waits : plan state = .waiting operation revision ids) :
    Abandoned state (failReserved state error token) := by
  obtain ⟨_, _, same, published⟩ := abandons
  obtain ⟨rfl, rfl⟩ := CaptureInput.failReserved.inj same
  refine ⟨operation, revision, ids, waits, ?_⟩
  cases state with
  | transitioning current | reconciling current =>
    obtain ⟨rfl, rfl, rfl⟩ := Plan.waiting.inj waits
    simp only [failReserved, if_pos published, finalizingStable]
    split <;> exact ⟨rfl, rfl⟩
  | _ => cases waits

/-- Any other failure is a move. -/
theorem moved_failReserved (other : ¬Abandons state (.failReserved error token) ∨
    ∀ operation revision ids, plan state ≠ .waiting operation revision ids) :
    Moved (plan state) state (failReserved state error token) := by
  unfold failReserved
  simp only
  split
  · rename_i published
    have idle := other.resolve_left fun kept => kept ⟨error, token, rfl, published⟩
    cases state with
    | stable current =>
      simp only [finalizingStable]
      split <;> exact .keeps _
    | transitioning current | reconciling current => exact absurd rfl (idle _ _ _)
    | recoveryRequired current | shuttingDown current | retired current => exact .keeps _
  · cases state with
    | stable current | recoveryRequired current =>
      simp only [settledCounters]
      split
      · split <;> exact .keeps _
      · exact moved_failUnpublished
    | transitioning current | reconciling current | shuttingDown current | retired current =>
      exact moved_failUnpublished

theorem failReserved_cases : Moved (plan state) state (failReserved state error token) ∨
    (Abandons state (.failReserved error token) ∧
    Abandoned state (failReserved state error token)) := by
  by_cases abandons : Abandons state (.failReserved error token)
  · cases waits : plan state with
    | waiting operation revision ids =>
      exact .inr ⟨abandons, abandoned_failReserved abandons waits⟩
    | idle | gone =>
      rw [← waits]
      exact .inl (moved_failReserved (.inr (by simp [waits])))
  · exact .inl (moved_failReserved (.inl abandons))

/-- What an admission does: a move, or the end of an operation by its name. -/
theorem reduce_admission (admission : isAdmission input = true)
    (h : m.reduce state input = some transition) :
    Moved (plan state) state transition ∨ (Abandons state input ∧ Abandoned state transition) := by
  cases input with
  | preflight request => exact .inl (moved_preflight h)
  | reserve request mode =>
    cases h
    exact .inl moved_reserve
  | start =>
    cases h
    exact .inl moved_start
  | executeReserved =>
    cases h
    exact .inl moved_executeReserved
  | failReserved =>
    cases h
    exact failReserved_cases
  | markFinalizing =>
    cases h
    exact .inl moved_markFinalizing
  | audit =>
    cases h
    exact .inl moved_audit
  | recover =>
    cases h
    exact .inl moved_recover
  | _ => cases admission

/-! ## Settlements -/

/-- The effect the plan waits for is in flight under the operation's name. -/
structure Awaited (before : Plan) (operation : Correlation) (revision : Nat)
    (effect : CaptureEffect) : Prop where
  waits : ∃ ids, before = .waiting operation revision ids ∧ effect.ordinal ∈ ids
  named : effect.correlation = operation.withEffect effect.ordinal
  plain : operation.operationId ≠ "shutdown"

@[simp] theorem withEffect_effectId (operation : Correlation) (id : Nat) :
    (operation.withEffect id).effectId = id := rfl

theorem sameOperation_withEffect (operation : Correlation) (id : Nat) :
    operation.sameOperation (operation.withEffect id) = true := by
  simp [Correlation.sameOperation, Correlation.withEffect]

theorem matching_withEffect (operation : ActiveOperation) (id : Nat) :
    matching operation (operation.correlation.withEffect id) id = true := by
  simp [matching, sameOperation_withEffect]

theorem moved_interrupted (waits : plan state = .waiting operation revision ids) {id} :
    Moved (.waiting operation revision []) state
    (interrupted state (operation.withEffect id) error) := by
  cases state with
  | transitioning current =>
    obtain ⟨rfl, rfl, rfl⟩ := Plan.waiting.inj waits
    simp only [interrupted, sameOperation_withEffect, Bool.true_eq_false, if_false]
    split
    · split
      · exact moved_endWith
      · exact moved_finalizer _
    · exact moved_finalizer _
  | reconciling current =>
    obtain ⟨rfl, rfl, rfl⟩ := Plan.waiting.inj waits
    simp only [interrupted, sameOperation_withEffect, Bool.true_eq_false, if_false]
    exact moved_finalizer _
  | _ => cases waits

theorem moved_effectFinished {current expected request outcome} :
    Moved (.waiting current.operation.correlation current.stable.revision [])
    (.transitioning current)
    (effectFinished (.transitioning current) (current.operation.correlation.withEffect expected)
    expected request outcome) := by
  simp only [effectFinished, matching_withEffect, Bool.true_eq_false, if_false]
  split
  · exact .launches (.one (.tail _ (.head _)) rfl)
  · exact moved_endWith

theorem awaits_preflight {stage} :
    preflightEffectId ∈ TransitionStage.awaits stage ↔ stage = .preflighting := by
  cases stage <;> decide

theorem awaits_finalizer {stage} :
    finalizerEffectId ∈ TransitionStage.awaits stage ↔ stage = .finalizing := by
  cases stage <;> decide

theorem not_awaits_reconciling (stage : TransitionStage) :
    observationEffectId ∉ TransitionStage.awaits stage ∧
    auditEffectId ∉ TransitionStage.awaits stage ∧
    shutdownEffectId ∉ TransitionStage.awaits stage := by
  cases stage <;> decide

/-- A completion of the effect the operation waits for, while transitioning. -/
theorem moved_completion_transitioning {current}
    (awaited : effect.ordinal ∈ TransitionStage.awaits current.stage)
    (named : effect.correlation = current.operation.correlation.withEffect effect.ordinal)
    (executes : CaptureExecutes effect cancelled input)
    (h : m.reduce (.transitioning current) input = some transition) :
    Moved (.waiting current.operation.correlation current.stable.revision [])
    (.transitioning current) transition := by
  obtain ⟨noObservation, noAudit, noShutdown⟩ := not_awaits_reconciling current.stage
  cases executes with
  | preflight correlation request =>
    obtain rfl : correlation = .withEffect _ preflightEffectId := named
    have preflighting := awaits_preflight.mp awaited
    simp only [reduce, preflightFinished, preflighting, matching_withEffect, and_self,
      if_true] at h
    split at h
    · cases h
      exact moved_endWith
    · cases h
      exact .keeps _
  | mutate _ correlation | recover _ _ correlation =>
    cases h
    rw [show correlation = _ from named]
    exact moved_effectFinished
  | commitAudit correlation outcome =>
    obtain rfl : correlation = .withEffect _ auditCommitEffectId := named
    cases h
    simp only [auditCommitted, matching_withEffect, Bool.true_eq_false, if_false]
    split
    · simp only [Moved, Transition.next, plan_recovery]
      exact .ends _ _
    · split <;> exact .ends _ _
  | finalize coreHealthy correlation request =>
    obtain rfl : correlation = .withEffect _ finalizerEffectId := named
    cases h
    have finalizing := awaits_finalizer.mp awaited
    simp only [finalized, finalizing, matching_withEffect, ne_eq, not_true_eq_false,
      Bool.true_eq_false, or_self, if_false, Moved, Transition.next, plan_recovery]
    exact .ends _ _
  | cancelMutate _ correlation | cancelRecover _ _ correlation =>
    cases h
    rw [show correlation = _ from named]
    exact moved_interrupted rfl
  | observe | cancelObserve => exact absurd awaited noObservation
  | audit | cancelAudit => exact absurd awaited noAudit
  | shutdown => exact absurd awaited noShutdown

/-- A completion of the effect the operation waits for, while reconciling. -/
theorem moved_completion_reconciling (awaited : effect.ordinal ∈ reconcilingAwaits)
    (named : effect.correlation = current.operation.correlation.withEffect effect.ordinal)
    (executes : CaptureExecutes effect cancelled input)
    (h : m.reduce (.reconciling current) input = some transition) :
    Moved (.waiting current.operation.correlation current.stable.revision [])
    (.reconciling current) transition := by
  cases executes with
  | preflight correlation request =>
    obtain rfl : correlation = .withEffect _ preflightEffectId := named
    simp only [reduce, preflightFinished, matching_withEffect, if_true] at h
    exact moved_rewound h
  | observe coreHealthy correlation request =>
    obtain rfl : correlation = .withEffect _ observationEffectId := named
    cases h
    simp only [observationFinished, matching_withEffect, Bool.true_eq_false, if_false]
    split
    · exact .ends _ _
    · simp only [Moved, Transition.next, plan_recovery]
      exact .ends _ _
  | audit coreHealthy correlation previous reason cancelled outcome =>
    obtain rfl : correlation = .withEffect _ auditEffectId := named
    simp only [reduce, auditFinished, matching_withEffect, Bool.true_eq_false, if_false] at h
    split at h
    · exact moved_rewound h
    · cases h
      exact .launches (.one (.tail _ (.tail _ (.head _))) rfl)
  | cancelObserve _ correlation | cancelAudit _ correlation =>
    cases h
    rw [show correlation = _ from named]
    exact moved_interrupted rfl
  | mutate | recover | commitAudit | finalize | shutdown | cancelMutate | cancelRecover =>
    simp only [CaptureEffect.ordinal] at awaited
    exact absurd awaited (by decide)

/-- What the settlement of the awaited effect does, once the effect is out of
flight. -/
theorem reduce_awaited (awaited : Awaited (plan state) operation revision effect)
    (settles : Settles (M := m.machine) CaptureExecutes state effect input)
    (h : m.reduce state input = some transition) :
    Moved (.waiting operation revision []) state transition := by
  obtain ⟨⟨ids, waits, member⟩, named, plain⟩ := awaited
  rcases settles with ⟨cancelled, executes, _⟩ | ⟨failure, rfl⟩
  · cases state with
    | transitioning current =>
      obtain ⟨rfl, rfl, rfl⟩ := Plan.waiting.inj waits
      exact moved_completion_transitioning member named executes h
    | reconciling current =>
      obtain ⟨rfl, rfl, rfl⟩ := Plan.waiting.inj waits
      exact moved_completion_reconciling member named executes h
    | _ => cases waits
  · cases h
    have ordinary : ¬(operation.withEffect effect.ordinal).operationId = "shutdown" := plain
    simp only [taskFailed, named, if_neg ordinary]
    exact moved_interrupted waits

/-- No operation is active but that of `operation`. -/
def Foreign (operation : Correlation) : Plan → Prop
  | .idle _ => True
  | .waiting active _ _ => active.sameOperation operation = false
  | .gone => False

/-- What is left over from another operation is retired. -/
theorem reduce_foreign (foreign : Foreign effect.correlation (plan state))
    (settles : Settles (M := m.machine) CaptureExecutes state effect input)
    (h : m.reduce state input = some transition) : transition = .retired := by
  have stale : effectIsCurrent state effect.correlation = false := by
    cases state with
    | transitioning current | reconciling current =>
      have other : current.operation.correlation.sameOperation effect.correlation = false := foreign
      simp [effectIsCurrent, other]
    | stable _ | recoveryRequired _ => rfl
    | _ => exact absurd foreign id
  rcases settles with ⟨cancelled, executes, _, current⟩ | ⟨failure, rfl⟩
  · have accepted : effectIsCurrent state effect.correlation = true := current
    rw [stale] at accepted
    cases accepted
  · cases h
    have interrupted_retired :
        interrupted state effect.correlation (taskFailureError failure) = .retired := by
      cases state with
      | transitioning current | reconciling current =>
        have other : current.operation.correlation.sameOperation effect.correlation = false :=
          foreign
        simp [interrupted, other]
      | stable _ | recoveryRequired _ | shuttingDown _ | retired _ => rfl
    unfold taskFailed
    split
    · cases state with
      | shuttingDown _ => exact absurd foreign id
      | _ => rfl
    · exact interrupted_retired

/-! ## After a shutdown -/

theorem gone_taskFailed (gone : plan state = .gone) {correlation failure} :
    plan ((taskFailed state correlation failure).next state) = .gone := by
  cases state with
  | shuttingDown current =>
    unfold taskFailed
    split
    · simp only
      split <;> rfl
    · rfl
  | retired current =>
    unfold taskFailed
    split <;> rfl
  | _ => cases gone

theorem gone_shutdownFinished (gone : plan state = .gone) {correlation result} :
    plan ((shutdownFinished state correlation result).next state) = .gone := by
  cases state with
  | shuttingDown current =>
    unfold shutdownFinished
    simp only
    split
    · rfl
    · split <;> rfl
  | retired current => rfl
  | _ => cases gone

theorem reduce_gone (gone : plan state = .gone)
    (settles : Settles (M := m.machine) CaptureExecutes state effect input)
    (h : m.reduce state input = some transition) : plan (transition.next state) = .gone := by
  rcases settles with ⟨cancelled, executes, _⟩ | ⟨failure, rfl⟩
  · cases executes with
    | shutdown =>
      cases h
      exact gone_shutdownFinished gone
    | _ =>
      -- every other completion belongs to an operation and is retired
      cases state with
      | shuttingDown _ | retired _ =>
        cases h
        rfl
      | _ => cases gone
  · cases h
    exact gone_taskFailed gone

end CaptureMachine

end Mish.Capture
