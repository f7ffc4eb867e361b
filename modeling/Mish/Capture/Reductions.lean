import Mish.Capture.SingleFlight

/-!
# Runs of the Capture reducer

The machine is fed any sequence of inputs, whatever the effects in flight are. `Turned`
is what one call of the reducer does.
-/

namespace Mish.Capture
open StateMachine Option

namespace CaptureMachine
variable {m : CaptureMachine} {s t : CaptureState} {input : CaptureInput}
  {transition : CaptureTransition} {status : CaptureRuntimeStatus}

/-! ## What a call of the reducer does -/

/-- The operation at work, and the counters kept for it. -/
def held : CaptureState → Option (ActiveOperation × StableCapture)
  | .transitioning current => some (current.operation, current.stable)
  | .reconciling current => some (current.operation, current.stable)
  | _ => none

/-- `status` as it is published when `operation` has been observed. -/
def observedAs (operation : ActiveOperation) (status : CaptureRuntimeStatus) :
    CaptureRuntimeStatus :=
  terminal operation status none .applied

/-- The observation of the operation at work succeeds, or an audit of it is
committed without an error and without drift, and that status is published. -/
inductive Confirms (s : CaptureState) : CaptureInput → CaptureState → Prop where
  | observed {operation outcome t} : s.activeOperation = some operation → outcome.error = none →
      t.projection = observedAs operation outcome.status →
      Confirms s (.observationFinished (operation.correlation.withEffect observationEffectId)
        outcome) t
  | audited {operation outcome t} : s.activeOperation = some operation → outcome.error = none →
      outcome.status.systemProxy.phase ≠ .drift → outcome.status.tun.phase ≠ .drift →
      t.projection = observedAs operation outcome.status →
      Confirms s (.auditCommitted (operation.correlation.withEffect auditCommitEffectId) outcome) t

/-- The inputs that put the projection before the operation back. -/
def restores : CaptureInput → Bool
  | .shutdown | .preflightFinished _ => true
  | .auditFinished _ outcome => !(outcome.mutated || outcome.error.isSome)
  | _ => false

/-- What a call of the reducer makes of `s`. -/
inductive Turned (m : CaptureMachine) (s : CaptureState) (input : CaptureInput) :
    CaptureState → Prop where
  | stays : Turned m s input s
  | begins {base stable operation o request mode operationPrefix t} : s.base = some base →
      m.operation base request mode operationPrefix = some (stable, operation) →
      held t = some (o, stable) → o.previous = operation.previous →
      o.publicPending = operation.publicPending →
      o.pending = operation.pending ∨ o.pending = operation.previous → Turned m s input t
  | continues {stable o o' t} :
      held s = some (o, stable) → held t = some (o', stable) → o'.previous = o.previous →
      o'.publicPending = o.publicPending →
      (o'.pending = o.pending ∨ o'.pending = o.publicPending ∨
        o'.pending.captureOperation.phase = .finalizing) → Turned m s input t
  | ends {t : CaptureState} : held t = none →
      (t.projection.captureOperation.phase ≠ .applied ∨
        t.base = none ∧ t.projection = s.projection) → Turned m s input t
  | confirms {t : CaptureState} : held t = none → Confirms s input t → Turned m s input t
  | restores {t : CaptureState} : held t = none → restores input = true →
      t.projection = s.confirmedProjection → (t.base = none ∨ (held s).isSome = true) →
      Turned m s input t
  | carries {correlation t} : held t = none → t.base = none →
      input = .shutdownFinished correlation (.ok t.projection) → Turned m s input t

section
variable (stable : StableCapture) (operation : ActiveOperation)
  (projection : CaptureRuntimeStatus) (error : CaptureTransitionError)
include stable operation projection error

theorem turned_recovery : Turned m s input (recovery stable operation projection error) := by
  unfold recovery
  split <;> exact .ends rfl (.inl nofun)

theorem turned_endWith : Turned m s input ((endWith stable operation projection error).next s) := by
  unfold endWith
  split
  · exact turned_recovery _ _ _ _
  · refine .ends rfl (.inl ?_)
    simp only [Transition.next, failed, CaptureState.projection, terminal]
    split <;> simp

end

variable {operation : ActiveOperation} {stable : StableCapture} {current : ReconcilingCapture}
  {request : CaptureRequest} (correlation : Correlation) (error : CaptureTransitionError)

theorem turned_finalizer (working : held s = some (operation, stable)) {error} :
    Turned m s input ((finalizer stable operation error).next s) :=
  .continues working rfl rfl rfl (.inr (.inr rfl))

theorem eq_withEffect_of_matching {correlation effectId}
    (h : matching operation correlation effectId = true) :
    correlation = operation.correlation.withEffect effectId := by
  simp only [matching, Correlation.sameOperation, Bool.and_eq_true, beq_iff_eq] at h
  cases correlation
  simp_all [Correlation.withEffect]

theorem turned_rewound (putsBack : restores input = true) (h : rewound current = some transition) :
    Turned m (.reconciling current) input (transition.next (.reconciling current)) := by
  simp only [rewound, bind_eq_bind, bind_eq_some_iff, pure_def,
    some.injEq] at h
  obtain ⟨_, _, _, _, rfl⟩ := h
  exact .restores rfl putsBack rfl (.inr rfl)

/-! ### Admissions -/

theorem turned_preflight
    (h : m.preflight s request = some transition) : Turned m s input (transition.next s) := by
  cases s with
  | stable current | recoveryRequired current =>
    simp only [preflight, bind_eq_bind, bind_eq_some_iff] at h
    obtain ⟨base, free, h⟩ := h
    cases admitted : m.operation base request .ordinary (some "preflight") with
    | none =>
      rw [admitted] at h
      cases h
      exact .stays
    | some started =>
      rw [admitted] at h
      cases h
      exact .begins free admitted rfl rfl rfl (.inr rfl)
  | transitioning current =>
    simp only [preflight] at h
    split at h
    · cases h
      exact .continues rfl rfl rfl rfl (.inl rfl)
    · cases h
      exact .stays
  | reconciling current | shuttingDown current | retired current =>
    cases h
    exact .stays

theorem turned_reserve {mode} : Turned m s input ((m.reserve s request mode).next s) := by
  unfold reserve
  split
  · exact .stays
  · rename_i admitted
    obtain ⟨base, free, admitted⟩ := bind_eq_some_iff.mp admitted
    exact .begins free admitted rfl rfl rfl (.inl rfl)

theorem turned_start {coreHealthy mode operationPrefix preflight} :
    Turned m s input ((m.start s coreHealthy mode operationPrefix preflight request).next s) := by
  unfold start
  split
  · exact .stays
  · rename_i admitted
    obtain ⟨base, free, admitted⟩ := bind_eq_some_iff.mp admitted
    exact .begins free admitted rfl rfl rfl (.inl rfl)

theorem turned_executeReserved {coreHealthy token preflight} :
    Turned m s input ((executeReserved s coreHealthy token preflight request).next s) := by
  unfold executeReserved
  split
  · split
    · exact .stays
    · exact .continues rfl rfl rfl rfl (.inl rfl)
  · exact .stays

theorem turned_failUnpublished (token : CaptureOperation) :
    Turned m s input ((failUnpublished s error token).next s) := by
  unfold failUnpublished
  split
  · split
    · exact .stays
    · split
      · split
        · exact .stays
        · exact .continues rfl rfl rfl rfl (.inl rfl)
      · exact turned_endWith _ _ _ _
      · exact .stays
  · exact .stays

theorem turned_failReserved {token} : Turned m s input ((failReserved s error token).next s) := by
  unfold failReserved
  dsimp only
  split
  · split
    · exact .stays
    · split <;> exact .ends rfl (.inl nofun)
  · split
    · exact turned_failUnpublished error token
    · split
      · split <;> exact .ends rfl (.inl nofun)
      · exact turned_failUnpublished error token

theorem turned_markFinalizing {token} :
    Turned m s input ((markFinalizing s error token).next s) := by
  unfold markFinalizing
  split
  · split
    · exact .continues rfl rfl rfl rfl (.inr (.inr rfl))
    · exact .stays
  · split
    · exact .continues rfl rfl rfl rfl (.inr (.inr rfl))
    · exact .stays
  · split
    · rename_i finalizing
      refine .ends rfl (.inl ?_)
      simp only [Transition.next, CaptureState.projection, finalizing.2]
      simp
    · exact .stays
  · exact .stays

theorem turned_audit {coreHealthy reason} :
    Turned m s input ((m.audit s coreHealthy reason).next s) := by
  unfold audit
  split
  · exact .stays
  · rename_i base free
    split
    · exact .stays
    · rename_i admitted
      exact .begins free admitted rfl rfl rfl (.inr rfl)

theorem turned_recover {action coreHealthy} :
    Turned m s input ((m.recover s action coreHealthy).next s) := by
  unfold recover
  split
  · exact .stays
  · rename_i base free
    dsimp only
    split
    · exact .stays
    · rename_i admitted
      exact .begins free admitted rfl rfl rfl (.inl rfl)

/-! ### Completions -/

theorem turned_preflightFinished {correlation}
    (h : preflightFinished s correlation = some transition) :
    Turned m s (.preflightFinished correlation) (transition.next s) := by
  unfold preflightFinished at h
  split at h
  · split at h
    · exact turned_rewound rfl h
    · cases h
      exact .stays
  · split at h
    · split at h <;> cases h
      · exact turned_endWith _ _ _ _
      · exact .continues rfl rfl rfl rfl (.inl rfl)
    · cases h
      exact .stays
  · cases h
    exact .stays

theorem turned_effectFinished {expected request outcome} :
    Turned m s input ((effectFinished s correlation expected request outcome).next s) := by
  unfold effectFinished
  split
  · split
    · exact .stays
    · split
      · exact .continues rfl rfl rfl rfl (.inl rfl)
      · exact turned_endWith _ _ _ _
  · exact .stays

theorem turned_observationFinished {outcome} : Turned m s (.observationFinished correlation outcome)
    ((observationFinished s correlation outcome).next s) := by
  unfold observationFinished
  split
  · split
    · exact .stays
    · rename_i current unmatched
      obtain rfl := eq_withEffect_of_matching (Bool.of_not_eq_false unmatched)
      split
      · rename_i clean
        exact .confirms rfl (.observed rfl clean rfl)
      · exact turned_recovery _ _ _ _
  · exact .stays

theorem turned_auditFinished {correlation outcome}
    (h : auditFinished s correlation outcome = some transition) :
    Turned m s (.auditFinished correlation outcome) (transition.next s) := by
  unfold auditFinished at h
  split at h
  · split at h
    · cases h
      exact .stays
    · split at h
      · rename_i clean
        exact turned_rewound clean h
      · cases h
        exact .continues rfl rfl rfl rfl (.inr (.inl rfl))
  · cases h
    exact .stays

theorem turned_auditCommitted {outcome} : Turned m s (.auditCommitted correlation outcome)
    ((auditCommitted s correlation outcome).next s) := by
  unfold auditCommitted
  split
  · split
    · exact .stays
    · rename_i current unmatched
      obtain rfl := eq_withEffect_of_matching (Bool.of_not_eq_false unmatched)
      split
      · exact turned_recovery _ _ _ _
      · rename_i clean
        split
        · exact .ends rfl (.inl nofun)
        · rename_i steady
          obtain ⟨proxy, tun⟩ := not_or.mp steady
          exact .confirms rfl (.audited rfl clean proxy tun rfl)
  · exact .stays

theorem turned_interrupted : Turned m s input ((interrupted s correlation error).next s) := by
  unfold interrupted
  split
  · split
    · exact .stays
    · split
      · split
        · exact turned_endWith _ _ _ _
        · exact turned_finalizer rfl
      · exact turned_finalizer rfl
  · split
    · exact .stays
    · exact turned_finalizer rfl
  · exact .stays

theorem turned_taskFailed {failure} :
    Turned m s input ((taskFailed s correlation failure).next s) := by
  unfold taskFailed
  split
  · split
    · split
      · exact .stays
      · exact .ends rfl (.inr ⟨rfl, rfl⟩)
    · exact .stays
  · exact turned_interrupted _ _

theorem turned_finalized {outcome} :
    Turned m s input ((finalized s correlation outcome).next s) := by
  unfold finalized
  split
  · split
    · exact .stays
    · exact turned_recovery _ _ _ _
  · exact .stays

theorem turned_shutdownFinished {result} : Turned m s (.shutdownFinished correlation result)
    ((shutdownFinished s correlation result).next s) := by
  unfold shutdownFinished
  split
  · split
    · exact .stays
    · split
      · exact .carries rfl rfl rfl
      · exact .ends rfl (.inr ⟨rfl, rfl⟩)
  · exact .stays

theorem reduce_turned (h : m.reduce s input = some transition) :
    Turned m s input (transition.next s) := by
  cases input with
  | preflight request => exact turned_preflight h
  | preflightFinished correlation => exact turned_preflightFinished h
  | auditFinished correlation outcome => exact turned_auditFinished h
  | reserve => cases h; exact turned_reserve
  | start => cases h; exact turned_start
  | executeReserved => cases h; exact turned_executeReserved
  | failReserved => cases h; exact turned_failReserved _
  | markFinalizing => cases h; exact turned_markFinalizing _
  | mutationFinished => cases h; exact turned_effectFinished _
  | recoveryFinished => cases h; exact turned_effectFinished _
  | observationFinished => cases h; exact turned_observationFinished _
  | audit => cases h; exact turned_audit
  | auditCommitted => cases h; exact turned_auditCommitted _
  | recover => cases h; exact turned_recover
  | taskFailed => cases h; exact turned_taskFailed _
  | taskCancelled => cases h; exact turned_interrupted _ _
  | finalized => cases h; exact turned_finalized _
  | shutdown => cases h; exact .restores rfl rfl rfl (.inl rfl)
  | shutdownFinished => cases h; exact turned_shutdownFinished _

/-! ## Histories -/

/-- A call of the reducer that returned. -/
structure Turn where
  before : CaptureState
  input : CaptureInput
  after : CaptureState

/-- The calls made from the first state on, the last one first, and the state they
lead to. -/
inductive History (m : CaptureMachine) (status : CaptureRuntimeStatus) :
    List Turn → CaptureState → Prop where
  | start : History m status [] (m.initial status)
  | turn {turns s} (input : CaptureInput) (transition : CaptureTransition) :
      History m status turns s →
      m.reduce s input = some transition →
      History m status (⟨s, input, transition.next s⟩ :: turns) (transition.next s)

/-! ## Panics -/

/-- The counters kept for an operation have been raised for it. -/
def Counted (s : CaptureState) : Prop :=
  ∀ operation stable, held s = some (operation, stable) →
    0 < stable.nextOperationId ∧ 0 < stable.revision

theorem Counted.turned (h : Counted s) (turned : Turned m s input t) : Counted t := by
  intro operation stable working
  cases turned with
  | stays => exact h operation stable working
  | begins _ admitted started =>
    rw [started] at working
    cases working
    obtain ⟨rfl, -⟩ := operation_spec admitted
    exact ⟨Nat.succ_pos _, Nat.succ_pos _⟩
  | continues atWork stillAtWork =>
    rw [stillAtWork] at working
    cases working
    exact h _ stable atWork
  | ends rest | confirms rest | restores rest | carries rest =>
    rw [rest] at working
    cases working

variable {turns : List Turn} {inputs : List CaptureInput}

theorem History.counted (history : History m status turns s) : Counted s := by
  induction history with
  | start =>
    intro operation stable working
    cases working
  | turn input transition _ reduces ih => exact ih.turned (reduce_turned reduces)

/-- A preflight that finds the machine at rest with an operation still published
as busy. -/
def FindsBusy (s : CaptureState) (input : CaptureInput) : Prop :=
  (∃ request, input = .preflight request) ∧
    ∃ stable, s = .stable stable ∧ stable.projection.captureOperation.isBusy = true

theorem rewound_returns (h : Counted (.reconciling current)) : (rewound current).isSome = true := by
  obtain ⟨next, revision⟩ := h current.operation current.stable rfl
  obtain ⟨n, counted⟩ := Nat.exists_eq_add_of_lt next
  obtain ⟨r, revised⟩ := Nat.exists_eq_add_of_lt revision
  simp [rewound, counted, revised, checkedPred]

theorem preflight_returns_iff :
    (m.preflight s request).isSome = true ↔ ¬FindsBusy s (.preflight request) := by
  cases s with
  | stable current =>
    cases busy : current.projection.captureOperation.isBusy with
    | true => simp [preflight, CaptureState.base, FindsBusy, busy]
    | false =>
      simp only [preflight, CaptureState.base, busy, FindsBusy]
      cases admitted : m.operation current request .ordinary (some "preflight") <;>
        simp [admitted, busy]
  | recoveryRequired current =>
    simp only [preflight, CaptureState.base, FindsBusy, bind_eq_bind, bind_some]
    split <;> simp
  | transitioning current =>
    simp only [preflight, FindsBusy]
    split <;> simp
  | reconciling current | shuttingDown current | retired current =>
    simp [preflight, FindsBusy]

theorem preflightFinished_returns (h : Counted s) (correlation : Correlation) :
    (preflightFinished s correlation).isSome = true := by
  unfold preflightFinished
  split
  · split
    · exact rewound_returns h
    · rfl
  · split
    · split <;> rfl
    · rfl
  · rfl

theorem auditFinished_returns (h : Counted s) (correlation : Correlation)
    (outcome : AuditOutcome) : (auditFinished s correlation outcome).isSome = true := by
  unfold auditFinished
  split
  · split
    · rfl
    · split
      · exact rewound_returns h
      · rfl
  · rfl

/-- Whatever inputs have been reduced, a call of the reducer returns unless it is a
preflight that finds the machine stable and its projection busy. -/
theorem reduce_returns_iff {turns : List Turn} (history : History m status turns s)
    (input : CaptureInput) : (m.reduce s input).isSome = true ↔ ¬FindsBusy s input := by
  have counted := history.counted
  cases input with
  | preflight request => exact preflight_returns_iff
  | preflightFinished correlation =>
    simp [reduce, FindsBusy, preflightFinished_returns counted]
  | auditFinished correlation outcome =>
    simp [reduce, FindsBusy, auditFinished_returns counted]
  | _ => simp [reduce, FindsBusy]

/-- The state and the calls after `inputs`, as long as none of them panics. -/
def after (m : CaptureMachine) (status : CaptureRuntimeStatus) :
    List CaptureInput → Option (List Turn × CaptureState)
  | [] => some ([], m.initial status)
  | input :: earlier => do
    let (turns, s) ← after m status earlier
    let transition ← m.reduce s input
    return (⟨s, input, transition.next s⟩ :: turns, transition.next s)

theorem history_after (h : after m status inputs = some (turns, s)) : History m status turns s := by
  induction inputs generalizing turns s with
  | nil =>
    cases h
    exact .start
  | cons input earlier ih =>
    simp only [after, bind_eq_bind, bind_eq_some_iff, pure_def,
      some.injEq] at h
    obtain ⟨⟨turns', s'⟩, before, transition, reduces, same⟩ := h
    cases same
    exact .turn input transition (ih before) reduces

/-- The sample machine after `inputs`, the last one first. -/
def reached (inputs : List CaptureInput) : CaptureState :=
  ((after sample .off inputs).map Prod.snd).getD (sample.initial .off)

theorem history_reached (returns : (after sample .off inputs).isSome = true) :
    ∃ turns, History sample .off turns (reached inputs) := by
  obtain ⟨⟨turns, s⟩, ran⟩ := isSome_iff_exists.mp returns
  have same : reached inputs = s := by simp [reached, ran]
  exact ⟨turns, same ▸ history_after ran⟩

/-- A prepared operation is reserved and executed, and its mutation fails. -/
def preparedFailure : List CaptureInput :=
  [.mutationFinished (sampleToken.correlation.withEffect mutationEffectId)
      ⟨some runtimeTransitionError, .off⟩,
    .executeReserved true sampleToken none sampleRequest,
    .reserve sampleRequest .prepared]

/-- The failure stays published as finalizing, and a preflight then panics. -/
theorem preflight_panics_after_prepared_failure :
    (∃ turns, History sample .off turns (reached preparedFailure)) ∧
      sample.reduce (reached preparedFailure) (.preflight sampleRequest) = none :=
  ⟨history_reached (by decide +kernel), by decide +kernel⟩

theorem prepared_failure_audit_returns :
    (sample.reduce (reached preparedFailure) (.audit true .periodic)).isSome = true := by
  have returns : (after sample .off preparedFailure).isSome = true := by decide +kernel
  obtain ⟨turns, history⟩ := history_reached returns
  exact (reduce_returns_iff history _).mpr nofun

/-! ## Where `applied` comes from -/

def Applied (projection : CaptureRuntimeStatus) : Prop :=
  projection.captureOperation.phase = .applied

/-- One of the calls confirmed the projection and published it. -/
def ConfirmedIn (turns : List Turn) (projection : CaptureRuntimeStatus) : Prop :=
  ∃ turn ∈ turns, Confirms turn.before turn.input turn.after ∧ turn.after.projection = projection

theorem ConfirmedIn.later {projection} (turn : Turn)
    (h : ConfirmedIn turns projection) : ConfirmedIn (turn :: turns) projection := by
  obtain ⟨earlier, made, confirmed⟩ := h
  exact ⟨earlier, List.mem_cons_of_mem turn made, confirmed⟩

theorem base_eq_none_of_held {working} (h : held s = some working) : s.base = none := by
  cases s with
  | stable | recoveryRequired | shuttingDown | retired => cases h
  | transitioning | reconciling => rfl

theorem confirmedProjection_of_held
    (h : held s = some (operation, stable)) : s.confirmedProjection = operation.previous := by
  cases s with
  | stable | recoveryRequired | shuttingDown | retired => cases h
  | transitioning | reconciling =>
    cases h
    rfl

theorem projection_of_held
    (h : held s = some (operation, stable)) : s.projection = operation.pending := by
  cases s with
  | stable | recoveryRequired | shuttingDown | retired => cases h
  | transitioning | reconciling =>
    cases h
    rfl

theorem confirmedProjection_of_rest (h : held s = none) : s.confirmedProjection = s.projection := by
  cases s with
  | transitioning | reconciling => cases h
  | stable | recoveryRequired | shuttingDown | retired => rfl

/-- Every `applied` that can be published again was confirmed. -/
structure Sourced (turns : List Turn) (s : CaptureState) : Prop where
  resting : ∀ base, s.base = some base → Applied s.projection → ConfirmedIn turns s.projection
  working : ∀ operation stable, held s = some (operation, stable) →
    ¬Applied operation.publicPending ∧
      (Applied operation.previous → ConfirmedIn turns operation.previous)

theorem Sourced.of_rest (rest : held s = none)
    (confirmed : ∀ base, s.base = some base → Applied s.projection →
    ConfirmedIn turns s.projection) : Sourced turns s where
  resting := confirmed
  working _ _ working := by
    rw [rest] at working
    cases working

theorem Sourced.of_work
    (working : held s = some (operation, stable)) (pending : ¬Applied operation.publicPending)
    (confirmed : Applied operation.previous → ConfirmedIn turns operation.previous) :
    Sourced turns s where
  resting base free := by
    rw [base_eq_none_of_held working] at free
    cases free
  working _ _ same := by
    rw [working] at same
    cases same
    exact ⟨pending, confirmed⟩

theorem Sourced.turned (h : Sourced turns s) (turned : Turned m s input t) :
    Sourced (⟨s, input, t⟩ :: turns) t := by
  cases turned with
  | stays =>
    refine ⟨fun base free applied => (h.resting base free applied).later _, ?_⟩
    intro operation stable working
    obtain ⟨pending, confirmed⟩ := h.working operation stable working
    exact ⟨pending, fun applied => (confirmed applied).later _⟩
  | begins free admitted started before shown _ =>
    obtain ⟨-, rfl⟩ := operation_spec admitted
    refine .of_work started (shown ▸ nofun) fun applied => ?_
    rw [before, base_projection free] at applied ⊢
    exact (h.resting _ free applied).later _
  | continues atWork stillAtWork before shown _ =>
    obtain ⟨pending, confirmed⟩ := h.working _ _ atWork
    refine .of_work stillAtWork (shown ▸ pending) fun applied => ?_
    rw [before] at applied ⊢
    exact (confirmed applied).later _
  | ends rest published =>
    refine .of_rest rest fun base free applied => ?_
    rcases published with other | ⟨gone, _⟩
    · exact absurd applied other
    · rw [gone] at free
      cases free
  | confirms rest confirmed =>
    exact .of_rest rest fun _ _ _ => ⟨_, List.mem_cons_self, confirmed, rfl⟩
  | restores rest _ back origin =>
    refine .of_rest rest fun base free applied => ?_
    rcases origin with gone | atWork
    · rw [gone] at free
      cases free
    · obtain ⟨⟨operation, stable⟩, working⟩ := isSome_iff_exists.mp atWork
      rw [back, confirmedProjection_of_held working] at applied ⊢
      exact ((h.working operation stable working).2 applied).later _
  | carries rest gone _ =>
    refine .of_rest rest fun base free _ => ?_
    rw [gone] at free
    cases free

theorem History.sourced (history : History m status turns s) : Sourced turns s := by
  induction history with
  | start => exact .of_rest rfl fun _ _ applied => by cases applied
  | turn input transition _ reduces ih => exact ih.turned (reduce_turned reduces)

/-- A call that publishes another projection with phase `applied` confirms it, or
ends a read-only step or the machine and puts back the projection before the
operation, which an earlier call confirmed, or publishes what the shutdown's own
effect returned. -/
theorem applied_is_confirmed {turns : List Turn} (history : History m status turns s)
    (reduces : m.reduce s input = some transition)
    (changed : (transition.next s).projection ≠ s.projection)
    (applied : Applied (transition.next s).projection) : Confirms s input (transition.next s) ∨
      restores input = true ∧ (transition.next s).projection = s.confirmedProjection ∧
        ConfirmedIn turns (transition.next s).projection ∨
      ∃ correlation, input = .shutdownFinished correlation (.ok (transition.next s).projection) := by
  have sourced := history.sourced
  generalize transition.next s = t, reduce_turned reduces = turned at changed applied ⊢
  cases turned with
  | stays => exact absurd rfl changed
  | begins free admitted started before _ shown =>
    obtain ⟨-, rfl⟩ := operation_spec admitted
    rw [projection_of_held started] at changed applied
    rcases shown with new | old
    · exact absurd (new ▸ applied) nofun
    · rw [old, base_projection free] at changed
      exact absurd rfl changed
  | continues atWork stillAtWork _ _ shown =>
    rw [projection_of_held stillAtWork] at changed applied
    rcases shown with same | new | finalizing
    · exact absurd (same.trans (projection_of_held atWork).symm) changed
    · exact absurd (new ▸ applied) (sourced.working _ _ atWork).1
    · exact absurd (finalizing.symm.trans applied) nofun
  | ends _ published =>
    rcases published with other | ⟨_, same⟩
    · exact absurd applied other
    · exact absurd same changed
  | confirms _ confirmed => exact .inl confirmed
  | restores _ putsBack back _ =>
    refine .inr (.inl ⟨putsBack, back, ?_⟩)
    cases working : held s with
    | none => exact absurd (back.trans (confirmedProjection_of_rest working)) changed
    | some working' =>
      rw [back, confirmedProjection_of_held working] at applied ⊢
      exact (sourced.working _ _ working).2 applied
  | carries _ _ result => exact .inr (.inr ⟨_, result⟩)

/-- An operation is started, and its mutation succeeds. -/
def mutated : List CaptureInput :=
  [.mutationFinished (sampleToken.correlation.withEffect mutationEffectId) ⟨none, .off⟩,
    .start true .ordinary none none sampleRequest]

/-- The input that observes it. -/
def observation : CaptureInput :=
  .observationFinished (sampleToken.correlation.withEffect observationEffectId) ⟨none, .off⟩

theorem observation_is_confirmed :
    ∃ transition, sample.reduce (reached mutated) observation = some transition ∧
      Confirms (reached mutated) observation (transition.next (reached mutated)) := by
  have returns : (after sample .off mutated).isSome = true := by decide +kernel
  obtain ⟨turns, history⟩ := history_reached returns
  have reduces : (sample.reduce (reached mutated) observation).isSome = true := by decide +kernel
  obtain ⟨transition, reduced⟩ := isSome_iff_exists.mp reduces
  have published : transition.next (reached mutated) = reached (observation :: mutated) := by
    have same : some transition =
        some (.committed (reached (observation :: mutated))) := reduced ▸ by decide +kernel
    rw [some.inj same]
    rfl
  have changed : (reached (observation :: mutated)).projection ≠ (reached mutated).projection := by
    decide +kernel
  have applied : Applied (reached (observation :: mutated)).projection := by
    unfold Applied
    decide +kernel
  refine ⟨transition, reduced, ?_⟩
  rcases applied_is_confirmed history reduced (published ▸ changed) (published ▸ applied) with
    confirmed | ⟨putsBack, _⟩ | ⟨_, other⟩
  · exact confirmed
  · cases putsBack
  · cases other

/-- The operation is confirmed, and another one is started. -/
def restarted : List CaptureInput :=
  .start true .ordinary none none sampleRequest :: observation :: mutated

/-- While that one is pending, a shutdown publishes `applied` again. -/
theorem shutdown_publishes_applied : (∃ turns, History sample .off turns (reached restarted)) ∧
      (reached restarted).projection.captureOperation.phase = .pending ∧
      ∃ transition, sample.reduce (reached restarted) .shutdown = some transition ∧
        Applied (transition.next (reached restarted)).projection := by
  refine ⟨history_reached (by decide +kernel), by decide +kernel, _, rfl, ?_⟩
  unfold Applied
  decide +kernel

/-! ## Read-only steps -/

/-- A preflight, or an audit that neither fails nor changes anything, and its
completion. -/
inductive ReadOnly : CaptureInput → (Correlation → CaptureInput) → Prop where
  | preflight (request : CaptureRequest) : ReadOnly (.preflight request) .preflightFinished
  | audit {coreHealthy reason outcome} : outcome.error = none → outcome.mutated = false →
      ReadOnly (.audit coreHealthy reason) (.auditFinished · outcome)

section
variable {base : StableCapture} {finish : Correlation → CaptureInput}
  (readOnly : ReadOnly input finish) (free : s.base = some base)
  (room : base.nextOperationId < maxU64 ∧ base.revision < maxU64)
include readOnly free room

theorem readOnly_ends : ∃ current effect, m.reduce s input =
    some (.effectEmitting current (.one effect)) ∧ m.reduce current (finish effect.correlation) =
    some (.accepted (.stable { base with lastError := none })) := by
  have fits (request operationPrefix) : ∃ stable operation,
      m.operation base request .ordinary operationPrefix = some (stable, operation) := by
    simp [CaptureMachine.operation, checkedSucc, room]
  cases readOnly with
  | preflight request =>
    obtain ⟨stable, operation, admitted⟩ := fits request (some "preflight")
    refine ⟨.reconciling ⟨{ operation with pending := operation.previous }, stable⟩,
      .preflight (operation.correlation.withEffect preflightEffectId) request, ?_, ?_⟩
    · obtain rfl | rfl := base_cases free <;> simp [reduce, preflight, free, admitted]
    · simp only [reduce, preflightFinished, CaptureEffect.correlation, matching_withEffect, if_true]
      obtain ⟨rfl, rfl⟩ := operation_spec admitted
      rfl
  | audit quiet unchanged =>
    obtain ⟨stable, operation, admitted⟩ := fits (standingRequest base.projection) (some "audit")
    refine ⟨_, _, by simp only [reduce, audit, free, admitted]; rfl, ?_⟩
    simp only [reduce, auditFinished, CaptureEffect.correlation, matching_withEffect, quiet,
      unchanged]
    obtain ⟨rfl, rfl⟩ := operation_spec admitted
    rfl

/-- A preflight, and an audit that changes nothing, give the machine back as it was exactly
where no error was kept: a required recovery becomes a state of rest, and the last error is
erased. -/
theorem read_only_transparent_iff : ∃ current effect t,
    m.reduce s input = some (.effectEmitting current (.one effect)) ∧
      m.reduce current (finish effect.correlation) = some (.accepted t) ∧
      (t = s ↔ ∃ stable, s = .stable stable ∧ stable.lastError = none) := by
  obtain ⟨current, effect, admits, ended⟩ := readOnly_ends (m := m) readOnly free room
  refine ⟨current, effect, _, admits, ended, ?_⟩
  obtain rfl | rfl := base_cases free
  · constructor
    · intro back
      exact ⟨base, rfl, by rw [← CaptureState.stable.inj back]⟩
    · rintro ⟨_, ⟨⟩, none_⟩
      rw [← none_]
  · simp

end

theorem initial_preflight_transparent : ∃ current effect t,
    sample.reduce (sample.initial .off) (.preflight sampleRequest) =
        some (.effectEmitting current (.one effect)) ∧
      sample.reduce current (.preflightFinished effect.correlation) = some (.accepted t) ∧
      t = sample.initial .off := by
  obtain ⟨current, effect, t, admits, ended, back⟩ := read_only_transparent_iff (m := sample)
    (s := sample.initial .off) (.preflight sampleRequest) rfl (by decide)
  exact ⟨current, effect, t, admits, ended, back.2 ⟨_, rfl, rfl⟩⟩

/-- An operation is started, and its mutation fails and cannot be rolled back. -/
def unrecovered : List CaptureInput :=
  [.mutationFinished (sampleToken.correlation.withEffect mutationEffectId)
      ⟨some ⟨.rollbackFailed, "", none, none⟩, .off⟩,
    .start true .ordinary none none sampleRequest]

/-- A periodic audit that changes nothing erases the recovery that is still due. -/
theorem audit_erases_recovery : (∃ turns, History sample .off turns (reached unrecovered)) ∧
    ∃ state current effect t, reached unrecovered = .recoveryRequired state ∧
      state.error.isSome = true ∧
      sample.reduce (reached unrecovered) (.audit true .periodic) =
        some (.effectEmitting current (.one effect)) ∧
      sample.reduce current (.auditFinished effect.correlation ⟨none, false, .off⟩) =
        some (.accepted (.stable t)) ∧ t.lastError = none :=
  ⟨history_reached (by decide +kernel), _, _, _, _, rfl, rfl, rfl, rfl, rfl⟩

end CaptureMachine

end Mish.Capture
