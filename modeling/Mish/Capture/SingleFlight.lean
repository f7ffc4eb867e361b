import Mish.Capture.Moves

/-!
# Single-flight Capture

The effects in flight fit what the state waits for: at most one effect of the
active operation, under a correlation the state accepts, next to leftovers of
operations that were ended by name while an effect ran. Without those ends
(`EndsInFlight`) no effect that touches the platform is ever left over.
-/

namespace Mish.Capture
open StateMachine List

namespace CaptureMachine
variable {m : CaptureMachine} {state : CaptureState} {input : CaptureInput} {strict : Prop}
  {transition : CaptureTransition} {effects : List CaptureEffect} {r : Runner m.machine}

/-- An effect of an operation admitted before `revision`. -/
def Stale (strict : Prop) (revision : Nat) (effect : CaptureEffect) : Prop :=
  effect.correlation.admittedRevision < revision ∧ (strict → effect.isPlatform = false)

/-- The effects in flight fit the plan. Leftovers are free of platform effects
when `strict`. -/
def Flies (strict : Prop) : Plan → List CaptureEffect → Prop
  | .idle revision, effects => ∀ effect ∈ effects, Stale strict (revision + 1) effect
  | .waiting operation revision ids, effects =>
    operation.admittedRevision = revision ∧ operation.operationId ≠ "shutdown" ∧
    ∃ own stale, effects.Perm (own ++ stale) ∧ Launches operation ids own ∧
      ∀ effect ∈ stale, Stale strict revision effect
  | .gone, _ => False

namespace Flies
variable {strict : Prop} {before after : Plan} {operation : Correlation} {revision : Nat}
  {ids : List Nat} {effect : CaptureEffect} {effects effects' spawned : List CaptureEffect}

theorem reorder (perm : effects.Perm effects') (h : Flies strict before effects) :
    Flies strict before effects' := by
  cases before with
  | idle revision => exact fun effect member => h effect (perm.mem_iff.mpr member)
  | waiting operation revision ids =>
    obtain ⟨admitted, plain, own, stale, split, launched, old⟩ := h
    exact ⟨admitted, plain, own, stale, perm.symm.trans split, launched, old⟩
  | gone => exact h

/-- An operation that waits for nothing has nothing in flight. -/
theorem all_stale (h : Flies strict (.waiting operation revision []) effects) :
    ∀ effect ∈ effects, Stale strict revision effect := by
  obtain ⟨_, _, own, stale, split, launched, old⟩ := h
  have none : own = [] := by
    rcases launched with ⟨_, none⟩ | ⟨_, _, awaited, _⟩
    · exact none
    · cases awaited
  subst none
  exact fun effect member => old effect (split.mem_iff.mp member)

theorem launch (admitted : operation.admittedRevision = revision)
    (plain : operation.operationId ≠ "shutdown") (launched : Launches operation ids spawned)
    (old : ∀ effect ∈ effects, Stale strict revision effect) :
    Flies strict (.waiting operation revision ids) (effects ++ spawned) :=
  ⟨admitted, plain, spawned, effects, perm_append_comm, launched, old⟩

theorem moves (h : Flies strict before effects) (moves : Moves before after spawned) :
    Flies strict after (effects ++ spawned) := by
  cases moves with
  | keeps => rwa [append_nil]
  | begins admitted plain launched => exact launch admitted plain launched h
  | launches launched =>
    have old := h.all_stale
    obtain ⟨admitted, plain, _⟩ := h
    exact launch admitted plain launched old
  | ends operation revision =>
    intro effect member
    rw [append_nil] at member
    obtain ⟨older, quiet⟩ := h.all_stale effect member
    exact ⟨Nat.lt_succ_of_lt older, quiet⟩
  | rewinds operation revision =>
    intro effect member
    rw [append_nil] at member
    exact h.all_stale effect member

theorem stale_foreign (admitted : operation.admittedRevision = revision)
    (stale : Stale strict revision effect) :
    operation.sameOperation effect.correlation = false := by
  have older := stale.1
  have differs : operation.admittedRevision ≠ effect.correlation.admittedRevision := by omega
  simp [Correlation.sameOperation, differs]

/-- Of an operation's flight, the effect that ends is the awaited one or a
leftover. -/
theorem taken (h : Flies strict (.waiting operation revision ids) (effect :: effects)) :
    (Awaited (.waiting operation revision ids) operation revision effect ∧
    Flies strict (.waiting operation revision []) effects) ∨
    (operation.sameOperation effect.correlation = false ∧
    Flies strict (.waiting operation revision ids) effects) := by
  obtain ⟨admitted, plain, own, stale, split, launched, old⟩ := h
  have listed : effect ∈ own ++ stale := split.mem_iff.mp (mem_cons_self ..)
  rcases mem_append.mp listed with mine | other
  · left
    rcases launched with ⟨_, rfl⟩ | ⟨started, rfl, awaited, named⟩
    · cases mine
    · obtain rfl := mem_singleton.mp mine
      have rest : effects.Perm stale := (perm_cons effect).mp split
      exact ⟨⟨⟨ids, rfl, awaited⟩, named, plain⟩,
        admitted, plain, [], stale, rest, .inl ⟨rfl, rfl⟩, old⟩
  · right
    refine ⟨stale_foreign admitted (old effect other), admitted, plain, own, stale.erase effect,
      ?_, launched, fun left member => old left (mem_of_mem_erase member)⟩
    have front : (own ++ stale).Perm (effect :: (own ++ stale.erase effect)) :=
      ((perm_cons_erase other).append_left own).trans perm_middle
    exact (perm_cons effect).mp (split.trans front)

/-- An operation ended by name leaves its effect behind. -/
theorem abandoned (h : Flies strict (.waiting operation revision ids) effects) (quiet : strict →
    ∀ effect ∈ effects, effect.isPlatform = false) : Flies strict (.idle revision) effects := by
  obtain ⟨admitted, _, own, stale, split, launched, old⟩ := h
  intro effect member
  refine ⟨?_, fun strict => quiet strict effect member⟩
  rcases mem_append.mp (split.mem_iff.mp member) with mine | other
  · rcases launched with ⟨_, rfl⟩ | ⟨started, rfl, _, named⟩
    · cases mine
    · obtain rfl := mem_singleton.mp mine
      rw [named]
      exact Nat.lt_succ_of_le (Nat.le_of_eq admitted)
  · exact Nat.lt_succ_of_lt (old effect other).1

end Flies

/-! ## Runs -/

/-- The state a reconciler starts in. -/
def initial (m : CaptureMachine) (status : CaptureRuntimeStatus) : CaptureState :=
  .stable ⟨none, { status with captureOperation := .idle m.machineAuthority }, 1, 0⟩

/-- The token an admission is made with. -/
def inputToken : CaptureInput → Option CaptureOperation
  | .executeReserved _ token _ _ | .failReserved _ token | .markFinalizing _ token => some token
  | _ => none

/-- The machine has returned the token to a caller. -/
def Issued (r : Runner m.machine) (token : CaptureOperation) : Prop :=
  ∃ red ∈ r.reductions, ∃ transition, red.transition = some transition ∧
    CaptureState.operation (transition.next red.before) = some token

/-- What callers send: any admission, with tokens they were given. -/
def Admits (r : Runner m.machine) (input : CaptureInput) : Prop :=
  isAdmission input = true ∧ ∀ token, inputToken input = some token → Issued r token

/-- A failure reported for the operation published as finalizing, while an
effect that touches the platform is in flight. -/
def EndsInFlight (r : Runner m.machine) (input : CaptureInput) : Prop :=
  Abandons r.state input ∧ ∃ effect ∈ r.inFlight, effect.isPlatform = true

theorem flies_settled {effect rest} (h : Flies strict (plan state) (effect :: rest))
    (settles : Settles (M := m.machine) CaptureExecutes state effect input)
    (reduces : m.reduce state input = some transition) :
    Flies strict (plan (transition.next state)) (rest ++ spawns transition) := by
  -- a leftover changes nothing
  have leftover (foreign : Foreign effect.correlation (plan state))
      (fits : Flies strict (plan state) rest) :
      Flies strict (plan (transition.next state)) (rest ++ spawns transition) := by
    obtain rfl := reduce_foreign foreign settles reduces
    exact fits.moves (.keeps _)
  cases waits : plan state with
  | idle revision =>
    rw [waits] at h leftover
    exact leftover trivial fun effect member => h effect (mem_cons_of_mem _ member)
  | waiting operation revision ids =>
    rw [waits] at h leftover
    rcases h.taken with ⟨awaited, fits⟩ | ⟨foreign, fits⟩
    · rw [← waits] at awaited
      exact fits.moves (reduce_awaited awaited settles reduces)
    · exact leftover foreign fits
  | gone =>
    rw [waits] at h
    exact absurd h id

theorem flies_admitted
    (h : Flies strict (plan state) effects) (admission : isAdmission input = true)
    (lands : strict → Abandons state input → ∀ effect ∈ effects, effect.isPlatform = false)
    (reduces : m.reduce state input = some transition) :
    Flies strict (plan (transition.next state)) (effects ++ spawns transition) := by
  rcases reduce_admission admission reduces with moved | ⟨abandons, abandoned⟩
  · exact h.moves moved
  · obtain ⟨operation, revision, ids, waits, ended, none⟩ := abandoned
    rw [waits] at h
    rw [ended, none, append_nil]
    exact h.abandoned fun yes => lands yes abandons

theorem flight_invariant {admits : Runner m.machine → CaptureInput → Prop}
    (status : CaptureRuntimeStatus)
    (admission : ∀ r input, admits r input → isAdmission input = true)
    (lands : strict → ∀ r input, admits r input → ¬EndsInFlight r input) :
    FlightInvariant CaptureExecutes admits (m.initial status)
    (fun state effects => Flies strict (plan state) effects) (plan · = .gone) where
  initially := fun _ member => by cases member
  reorder perm h := h.reorder perm
  admitted := by
    intro r input transition allowed h reduces
    apply flies_admitted h (admission r input allowed) ?_ reduces
    intro yes abandons effect member
    by_contra platform
    exact lands yes r input allowed ⟨abandons, effect, member, by simpa using platform⟩
  settled h settles reduces := flies_settled h settles reduces
  shutdown := by
    intro state transition reduces
    cases reduces
    rfl
  drained gone settles reduces := reduce_gone gone settles reduces

/-! ## Single flight -/

/-- The operation of a state that waits for an effect. -/
def busy : CaptureState → Option ActiveOperation
  | .transitioning current => if current.stage = .reserved then none else some current.operation
  | .reconciling current => some current.operation
  | _ => none

/-- The states in which nothing may touch the platform. -/
def atRest : CaptureState → Bool
  | .stable _ | .recoveryRequired _ => true
  | .transitioning current => current.stage = .reserved
  | .reconciling _ | .shuttingDown _ | .retired _ => false

structure SingleFlight (r : Runner m.machine) : Prop where
  busy : ∀ operation, busy r.state = some operation →
    ∃ o, r.owned.filter (fun o => operation.correlation.sameOperation o.correlation) = [o] ∧
      effectIsCurrent r.state o.correlation = true
  atRest : atRest r.state = true → ∀ effect ∈ r.inFlight, effect.isPlatform = false
  disjoint : (r.inFlight.filter (·.isPlatform)).length ≤ 1

/-- Of the active operation exactly the awaited effect is in flight. -/
theorem Flies.filter_own {operation revision ids}
    (h : Flies strict (.waiting operation revision ids) effects) (some : ids ≠ []) :
    ∃ effect, effects.filter (operation.sameOperation ·.correlation) = [effect] ∧
    effect.ordinal ∈ ids ∧ effect.correlation = operation.withEffect effect.ordinal := by
  obtain ⟨admitted, _, own, stale, split, launched, old⟩ := h
  rcases launched with ⟨none, _⟩ | ⟨effect, rfl, awaited, named⟩
  · exact absurd none some
  · refine ⟨effect, ?_, awaited, named⟩
    have others : stale.filter (operation.sameOperation ·.correlation) = [] := by
      rw [filter_eq_nil_iff]
      intro other member
      simp [Flies.stale_foreign admitted (old other member)]
    have mine : operation.sameOperation effect.correlation = true := by
      rw [named, sameOperation_withEffect]
    have filtered := split.filter (operation.sameOperation ·.correlation)
    simp only [singleton_append, filter_cons, mine, if_true, others] at filtered
    exact perm_singleton.mp filtered

theorem Flies.platform_le_one {plan}
    (h : Flies True plan effects) : (effects.filter (·.isPlatform)).length ≤ 1 := by
  have quiet {revision : Nat} {effects : List CaptureEffect}
      (old : ∀ effect ∈ effects, Stale True revision effect) :
      effects.filter (·.isPlatform) = [] := by
    rw [filter_eq_nil_iff]
    intro effect member
    simp [(old effect member).2 trivial]
  cases plan with
  | idle revision => simp [quiet h]
  | waiting operation revision ids =>
    obtain ⟨_, _, own, stale, split, launched, old⟩ := h
    have few : own.length ≤ 1 := by
      rcases launched with ⟨_, rfl⟩ | ⟨effect, rfl, _⟩ <;> simp
    rw [(split.filter _).length_eq, filter_append, quiet old, append_nil]
    exact Nat.le_trans (length_filter_le _ _) few
  | gone => exact absurd h id

theorem plan_of_busy {operation} (h : busy state = some operation) : ∃ revision ids,
    plan state = .waiting operation.correlation revision ids ∧ ids ≠ [] ∧
    ∀ id ∈ ids, effectIsCurrent state (operation.correlation.withEffect id) = true := by
  cases state with
  | transitioning current =>
    simp only [busy] at h
    split at h
    · cases h
    · cases h
      refine ⟨_, _, rfl, ?_, ?_⟩
      · cases stage : current.stage <;> simp_all [TransitionStage.awaits]
      · intro id member
        simp [effectIsCurrent, sameOperation_withEffect, member]
  | reconciling current =>
    cases h
    refine ⟨_, _, rfl, by simp [reconcilingAwaits], ?_⟩
    intro id member
    have listed : id ∈ [preflightEffectId, observationEffectId, auditEffectId] := member
    simp only [effectIsCurrent, withEffect_effectId, sameOperation_withEffect, Bool.and_true]
    exact decide_eq_true listed
  | _ => cases h

/-- At rest nothing of the active operation is in flight. -/
theorem Flies.quiet_at_rest
    (h : Flies True (plan state) effects) (rest : CaptureMachine.atRest state = true) :
    ∀ effect ∈ effects, effect.isPlatform = false := by
  intro effect member
  cases state with
  | stable _ | recoveryRequired _ => exact (h effect member).2 trivial
  | transitioning current =>
    have reserved : current.stage = .reserved := of_decide_eq_true rest
    simp only [plan, reserved, TransitionStage.awaits] at h
    exact (h.all_stale effect member).2 trivial
  | _ => cases rest

theorem single_flight_of_flies (kept : Conserved [] r)
    (h : Flies True (plan r.state) r.inFlight) : SingleFlight r where
  busy := by
    intro operation waiting
    obtain ⟨revision, ids, waits, some, accepted⟩ := plan_of_busy waiting
    rw [waits] at h
    obtain ⟨effect, only, awaited, named⟩ := h.filter_own some
    -- the owned table holds the correlations of the effects in flight
    have table : (r.owned.filter fun o =>
        operation.correlation.sameOperation o.correlation).map (·.correlation) =
        [effect.correlation] := by
      have same := congrArg (filter operation.correlation.sameOperation) kept.owned_correlations
      rw [filter_map, filter_map] at same
      have mine : r.inFlight.filter (operation.correlation.sameOperation ∘ m.machine.correlation) =
          [effect] := only
      rw [mine] at same
      exact same
    obtain ⟨o, owned, correlation⟩ := map_eq_singleton_iff.mp table
    refine ⟨o, owned, ?_⟩
    rw [correlation, named]
    exact accepted _ awaited
  atRest rest := h.quiet_at_rest rest
  disjoint := h.platform_le_one

/-- The admissions of a run in which no failure ends an operation in flight. -/
def AdmitsLanded (r : Runner m.machine) (input : CaptureInput) : Prop :=
  Admits r input ∧ ¬EndsInFlight r input

theorem flies_run {status : CaptureRuntimeStatus}
    (run : Run CaptureExecutes AdmitsLanded (.start (m.initial status)) r)
    (running : r.phase = .running) : Flies True (plan r.state) r.inFlight := by
  have kept : FlightInvariant CaptureExecutes AdmitsLanded (m.initial status)
      (fun state effects => Flies True (plan state) effects) (plan · = .gone) :=
    flight_invariant status (fun _ _ allowed => allowed.1.1) fun _ _ _ allowed => allowed.2
  simpa only [FlightInvariant.At, running] using kept.run run

/-- The reducer panics on an admission only where no operation is active. -/
theorem busy_of_panic (admission : isAdmission input = true) (h : m.reduce state input = none) :
    busy state = none := by
  cases input with
  | preflight request =>
    cases state with
    | stable _ | recoveryRequired _ => rfl
    | transitioning current =>
      simp only [reduce, preflight] at h
      split at h <;> cases h
    | _ => cases h
  | reserve | start | executeReserved | failReserved | markFinalizing | audit | recover => cases h
  | _ => cases admission

theorem single_flight_of_panic (admission : isAdmission input = true)
    (h : m.reduce r.state input = none) : SingleFlight (r.admitInput input) := by
  have unwound := admitInput_of_panic (M := m.machine) h
  refine ⟨?_, ?_, ?_⟩
  · intro operation waiting
    rw [unwound.1, busy_of_panic admission h] at waiting
    cases waiting
  · intro _ effect member
    rw [unwound.2] at member
    cases member
  · simp [unwound.2]

theorem atRest_of_idle {revision} (h : plan state = .idle revision) : atRest state = true := by
  cases state with
  | stable _ | recoveryRequired _ => rfl
  | _ => cases h

/-- While no failure has ended an operation in flight, Capture is single-flight,
and the next admission keeps it so exactly when it is not such a failure. -/
theorem single_flight_iff {status : CaptureRuntimeStatus} {r : Runner m.machine}
    (run : Run CaptureExecutes AdmitsLanded (.start (m.initial status)) r)
    (running : r.phase = .running) : SingleFlight r ∧
    ∀ input, Admits r input → (SingleFlight (r.admitInput input) ↔ ¬EndsInFlight r input) := by
  have flies := flies_run run running
  refine ⟨single_flight_of_flies ((conserved_start _).run run) flies, fun input allowed => ?_⟩
  constructor
  · rintro single ⟨abandons, effect, member, platform⟩
    obtain ⟨error, token, rfl, published⟩ := abandons
    cases waits : plan r.state with
    | idle revision =>
      have quiet := flies.quiet_at_rest (atRest_of_idle waits) effect member
      rw [quiet] at platform
      cases platform
    | gone =>
      rw [waits] at flies
      exact flies
    | waiting operation revision ids =>
      obtain ⟨_, _, _, _, ended, none⟩ :=
        abandoned_failReserved ⟨error, token, rfl, published⟩ waits
      have reduces : m.machine.reduce r.state (CaptureInput.failReserved error token) =
        some (failReserved r.state error token) := rfl
      obtain ⟨_, state, inFlight⟩ := admitInput_of_reduce reduces
      have quiet := single.atRest (by rw [state]; exact atRest_of_idle ended) effect
        (by rw [inFlight]; exact mem_append_left _ member)
      rw [quiet] at platform
      cases platform
  · intro lands
    cases reduces : m.reduce r.state input with
    | none => exact single_flight_of_panic allowed.1 reduces
    | some transition =>
      have after := run.tail (.admitInput input running ⟨allowed, lands⟩)
      have goesOn : (r.admitInput input).phase = .running :=
        (admitInput_of_reduce reduces).1
      exact single_flight_of_flies ((conserved_start _).run after) (flies_run after goesOn)

/-! ## An operation ended by name -/

/-- A machine and a request to turn the System Proxy on. -/
def sample : CaptureMachine := ⟨"capture", 1⟩

def sampleRequest : CaptureRequest := ⟨true, ⟨true, false⟩⟩

def sampleStart : Runner sample.machine := .start (sample.initial .off)

/-- The token of the first operation. -/
def sampleToken : CaptureOperation where
  correlation := ⟨"capture", 1, "1", 1, 0⟩
  previous := { CaptureRuntimeStatus.off with captureOperation := .idle "capture" }
  publicOperationId := "1"
  request := sampleRequest

/-- The operation is reserved, executed, and marked as finalizing while its
mutation runs. -/
def reservedSample : Runner sample.machine :=
  sampleStart.admitInput (CaptureInput.reserve sampleRequest .prepared)

def executedSample : Runner sample.machine :=
  reservedSample.admitInput (CaptureInput.executeReserved true sampleToken none sampleRequest)

def markedSample : Runner sample.machine :=
  executedSample.admitInput (CaptureInput.markFinalizing runtimeTransitionError sampleToken)

/-- Then its failure is reported, and another operation starts. -/
def failedSample : Runner sample.machine :=
  markedSample.admitInput (CaptureInput.failReserved runtimeTransitionError sampleToken)

def overlappingSample : Runner sample.machine :=
  failedSample.admitInput (CaptureInput.start true .ordinary none none sampleRequest)

/-- The reducer call that returns the token. -/
def sampleReservation : Reduction sample.machine :=
  sampleStart.reduction .admission (CaptureInput.reserve sampleRequest .prepared)

theorem issued_sampleToken {r} (called : sampleReservation ∈ r.reductions) : Issued r sampleToken :=
  ⟨sampleReservation, called, _, rfl, by decide +kernel⟩

theorem admits_sampleToken {r}
    (admission : isAdmission input = true) (named : inputToken input = some sampleToken)
    (called : sampleReservation ∈ r.reductions) : Admits r input := by
  refine ⟨admission, fun token same => ?_⟩
  obtain rfl := Option.some.inj (named.symm.trans same)
  exact issued_sampleToken called

/-- No step up to the mark reports a failure. -/
theorem run_markedSample {admits : Runner sample.machine → CaptureInput → Prop}
    (allows : ∀ r input, Admits r input → ¬Abandons r.state input → admits r input) :
    Run CaptureExecutes admits sampleStart markedSample := by
  have reserves : Step CaptureExecutes admits sampleStart reservedSample := by
    refine Step.admitInput _ rfl (allows _ _ ⟨rfl, by simp [inputToken]⟩ ?_)
    rintro ⟨_, _, same, _⟩
    cases same
  have executes : Step CaptureExecutes admits reservedSample executedSample := by
    refine Step.admitInput _ rfl (allows _ _ (admits_sampleToken rfl rfl (.head _)) ?_)
    rintro ⟨_, _, same, _⟩
    cases same
  have marks : Step CaptureExecutes admits executedSample markedSample := by
    refine Step.admitInput _ rfl (allows _ _ (admits_sampleToken rfl rfl (.tail _ (.head _))) ?_)
    rintro ⟨_, _, same, _⟩
    cases same
  exact ((Relation.ReflTransGen.single reserves).tail executes).tail marks

theorem admits_failure : Admits markedSample (.failReserved runtimeTransitionError sampleToken) :=
  admits_sampleToken rfl rfl (.tail _ (.tail _ (.head _)))

theorem marked_single_failed_not : SingleFlight markedSample ∧ ¬SingleFlight failedSample := by
  have landed : Run CaptureExecutes AdmitsLanded sampleStart markedSample :=
    run_markedSample fun r input allowed other => ⟨allowed, fun ends => other ends.1⟩
  obtain ⟨single, next⟩ := single_flight_iff landed rfl
  refine ⟨single, fun after => ?_⟩
  have lands := (next _ admits_failure).mp after
  exact lands ⟨⟨_, _, rfl, by decide +kernel⟩, any_eq_true.mp (by decide +kernel)⟩

/-- The failure leaves the state stable with the mutation in flight, and a
second mutation then runs next to it. -/
theorem failure_in_flight_overlaps : Run CaptureExecutes Admits sampleStart failedSample ∧
    atRest failedSample.state = true ∧ (failedSample.inFlight.filter (·.isPlatform)).length = 1 ∧
    Run CaptureExecutes Admits sampleStart overlappingSample ∧
    (overlappingSample.inFlight.filter (·.isPlatform)).length = 2 := by
  have fails : Step CaptureExecutes Admits markedSample failedSample :=
    .admitInput _ rfl admits_failure
  have starts : Step CaptureExecutes Admits failedSample overlappingSample :=
    .admitInput _ rfl ⟨rfl, by simp [inputToken]⟩
  have failed := (run_markedSample fun _ _ allowed _ => allowed).tail fails
  exact ⟨failed, by decide +kernel, by decide +kernel, failed.tail starts, by decide +kernel⟩

end CaptureMachine

end Mish.Capture
