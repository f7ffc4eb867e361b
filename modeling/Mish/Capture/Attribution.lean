import Mish.Capture.CaptureReconciler
import Mish.Capture.SingleFlight
import Mish.StateMachine.Log

/-!
# What a waiter is told

`wait_for_operation` reads the state until its operation is not the active one and
takes the result from that state. Other callers may be admitted, and tasks may
end, between any two things it does.
-/

namespace Mish.Capture
open Interaction StateMachine
open SystemProxy (Fallible)

namespace CaptureReconciler
open CaptureMachine
variable {m : CaptureMachine} {operation : CaptureOperation}

/-- The operation is the active one. -/
def pending (operation : CaptureOperation) (state : CaptureState) : Bool :=
  state.activeOperation.any operation.names

/-- What is read off a state that the operation has ended in. -/
def outcome (state : CaptureState) : Fallible CaptureRuntimeStatus :=
  match state.lastError with
  | some error => .error error
  | none => .ok state.projection

/-! ## Callers next to each other -/

/-- The replies of the actor. A waiter whose operation is still the active one
learns that the actor has gone. -/
def Replies (r : Runner m.machine) : (q : Request) → Reply q → Runner m.machine → Prop
  | .runtimeTransition, _, t => t = r
  | .snapshot, state, t => state = r.state ∧ t = r
  | .admitInput input, reply, t =>
    (reply = .error runtimeTransitionError ∧ t = r) ∨
    (r.phase = .running ∧ Admits r input ∧ reply = admission r input ∧ t = r.admitInput input)
  | .awaitEnd operation, some state, t =>
    state = r.state ∧ pending operation state = false ∧ t = r
  | .awaitEnd operation, none, t =>
    r.phase ≠ .running ∧ pending operation r.state = true ∧ t = r

/-- Before a call is answered, other callers are admitted and tasks end. -/
def shared : Environment Request Reply (Runner m.machine) :=
  fun r q a t => ∃ r', Run CaptureExecutes Admits r r' ∧ Replies r' q a t

/-- A waiter is told what it reads, or that the actor has gone. -/
theorem waitForOperation_result {r t : Runner m.machine} {result}
    (waited : Exec shared (waitForOperation operation) r (.done result) t) :
    Run CaptureExecutes Admits r t ∧ (pending operation t.state = false ∧ result = outcome t.state ∨
    pending operation t.state = true ∧ t.phase ≠ .running) := by
  cases waited with
  | @step _ _ _ read _ reply _ answer rest =>
    obtain ⟨r', run, answered⟩ := answer
    cases reply with
    | none =>
      obtain ⟨gone, busy, rfl⟩ := answered
      cases rest
      exact ⟨run, .inr ⟨busy, gone⟩⟩
    | some state =>
      obtain ⟨rfl, ended, rfl⟩ := answered
      have told : Exec shared (pure (outcome read.state)) read (.done result) t := by
        unfold outcome
        cases recorded : read.state.lastError with
        | none => simpa only [Program.bind, recorded] using rest
        | some error => simpa only [Program.bind, recorded] using rest
      cases told
      exact ⟨run, .inl ⟨ended, rfl⟩⟩

/-! ## The end of an operation -/

/-- The state that the first of the calls left in which the operation is not the
active one. -/
def endedIn (operation : CaptureOperation) : List (Reduction m.machine) → Option CaptureState
  | [] => none
  | red :: earlier => (endedIn operation earlier).or
      (if pending operation red.after then none else some red.after)

/-- Neither an operation nor a shutdown is at work. -/
def atRest : CaptureState → Bool
  | .stable _ | .recoveryRequired _ | .retired _ => true
  | .transitioning _ | .reconciling _ | .shuttingDown _ => false

/-- The inputs that may come between the end of an operation and its waiter: no other operation is
admitted, none ends, no failure is reported, and there is no shutdown. A preflight or an audit may
begin as long as no error is recorded. -/
def Harmless (state : CaptureState) : CaptureInput → Prop
  | .preflight _ | .audit .. => state.lastError = none
  | .reserve .. | .start .. | .recover .. | .failReserved .. | .markFinalizing .. | .shutdown =>
    False
  | .executeReserved .. | .preflightFinished _ | .mutationFinished .. | .recoveryFinished ..
  | .observationFinished .. | .auditFinished .. | .auditCommitted .. | .taskFailed ..
  | .taskCancelled _ | .finalized .. | .shutdownFinished .. => atRest state = true

/-- Once the operation has ended, every call is harmless. -/
def Undisturbed (operation : CaptureOperation) : List (Reduction m.machine) → Prop
  | [] => True
  | red :: earlier => Undisturbed operation earlier ∧
      ((endedIn operation earlier).isSome = true → Harmless red.before red.input)

/-- A preflight or an audit shows what was shown before it. -/
theorem outcome_reconciling {state : CaptureState} {base stable operation request mode text}
    (free : state.base = some base) (clear : state.lastError = none)
    (admitted : m.operation base request mode (some text) = some (stable, operation)) :
    outcome (.reconciling ⟨{ operation with pending := operation.previous }, stable⟩) =
    outcome state := by
  obtain ⟨rfl, rfl⟩ := operation_spec admitted
  simp only [outcome, clear]
  exact congrArg Except.ok (base_projection free)

theorem outcome_preflight {state : CaptureState} {request transition}
    (clear : state.lastError = none) (reduces : m.preflight state request = some transition) :
    outcome (transition.next state) = outcome state := by
  unfold CaptureMachine.preflight at reduces
  cases state with
  | stable | recoveryRequired =>
    dsimp only [Option.bind_eq_bind] at reduces
    obtain ⟨base, free, begun⟩ := Option.bind_eq_some_iff.1 reduces
    split at begun
    · cases begun
      rfl
    · rename_i admitted
      cases begun
      exact outcome_reconciling free clear admitted
  | transitioning current =>
    dsimp only at reduces
    split at reduces <;> cases reduces <;> rfl
  | reconciling | shuttingDown | retired => cases reduces; rfl

theorem outcome_audit {state : CaptureState} {coreHealthy reason} (clear : state.lastError = none) :
    outcome ((m.audit state coreHealthy reason).next state) = outcome state := by
  unfold CaptureMachine.audit
  split
  · rfl
  · rename_i free
    split
    · rfl
    · rename_i admitted
      exact outcome_reconciling free clear admitted

/-- A harmless call leaves what a waiter reads. -/
theorem outcome_after {red : Reduction m.machine}
    (reduces : red.transition = m.machine.reduce red.before red.input)
    (harmless : Harmless red.before red.input) : outcome red.after = outcome red.before := by
  obtain ⟨cause, phase, before, input, transition⟩ := red
  change transition = m.reduce before input at reduces
  cases transition with
  | none => rfl
  | some transition =>
    change outcome (transition.next before) = outcome before
    cases input with
    | preflight request => exact outcome_preflight harmless reduces.symm
    | audit coreHealthy reason =>
      cases reduces
      exact outcome_audit harmless
    | reserve | start | recover | failReserved | markFinalizing | shutdown => exact harmless.elim
    | taskFailed correlation failure =>
      cases reduces
      unfold taskFailed
      cases before with
      | stable | recoveryRequired | retired => split <;> rfl
      | _ => cases harmless
    | _ =>
      -- what is left over from an operation is retired
      cases before with
      | stable | recoveryRequired | retired => cases reduces; rfl
      | _ => cases harmless

/-- Until the operation ends it is the active one, and from then on what is read
stays the same. -/
theorem Linked.outcome {s t : CaptureState} {log : List (Reduction m.machine)}
    (linked : Linked s log t) (active : pending operation s = true)
    (undisturbed : Undisturbed operation log) :
    (endedIn operation log = none → pending operation t = true) ∧
    ∀ ended, endedIn operation log = some ended → outcome t = outcome ended := by
  induction linked with
  | nil =>
    refine ⟨fun _ => active, fun ended found => ?_⟩
    cases found
  | @cons log red reduces _ ih =>
    obtain ⟨before, harmless⟩ := undisturbed
    obtain ⟨waiting, kept⟩ := ih before
    cases earlier : endedIn operation log with
    | some ended =>
      refine ⟨by simp [endedIn, earlier], fun ended' found => ?_⟩
      obtain rfl : ended = ended' := by simpa [endedIn, earlier] using found
      rw [outcome_after reduces (harmless (by simp [earlier]))]
      exact kept ended earlier
    | none =>
      cases now : pending operation red.after with
      | true => exact ⟨fun _ => rfl, by simp [endedIn, earlier, now]⟩
      | false =>
        refine ⟨by simp [endedIn, earlier, now], fun ended found => ?_⟩
        obtain rfl : red.after = ended := by simpa [endedIn, earlier, now] using found
        rfl

/-- A waiter whose operation was the active one in `r₀` is told how it ended, if
nothing disturbs the state it ended in before the waiter reads it and the actor
does not go while it is active. -/
theorem waiter_told_own_outcome {r₀ r t : Runner m.machine} {result : Fallible CaptureRuntimeStatus}
    (active : pending operation r₀.state = true) (before : Run CaptureExecutes Admits r₀ r)
    (waited : Exec shared (waitForOperation operation) r (.done result) t) :
    ∃ log, Since r₀ t log ∧ (Undisturbed operation log →
      (pending operation t.state = true → t.phase = .running) →
      ∃ ended, endedIn operation log = some ended ∧
        (∀ error, result = .error error ↔ ended.lastError = some error) ∧
        ∀ status, result = .ok status → status = ended.projection) := by
  obtain ⟨during, read⟩ := waitForOperation_result waited
  obtain ⟨log, since⟩ := run_since (before.trans during)
  refine ⟨log, since, fun undisturbed alive => ?_⟩
  obtain ⟨waiting, kept⟩ := Linked.outcome since.linked active undisturbed
  rcases read with ⟨ended, told⟩ | ⟨busy, gone⟩
  · cases found : endedIn operation log with
    | none =>
      rw [waiting found] at ended
      cases ended
    | some ended =>
      rw [kept ended found] at told
      refine ⟨ended, rfl, ?_⟩
      subst told
      cases recorded : ended.lastError <;> simp [outcome, recorded, eq_comm]
  · exact absurd (alive busy) gone

/-! ## An operation admitted in between -/

def sampleInput : CaptureInput := .start true .ordinary none none sampleRequest

/-- The first operation is started, its mutation fails, and another is started. -/
def startedRunner : Runner sample.machine := sampleStart.admitInput sampleInput

def failedRunner : Runner sample.machine :=
  startedRunner.join 0 (.completed (CaptureInput.mutationFinished
    (sampleToken.correlation.withEffect mutationEffectId) ⟨some runtimeTransitionError, .off⟩))

def disturbedRunner : Runner sample.machine := failedRunner.admitInput sampleInput

theorem failed_of_started {admits : Runner sample.machine → CaptureInput → Prop} :
    Step CaptureExecutes admits startedRunner failedRunner := by
  have task : ⟨0, .mutate true (sampleToken.correlation.withEffect mutationEffectId) none
      sampleToken.previous sampleRequest, false⟩ ∈ startedRunner.tasks := .head _
  exact .join _ _ rfl (List.cons_ne_nil _ _) task (CaptureExecutes.mutate ..)

theorem admits_sampleInput (r : Runner sample.machine) : Admits r sampleInput :=
  ⟨rfl, fun _ none => by cases none⟩

theorem disturbed_of_started : Run CaptureExecutes Admits startedRunner disturbedRunner :=
  (Relation.ReflTransGen.single failed_of_started).tail (.admitInput _ rfl (admits_sampleInput _))

/-- The failure is recorded, and the waiter of the failed operation is told that it
succeeded with the status of the next one, which is pending. -/
theorem waiter_told_other_outcome : ∃ status, Exec shared (reconcile sampleRequest true) sampleStart
        (.done (.ok status)) disturbedRunner ∧
      pending sampleToken startedRunner.state = true ∧
      pending sampleToken failedRunner.state = false ∧
      failedRunner.state.lastError = some runtimeTransitionError ∧
      status.captureOperation.phase = .pending := by
  refine ⟨disturbedRunner.state.projection, ?_, by decide +kernel, by decide +kernel,
    by decide +kernel, by decide +kernel⟩
  have asked : shared sampleStart .runtimeTransition false sampleStart := ⟨_, .refl, rfl⟩
  have admitted : shared sampleStart (.admitInput sampleInput) (.ok startedRunner.state)
      startedRunner := ⟨_, .refl, .inr ⟨rfl, admits_sampleInput _, rfl, rfl⟩⟩
  have read : shared startedRunner (.awaitEnd sampleToken) (some disturbedRunner.state)
      disturbedRunner := ⟨_, disturbed_of_started, rfl, by decide +kernel, rfl⟩
  exact .step asked (.step admitted (.step read (.stop _ _)))

/-- Read before the next one is started, the failure is told. -/
theorem waiter_told_failure :
    ∃ ended : CaptureState, ended.lastError = some runtimeTransitionError ∧
      Exec shared (waitForOperation sampleToken) startedRunner
        (.done (.error runtimeTransitionError)) failedRunner := by
  have read : shared startedRunner (.awaitEnd sampleToken) (some failedRunner.state)
      failedRunner := ⟨_, .single failed_of_started, rfl, by decide +kernel, rfl⟩
  have waited : Exec shared (waitForOperation sampleToken) startedRunner
      (.done (.error runtimeTransitionError)) failedRunner := .step read (.stop _ _)
  obtain ⟨log, since, told⟩ := waiter_told_own_outcome (by decide +kernel) .refl waited
  -- one call was made since the start
  have made : failedRunner.reductions.length = log.length + startedRunner.reductions.length := by
    rw [since.recorded, List.length_append]
  have single : log.length = 1 := Nat.succ.inj made.symm
  obtain ⟨red, rfl⟩ := List.length_eq_one_iff.mp single
  obtain ⟨ended, _, failure, _⟩ := told ⟨trivial, by simp [endedIn]⟩ fun _ => rfl
  exact ⟨ended, (failure _).mp rfl, waited⟩

end CaptureReconciler

end Mish.Capture
