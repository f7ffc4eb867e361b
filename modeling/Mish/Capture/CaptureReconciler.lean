import Mish.Capture.Adapter
import Mish.StateMachine.Flight

/-!
# The Capture reconciler

`CaptureReconciler` sends inputs to the actor of the Capture machine and waits
for its operations to end. A task of the actor runs its effect against the two
backends; as at most one effect is in flight (`Course`), the whole of its run is
placed where it ends.
-/

namespace Mish.Capture
open Interaction StateMachine
open SystemProxy (Fallible)

namespace CaptureReconciler

/-- The calls to the actor. `awaitEnd` is the loop of `wait_for_operation`: its
reply is the first snapshot in which the operation is not active, and absent
when the actor has gone while it was. -/
inductive Request where
  | runtimeTransition
  | snapshot
  | admitInput (input : CaptureInput)
  | awaitEnd (operation : CaptureOperation)

@[reducible] def Reply : Request → Type
  | .runtimeTransition => Bool
  | .snapshot => CaptureState
  | .admitInput _ => Fallible CaptureState
  | .awaitEnd _ => Option CaptureState

abbrev Operation := Program Request Reply

def call (r : Request) : Operation (Reply r) := request r

def status : Operation CaptureRuntimeStatus := do
  let state ← call .snapshot
  return state.projection

def waitForOperation (operation : CaptureOperation) :
    Operation (Fallible CaptureRuntimeStatus) := do
  match ← call (.awaitEnd operation) with
  | none => return .error runtimeTransitionError
  | some state =>
    match state.lastError with
    | some error => return .error error
    | none => return .ok state.projection

def startAndWait (req : CaptureRequest) (coreHealthy : Bool) (preflight : Option CapturePreflight)
    (mode : TransitionMode) (operationPrefix : Option String) :
    Operation (Fallible CaptureRuntimeStatus) := do
  match ← call (.admitInput (.start coreHealthy mode operationPrefix preflight req)) with
  | .error error => return .error error
  | .ok state =>
    match state.operation with
    | none => return .error runtimeTransitionError
    | some operation => waitForOperation operation

def reconcile (req : CaptureRequest) (coreHealthy : Bool) :
    Operation (Fallible CaptureRuntimeStatus) := do
  if ← call .runtimeTransition then return .error runtimeTransitionError
  else startAndWait req coreHealthy none .ordinary none

def hasPendingOperation : Operation Bool := do
  let state ← call .snapshot
  return state.activeOperation.isSome || state.projection.captureOperation.isBusy

/-- `audit` from the admission on. -/
def auditAdmitted (reason : CaptureAuditReason) (coreHealthy : Bool) :
    Operation (Fallible CaptureRuntimeStatus) := do
  match ← call (.admitInput (.audit coreHealthy reason)) with
  | .error error => return .error error
  | .ok state =>
    match state.operation with
    | none => return .ok state.projection
    | some operation => waitForOperation operation

def audit (reason : CaptureAuditReason) (coreHealthy : Bool) :
    Operation (Fallible CaptureRuntimeStatus) := do
  if ← call .runtimeTransition then return .ok (← status)
  else if ← hasPendingOperation then return .ok (← status)
  else auditAdmitted reason coreHealthy

/-! ## What it runs against -/

/-- What a task returns that gives up because its token was cancelled. -/
def gaveUp : CaptureEffect → Option CaptureInput
  | .preflight correlation _ => some (.preflightFinished correlation)
  | .mutate _ correlation _ _ _ | .observe _ correlation _ | .audit _ correlation _ _
  | .recover _ _ correlation _ => some (.taskCancelled correlation)
  | .commitAudit .. | .finalize .. | .shutdown .. | .cancel _ => none

/-- How a task may end whose program has come to `rest`. -/
def Ends (task : StateMachine.Task CaptureEffect) (rest : Effectful CaptureInput) :
    Joined CaptureInput → Prop
  | .completed input => rest = .done input ∨
      (task.cancelled = true ∧ gaveUp task.effect = some input)
  | .panicked | .aborted => True

/-- The actor and the backends its tasks work on. -/
structure Live (m : CaptureMachine) (σ τ : Type) where
  runner : Runner m.machine
  worlds : Worlds σ τ

section
variable {m : CaptureMachine} {σ τ : Type} (c : CaptureEffectAdapter)
  (services : SystemProxy.Behaviour σ) (network : Tun.Behaviour τ)

/-- What the caller of an admission is told. An actor that unwinds does not reply. -/
def admission (r : Runner m.machine) (input : CaptureInput) : Fallible CaptureState :=
  match (r.applyInput .admission input).2 with
  | none => .error runtimeTransitionError
  | some (.error error) => .error error
  | some (.ok _) => .ok (r.applyInput .admission input).1.state

/-- What happens on its own: a task ends, or the actor goes away and its tasks
with it. -/
inductive Tick : Live m σ τ → Live m σ τ → Prop where
  | join {d} (task : StateMachine.Task CaptureEffect) (joined : Joined CaptureInput)
      {rest : Effectful CaptureInput} {worlds : Worlds σ τ} : d.runner.phase = .running →
      task ∈ d.runner.tasks →
      Exec (backends services network) (c.execute task.effect) d.worlds rest worlds →
      Ends task rest joined → Tick d ⟨d.runner.join task.id joined, worlds⟩
  | abort {d} : d.runner.phase = .running →
      Tick d ⟨d.runner.fail .cancelled, d.worlds⟩
  | abortTask {d} (task : StateMachine.Task CaptureEffect) {rest : Effectful CaptureInput}
      {worlds : Worlds σ τ} : d.runner.phase = .running → task ∈ d.runner.tasks →
      Exec (backends services network) (c.execute task.effect) d.worlds rest worlds →
      Tick d ⟨d.runner.fail .cancelled, worlds⟩

abbrev Ticks : Live m σ τ → Live m σ τ → Prop := Relation.ReflTransGen (Tick c services network)

/-- The replies of the actor. An admission may be refused because the inbox is
full or the actor has gone. -/
def Answers (d : Live m σ τ) : (r : Request) → Reply r → Live m σ τ → Prop
  | .runtimeTransition, _, t => t = d
  | .snapshot, state, t => state = d.runner.state ∧ t = d
  | .admitInput input, reply, t =>
    (reply = .error runtimeTransitionError ∧ t = d) ∨
    (d.runner.phase = .running ∧ reply = admission d.runner input ∧
      t = ⟨d.runner.admitInput input, d.worlds⟩)
  | .awaitEnd operation, some state, t =>
    state = d.runner.state ∧ state.activeOperation.any operation.names = false ∧ t = d
  | .awaitEnd _, none, t => d.runner.phase ≠ .running ∧ t = d

/-- Tasks may end before a call is answered. -/
def live : Environment Request Reply (Live m σ τ) :=
  fun d r a t => ∃ d', Ticks c services network d d' ∧ Answers d' r a t

end

end CaptureReconciler

end Mish.Capture
