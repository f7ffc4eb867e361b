import Mathlib.Algebra.Group.Nat.Defs
import Mathlib.Logic.Relation

/-!
# The execution kernel

The actor that owns a machine's state: it admits inputs, spawns the effects the
reducer emits, feeds their completions back, and drains them at shutdown. The
two deadlines of the drain may pass at any point, and a task may return any
input its executor allows, panic, or be aborted.
-/

namespace Mish.StateMachine

/-- The largest `u64`. -/
def maxU64 : Nat := 2 ^ 64 - 1

structure Correlation where
  machineAuthority : String
  scopeEpoch : Nat
  operationId : String
  (admittedRevision effectId : Nat)
  deriving DecidableEq

namespace Correlation

def sameOperation (c other : Correlation) : Bool :=
  c.machineAuthority == other.machineAuthority && c.scopeEpoch == other.scopeEpoch &&
    c.operationId == other.operationId && c.admittedRevision == other.admittedRevision

def withEffect (c : Correlation) (effectId : Nat) : Correlation := { c with effectId }

end Correlation

inductive EffectMode where
  | spawn | cancel
  deriving DecidableEq

inductive TaskFailure where
  | aborted | completionConflict | panicked

inductive Disposition where
  | accepted | rejected | unchanged | effectEmitting | committed | cancelled | failed | retired
  | recoveryRequired
  deriving DecidableEq

/-- The dispositions `shutdown` reports as a failed cleanup. -/
def Disposition.isFailure : Disposition → Bool
  | .rejected | .failed | .recoveryRequired => true
  | _ => false

structure EffectBatch (E : Type) where
  first : E
  rest : List E
  deriving DecidableEq

namespace EffectBatch

def one {E : Type} (effect : E) : EffectBatch E := ⟨effect, []⟩

def fromFirst {E : Type} (first : E) (rest : List E) : EffectBatch E := ⟨first, rest⟩

def toList {E : Type} (batch : EffectBatch E) : List E := batch.first :: batch.rest

end EffectBatch

inductive Transition (S E Error : Type) where
  | accepted (state : S)
  | rejected (error : Error)
  | unchanged
  | effectEmitting (state : S) (effects : EffectBatch E)
  | committed (state : S)
  | cancelled (state : S)
  | failed (state : S)
  | retired
  | recoveryRequired (state : S)
  deriving DecidableEq

namespace Transition
variable {S E Error : Type}

def disposition : Transition S E Error → Disposition
  | .accepted _ => .accepted
  | .rejected _ => .rejected
  | .unchanged => .unchanged
  | .effectEmitting _ _ => .effectEmitting
  | .committed _ => .committed
  | .cancelled _ => .cancelled
  | .failed _ => .failed
  | .retired => .retired
  | .recoveryRequired _ => .recoveryRequired

/-- The state after the transition. -/
def next (previous : S) : Transition S E Error → S
  | .accepted state | .committed state | .cancelled state | .failed state
  | .recoveryRequired state | .effectEmitting state _ => state
  | .rejected _ | .unchanged | .retired => previous

def effects : Transition S E Error → List E
  | .effectEmitting _ effects => effects.toList
  | _ => []

/-- What the caller of `apply_input` is told. -/
def admission : Transition S E Error → Except Error Disposition
  | .rejected error => .error error
  | transition => .ok transition.disposition

end Transition

/-- A product machine. Its reducer panics where `reduce` has no value. -/
structure Machine where
  (State Input Effect Error : Type)
  reduce : State → Input → Option (Transition State Effect Error)
  inputCorrelation : State → Input → Option Correlation
  effectIsCurrent : State → Correlation → Bool
  taskFailed : Correlation → TaskFailure → Input
  shutdown : Input
  correlation : Effect → Correlation
  mode : Effect → EffectMode

inductive EffectRole where
  | operation | finalizer
  deriving DecidableEq

structure OwnedEffect where
  task : Nat
  correlation : Correlation
  role : EffectRole
  deriving DecidableEq

/-- A task of the join set. `cancelled` is its cancellation token, of which the
owned effect with the same task id holds a clone. -/
structure Task (E : Type) where
  id : Nat
  effect : E
  cancelled : Bool
  deriving DecidableEq

/-- How a task ends. -/
inductive Joined (Input : Type) where
  | completed (input : Input)
  | panicked
  | aborted

inductive ForcedRetirementReason where
  | shutdownDeadlineExceeded | finalizerDeadlineExceeded

inductive DrainTerminal where
  | completed
  | forced (reason : ForcedRetirementReason)

structure DrainOutcome where
  terminal : DrainTerminal
  lastDisposition : Option Disposition

inductive ActorFailure where
  | cancelled | panicked | retiredBeforeReply

/-- What `complete_shutdown` sends to the caller of `shutdown`. The state of an
admission is the state the actor ends in. -/
structure ShutdownReply (Error : Type) where
  result : Except Error Disposition
  drain : DrainOutcome

/-- Where the actor is: in its loop, in one of the two windows of the drain,
returned, or ended by a panic or an abort. -/
inductive Phase (Error : Type) where
  | running
  | draining (shutdown : Except Error Disposition) (outcome : DrainOutcome)
  | finalizing (shutdown : Except Error Disposition) (outcome : DrainOutcome)
  | returned (reply : ShutdownReply Error)
  | failed (failure : ActorFailure)

/-- Why the reducer is called. -/
inductive Cause (Input : Type) where
  | admission
  | shutdown
  | settlement (owned : OwnedEffect) (joined : Joined Input)

section
variable {M : Machine}

/-- One call of the reducer, with the phase it was made in. -/
structure Reduction (M : Machine) where
  cause : Cause M.Input
  phase : Phase M.Error
  before : M.State
  input : M.Input
  transition : Option (Transition M.State M.Effect M.Error)

/-- The actor. `spawned` and `reductions` record, newest first, every effect it
has spawned and every call of the reducer it has made. -/
structure Runner (M : Machine) where
  state : M.State
  tasks : List (Task M.Effect)
  owned : List OwnedEffect
  nextId : Nat
  phase : Phase M.Error
  spawned : List OwnedEffect
  reductions : List (Reduction M)

namespace Runner

def start (initial : M.State) : Runner M where
  state := initial
  tasks := []
  owned := []
  nextId := 0
  phase := .running
  spawned := []
  reductions := []

variable (r : Runner M) (shutdown : Except M.Error Disposition) (outcome : DrainOutcome)
  (owned : OwnedEffect) (task : Nat) (joined : Joined M.Input) (forceStaleCompletion : Bool)

def cancel (correlation : Correlation) : Runner M :=
  { r with
    tasks := r.tasks.map fun task =>
      if r.owned.any fun owned => owned.task = task.id && owned.correlation = correlation then
        { task with cancelled := true }
      else task }

def spawn (effect : M.Effect) (role : EffectRole) : Runner M :=
  let owned : OwnedEffect := ⟨r.nextId, M.correlation effect, role⟩
  { r with
    tasks := r.tasks ++ [⟨r.nextId, effect, false⟩]
    owned := r.owned ++ [owned]
    nextId := r.nextId + 1
    spawned := owned :: r.spawned }

def perform (role : EffectRole) (r : Runner M) (effect : M.Effect) : Runner M :=
  match M.mode effect with
  | .cancel => r.cancel (M.correlation effect)
  | .spawn => r.spawn effect role

/-- The result is absent when the reducer panics. -/
def applyInputWithRole (cause : Cause M.Input) (input : M.Input)
    (role : EffectRole) : Runner M × Option (Except M.Error Disposition) :=
  let transition := M.reduce r.state input
  let reduced := { r with
    reductions := ⟨cause, r.phase, r.state, input, transition⟩ :: r.reductions }
  match transition with
  | none => (reduced, none)
  | some transition =>
    (transition.effects.foldl (perform role) { reduced with state := transition.next r.state },
      some transition.admission)

def applyInput (cause : Cause M.Input) (input : M.Input) :
    Runner M × Option (Except M.Error Disposition) :=
  r.applyInputWithRole cause input .operation

/-- The input that settles an owned effect, and the role of what it spawns. -/
def settling : M.Input × EffectRole :=
  match joined with
  | .completed input =>
    if M.inputCorrelation r.state input ≠ some owned.correlation ||
        !M.effectIsCurrent r.state owned.correlation ||
        (forceStaleCompletion && owned.role = .operation) then
      (M.taskFailed owned.correlation .completionConflict, .finalizer)
    else (input, owned.role)
  | .panicked => (M.taskFailed owned.correlation .panicked, .finalizer)
  | .aborted => (M.taskFailed owned.correlation .aborted, .finalizer)

/-- The disposition is absent when the reducer panics. -/
def settle : Runner M × Option Disposition :=
  let settling := r.settling owned joined forceStaleCompletion
  let applied := r.applyInputWithRole (.settlement owned joined) settling.1 settling.2
  (applied.1, applied.2.map fun
    | .ok disposition => disposition
    | .error _ => .rejected)

/-- Without a task and the effect it belongs to. -/
def without : Runner M :=
  { r with
    tasks := r.tasks.filter (·.id ≠ task)
    owned := r.owned.filter (·.task ≠ task) }

/-- The join set has given up the task. -/
def finishEffect : Runner M × Option Disposition :=
  match r.owned.find? (·.task = task) with
  | none => ({ r with tasks := r.tasks.filter (·.id ≠ task) }, some .retired)
  | some owned => (r.without task).settle owned joined forceStaleCompletion

/-- A panic unwinds the actor, and dropping the join set aborts its tasks. -/
def fail (failure : ActorFailure) : Runner M :=
  { r with tasks := [], owned := [], phase := .failed failure }

/-- `r` as it goes on when the reducer returned, unwound otherwise. -/
def continueWith {α : Type} (r : Runner M × Option α) (next : α → Phase M.Error) : Runner M :=
  match r.2 with
  | none => r.1.fail .panicked
  | some result => { r.1 with phase := next result }

def admitInput (input : M.Input) : Runner M :=
  continueWith (r.applyInput .admission input) fun _ => .running

def join : Runner M :=
  continueWith (r.finishEffect task joined false) fun _ => .running

def applyShutdown : Runner M :=
  continueWith (r.applyInput .shutdown M.shutdown) fun result =>
    .draining result ⟨.completed, none⟩

def drainJoin : Runner M :=
  continueWith (r.finishEffect task joined false) fun disposition =>
    .draining shutdown { outcome with lastDisposition := some disposition }

def finalizerJoin : Runner M :=
  continueWith (r.finishEffect task joined true) fun disposition =>
    .finalizing shutdown { outcome with lastDisposition := some disposition }

/-- Every token is cancelled and every task aborted. -/
def abortOwned : Runner M :=
  { r with
    tasks := r.tasks.map fun task =>
      if r.owned.any fun owned => owned.task = task.id then { task with cancelled := true }
      else task }

def exceedShutdownDeadline : Runner M :=
  { r.abortOwned with
    phase := .finalizing shutdown { outcome with terminal := .forced .shutdownDeadlineExceeded } }

/-- Late finalizers are detached together with their correlations. -/
def exceedFinalizerDeadline : Runner M :=
  { r with
    tasks := []
    owned := []
    phase := .returned ⟨shutdown, { outcome with terminal := .forced .finalizerDeadlineExceeded }⟩ }

end Runner

/-- `executes effect cancelled input`: the task of `effect` may return `input`,
given whether its token has been cancelled. -/
abbrev Executor (M : Machine) := M.Effect → Bool → M.Input → Prop

/-- How a task may end under an executor. Any task may panic or be aborted. -/
def Executor.Ends (executes : Executor M) (task : Task M.Effect) : Joined M.Input → Prop
  | .completed input => executes task.effect task.cancelled input
  | .panicked | .aborted => True

/-- One turn of the actor. `admits` says which inputs its callers send. -/
inductive Step (executes : Executor M) (admits : Runner M → M.Input → Prop) :
    Runner M → Runner M → Prop where
  | admitInput {r} (input : M.Input) : r.phase = .running → admits r input →
      Step executes admits r (r.admitInput input)
  | join {r} (task : Task M.Effect) (joined : Joined M.Input) :
      r.phase = .running → r.owned ≠ [] → task ∈ r.tasks → executes.Ends task joined →
      Step executes admits r (r.join task.id joined)
  | shutdown {r} : r.phase = .running → Step executes admits r r.applyShutdown
  | drainJoin {r shutdown outcome} (task : Task M.Effect) (joined : Joined M.Input) :
      r.phase = .draining shutdown outcome → task ∈ r.tasks → executes.Ends task joined →
      Step executes admits r (r.drainJoin shutdown outcome task.id joined)
  | drained {r shutdown outcome} : r.phase = .draining shutdown outcome → r.tasks = [] →
      Step executes admits r { r with phase := .returned ⟨shutdown, outcome⟩ }
  | shutdownDeadline {r shutdown outcome} : r.phase = .draining shutdown outcome → r.tasks ≠ [] →
      Step executes admits r (r.exceedShutdownDeadline shutdown outcome)
  | finalizerJoin {r shutdown outcome} (task : Task M.Effect) (joined : Joined M.Input) :
      r.phase = .finalizing shutdown outcome → task ∈ r.tasks → executes.Ends task joined →
      Step executes admits r (r.finalizerJoin shutdown outcome task.id joined)
  | finalized {r shutdown outcome} : r.phase = .finalizing shutdown outcome → r.tasks = [] →
      Step executes admits r { r with phase := .returned ⟨shutdown, outcome⟩ }
  | finalizerDeadline {r shutdown outcome} : r.phase = .finalizing shutdown outcome → r.tasks ≠ [] →
      Step executes admits r (r.exceedFinalizerDeadline shutdown outcome)
  -- The process or its runtime goes away.
  | abort {r} : (∀ reply, r.phase ≠ .returned reply) →
      (∀ failure, r.phase ≠ .failed failure) → Step executes admits r (r.fail .cancelled)

/-- The runners some sequence of turns reaches from `r`. -/
abbrev Run (executes : Executor M) (admits : Runner M → M.Input → Prop) :
    Runner M → Runner M → Prop :=
  Relation.ReflTransGen (Step executes admits)

end

end Mish.StateMachine
