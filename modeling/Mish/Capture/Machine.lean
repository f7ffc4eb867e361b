import Mish.Capture.Reconciler
import Mish.StateMachine.Kernel

/-!
# The Capture machine

The reducer of the aggregate Capture lifecycle, one definition per input. The
cancellation token and the reply channel that a preflight carries are read by
its task only and have no counterpart in the inputs here.
-/

namespace Mish.Capture
open StateMachine

inductive TransitionMode where
  | ordinary | prepared | runtimeReplacement
  deriving DecidableEq

structure StableCapture where
  lastError : Option CaptureTransitionError
  projection : CaptureRuntimeStatus
  (nextOperationId revision : Nat)
  deriving DecidableEq

/-- The handle `admit_operation` gives to the owner of an operation. -/
structure CaptureOperation where
  correlation : Correlation
  previous : CaptureRuntimeStatus
  publicOperationId : String
  request : CaptureRequest
  deriving DecidableEq

structure ActiveOperation where
  correlation : Correlation
  mode : TransitionMode
  (pending publicPending previous : CaptureRuntimeStatus)
  publicOperationId : String
  request : CaptureRequest
  deriving DecidableEq

def ActiveOperation.publicOperation (o : ActiveOperation) : CaptureOperation :=
  ⟨o.correlation, o.previous, o.publicOperationId, o.request⟩

/-- `CaptureOperation::matches`. -/
def CaptureOperation.names (token : CaptureOperation) (operation : ActiveOperation) : Bool :=
  token.correlation.sameOperation operation.correlation

inductive TransitionStage where
  | reserved | preflighting | mutating | finalizing
  deriving DecidableEq

structure TransitioningCapture where
  deferredFailure : Option CaptureTransitionError
  operation : ActiveOperation
  stable : StableCapture
  stage : TransitionStage
  deriving DecidableEq

structure ReconcilingCapture where
  operation : ActiveOperation
  stable : StableCapture
  deriving DecidableEq

structure RecoveryRequiredCapture where
  error : Option CaptureTransitionError
  nextOperationId : Nat
  projection : CaptureRuntimeStatus
  revision : Nat
  deriving DecidableEq

structure ShuttingDownCapture where
  correlation : Correlation
  projection : CaptureRuntimeStatus
  deriving DecidableEq

structure RetiredCapture where
  error : Option CaptureTransitionError
  projection : CaptureRuntimeStatus
  deriving DecidableEq

inductive CaptureState where
  | stable (state : StableCapture)
  | transitioning (state : TransitioningCapture)
  | reconciling (state : ReconcilingCapture)
  | recoveryRequired (state : RecoveryRequiredCapture)
  | shuttingDown (state : ShuttingDownCapture)
  | retired (state : RetiredCapture)
  deriving DecidableEq

namespace CaptureState

def projection : CaptureState → CaptureRuntimeStatus
  | .stable state => state.projection
  | .transitioning state => state.operation.pending
  | .reconciling state => state.operation.pending
  | .recoveryRequired state => state.projection
  | .shuttingDown state => state.projection
  | .retired state => state.projection

def confirmedProjection : CaptureState → CaptureRuntimeStatus
  | .transitioning state => state.operation.previous
  | .reconciling state => state.operation.previous
  | state => state.projection

def activeOperation : CaptureState → Option ActiveOperation
  | .transitioning state => some state.operation
  | .reconciling state => some state.operation
  | _ => none

def operation (state : CaptureState) : Option CaptureOperation :=
  state.activeOperation.map ActiveOperation.publicOperation

def revision : CaptureState → Nat
  | .stable state => state.revision
  | .transitioning state => state.operation.correlation.admittedRevision
  | .reconciling state => state.operation.correlation.admittedRevision
  | .recoveryRequired state => state.revision
  | .shuttingDown state => state.correlation.admittedRevision
  | .retired _ => 0

def lastError : CaptureState → Option CaptureTransitionError
  | .stable state => state.lastError
  | .recoveryRequired state => state.error
  | .retired state => state.error
  | _ => none

def base : CaptureState → Option StableCapture
  | .stable state => if !state.projection.captureOperation.isBusy then some state else none
  | .recoveryRequired state =>
    some ⟨state.error, state.projection, state.nextOperationId, state.revision⟩
  | _ => none

end CaptureState

structure AuditOutcome where
  error : Option CaptureTransitionError
  mutated : Bool
  status : CaptureRuntimeStatus
  deriving DecidableEq

structure EffectOutcome where
  error : Option CaptureTransitionError
  status : CaptureRuntimeStatus

structure CapturePreflight where
  reconcilerId : Nat
  systemProxy : Option SystemProxy.SystemProxyPreflight
  deriving DecidableEq

inductive CaptureInput where
  | preflight (request : CaptureRequest)
  | preflightFinished (correlation : Correlation)
  | reserve (request : CaptureRequest) (mode : TransitionMode)
  | start (coreHealthy : Bool) (mode : TransitionMode) (operationPrefix : Option String)
      (preflight : Option CapturePreflight) (request : CaptureRequest)
  | executeReserved (coreHealthy : Bool) (operation : CaptureOperation)
      (preflight : Option CapturePreflight) (request : CaptureRequest)
  | failReserved (error : CaptureTransitionError) (operation : CaptureOperation)
  | markFinalizing (error : CaptureTransitionError) (operation : CaptureOperation)
  | mutationFinished (correlation : Correlation) (outcome : EffectOutcome)
  | observationFinished (correlation : Correlation) (outcome : EffectOutcome)
  | audit (coreHealthy : Bool) (reason : CaptureAuditReason)
  | auditFinished (correlation : Correlation) (outcome : AuditOutcome)
  | auditCommitted (correlation : Correlation) (outcome : AuditOutcome)
  | recover (action : CaptureRecoveryAction) (coreHealthy : Bool)
  | recoveryFinished (correlation : Correlation) (outcome : EffectOutcome)
  | finalized (correlation : Correlation) (outcome : EffectOutcome)
  | taskFailed (correlation : Correlation) (failure : TaskFailure)
  | taskCancelled (correlation : Correlation)
  | shutdown
  | shutdownFinished (correlation : Correlation)
      (result : Except CaptureTransitionError CaptureRuntimeStatus)

inductive CaptureEffect where
  | preflight (correlation : Correlation) (request : CaptureRequest)
  | mutate (coreHealthy : Bool) (correlation : Correlation)
      (preflight : Option CapturePreflight) (previous : CaptureRuntimeStatus)
      (request : CaptureRequest)
  | observe (coreHealthy : Bool) (correlation : Correlation) (request : CaptureRequest)
  | audit (coreHealthy : Bool) (correlation : Correlation) (previous : CaptureRuntimeStatus)
      (reason : CaptureAuditReason)
  | commitAudit (correlation : Correlation) (outcome : AuditOutcome)
  | recover (action : CaptureRecoveryAction) (coreHealthy : Bool) (correlation : Correlation)
      (request : CaptureRequest)
  | finalize (coreHealthy : Bool) (correlation : Correlation) (request : CaptureRequest)
  | cancel (correlation : Correlation)
  | shutdown (correlation : Correlation) (previous : CaptureRuntimeStatus)
  deriving DecidableEq

def CaptureEffect.correlation : CaptureEffect → Correlation
  | .preflight correlation _ | .mutate _ correlation _ _ _ | .observe _ correlation _
  | .audit _ correlation _ _ | .commitAudit correlation _ | .recover _ _ correlation _
  | .finalize _ correlation _ | .cancel correlation | .shutdown correlation _ => correlation

def CaptureEffect.mode : CaptureEffect → EffectMode
  | .cancel _ => .cancel
  | _ => .spawn

def mutationEffectId : Nat := 1
def observationEffectId : Nat := 2
def auditEffectId : Nat := 3
def recoveryEffectId : Nat := 4
def finalizerEffectId : Nat := 5
def shutdownEffectId : Nat := 6
def auditCommitEffectId : Nat := 7
def preflightEffectId : Nat := 8

abbrev CaptureTransition := Transition CaptureState CaptureEffect CaptureTransitionError

structure CaptureMachine where
  machineAuthority : String
  scopeEpoch : Nat

/-- `checked_add(1)` on a `u64`. -/
def checkedSucc (n : Nat) : Option Nat := if n < maxU64 then some (n + 1) else none

/-- `n - 1` on a `u64`, which panics at zero. -/
def checkedPred : Nat → Option Nat
  | 0 => none
  | n + 1 => some n

namespace CaptureMachine
variable (m : CaptureMachine) (state : CaptureState) (correlation : Correlation)

/-- The status published while an operation is pending. -/
def pendingProjection (projection : CaptureRuntimeStatus) (request : CaptureRequest)
    (publicOperationId : String) : CaptureRuntimeStatus :=
  let systemProxyInvolved := request.selection.systemProxy ||
    projection.captureSelection.systemProxy || projection.systemProxy.desired ||
    projection.systemProxyEnabled
  let tunInvolved := request.selection.tun || projection.captureSelection.tun ||
    projection.tun.desired || projection.tunEnabled
  { projection with
    captureOperation := ⟨none, some publicOperationId, .pending, m.machineAuthority⟩
    captureSelection := request.selection
    systemProxy := if systemProxyInvolved then
        { projection.systemProxy with
          desired := request.active && request.selection.systemProxy
          failure := none
          phase := .pending }
      else projection.systemProxy
    tun := if tunInvolved then
        { projection.tun with
          desired := request.active && request.selection.tun
          failure := none
          phase := .pending }
      else projection.tun }

/-- The identity of the operation after `stable`. -/
def operationCorrelation (stable : StableCapture) (operationPrefix : Option String)
    (admittedRevision : Nat) : Correlation where
  machineAuthority := m.machineAuthority
  scopeEpoch := m.scopeEpoch
  operationId := match operationPrefix with
    | none => toString stable.nextOperationId
    | some text => text ++ "-" ++ toString stable.nextOperationId
  admittedRevision := admittedRevision
  effectId := 0

/-- Absent when a counter is exhausted. -/
def operation (stable : StableCapture) (request : CaptureRequest) (mode : TransitionMode)
    (operationPrefix : Option String) : Option (StableCapture × ActiveOperation) := do
  let nextOperationId ← checkedSucc stable.nextOperationId
  let admittedRevision ← checkedSucc stable.revision
  let publicOperationId := toString stable.nextOperationId
  let pending := m.pendingProjection stable.projection request publicOperationId
  return (⟨stable.lastError, stable.projection, nextOperationId, admittedRevision⟩,
    { correlation := m.operationCorrelation stable operationPrefix admittedRevision
      mode
      pending
      publicPending := pending
      previous := stable.projection
      publicOperationId
      request })

/-- `projection` under the identity of a finished operation. -/
def terminal (operation : ActiveOperation) (projection : CaptureRuntimeStatus)
    (failure : Option CaptureFailureKind) (phase : CaptureOperationPhase) :
    CaptureRuntimeStatus :=
  { projection with
    captureOperation := ⟨failure, some operation.publicOperationId, phase,
      operation.pending.captureOperation.scopeEpoch⟩ }

def finish (stable : StableCapture) (operation : ActiveOperation)
    (projection : CaptureRuntimeStatus) (phase : CaptureOperationPhase) : CaptureState :=
  let projection := terminal operation projection none phase
  if phase = .recoveryRequired then
    .recoveryRequired ⟨none, stable.nextOperationId, projection, stable.revision⟩
  else .stable { stable with lastError := none, projection }

def recovery (stable : StableCapture) (operation : ActiveOperation)
    (projection : CaptureRuntimeStatus) (error : CaptureTransitionError) : CaptureState :=
  if operation.mode = .prepared then
    .stable { stable with
      lastError := some error
      projection := terminal operation projection (some error.kind) .finalizing }
  else
    .recoveryRequired ⟨some error, stable.nextOperationId,
      terminal operation projection (some error.kind) .recoveryRequired, stable.revision⟩

def failed (stable : StableCapture) (operation : ActiveOperation)
    (projection : CaptureRuntimeStatus) (error : CaptureTransitionError) : CaptureState :=
  .stable { stable with
    lastError := some error
    projection := terminal operation projection (some error.kind)
      (if operation.mode = .prepared then .finalizing else .failed) }

/-- The end of an operation by an error: a failed rollback needs recovery. -/
def endWith (stable : StableCapture) (operation : ActiveOperation)
    (projection : CaptureRuntimeStatus) (error : CaptureTransitionError) : CaptureTransition :=
  if error.kind = .rollbackFailed then
    .recoveryRequired (recovery stable operation projection error)
  else .failed (failed stable operation projection error)

/-- `matching`: the completion of effect `effectId` of this operation. -/
def matching (operation : ActiveOperation) (correlation : Correlation) (effectId : Nat) : Bool :=
  operation.correlation.sameOperation correlation && correlation.effectId == effectId

/-- `operation` while its failure is being finalized. -/
def finalizingOperation (operation : ActiveOperation) (failure : CaptureFailureKind) :
    ActiveOperation :=
  { operation with
    pending := { operation.pending with
      captureOperation := { operation.pending.captureOperation with
        failure := some failure, phase := .finalizing } } }

def finalizer (stable : StableCapture) (operation : ActiveOperation)
    (error : CaptureTransitionError) : CaptureTransition :=
  .effectEmitting
    (.transitioning ⟨none, finalizingOperation operation error.kind, stable, .finalizing⟩)
    (.one (.finalize false (operation.correlation.withEffect finalizerEffectId) operation.request))

def taskFailureError : TaskFailure → CaptureTransitionError
  | .aborted => ⟨.runtimeTransition, "Capture operation was aborted before completion", none, none⟩
  | .completionConflict => ⟨.runtimeTransition,
      "Capture operation completion was retired after its authority changed", none, none⟩
  | .panicked =>
    ⟨.runtimeTransition, "Capture operation panicked before completion", none, none⟩

def cancelledError : CaptureTransitionError :=
  ⟨.runtimeTransition, "Capture operation was cancelled before completion", none, none⟩

def terminatedError : CaptureTransitionError :=
  ⟨.runtimeTransition, "Capture effect was cancelled or terminated before completion", none, none⟩

/-! ## One function per input -/

/-- Panics on a stable state whose projection is still busy. -/
def preflight (state : CaptureState) (request : CaptureRequest) : Option CaptureTransition :=
  match state with
  | .stable _ | .recoveryRequired _ => do
    let base ← state.base
    match m.operation base request .ordinary (some "preflight") with
    | none => return .rejected runtimeTransitionError
    | some (stable, operation) =>
      let operation := { operation with pending := operation.previous }
      return .effectEmitting (.reconciling ⟨operation, stable⟩)
        (.one (.preflight (operation.correlation.withEffect preflightEffectId) request))
  | .transitioning current =>
    if current.stage = .reserved ∧ current.operation.request = request then
      some (.effectEmitting
        (.transitioning { current with deferredFailure := none, stage := .preflighting })
        (.one (.preflight (current.operation.correlation.withEffect preflightEffectId) request)))
    else some (.rejected runtimeTransitionError)
  | _ => some (.rejected runtimeTransitionError)

/-- A read-only step that is over: the counters go back by one. -/
def rewound (current : ReconcilingCapture) : Option CaptureTransition := do
  let nextOperationId ← checkedPred current.stable.nextOperationId
  let revision ← checkedPred current.stable.revision
  return .accepted (.stable ⟨none, current.operation.previous, nextOperationId, revision⟩)

def preflightFinished : Option CaptureTransition :=
  match state with
  | .reconciling current =>
    if matching current.operation correlation preflightEffectId then rewound current
    else some .retired
  | .transitioning current =>
    if current.stage = .preflighting ∧
        matching current.operation correlation preflightEffectId = true then
      match current.deferredFailure with
      | some error =>
        some (endWith current.stable current.operation current.operation.previous error)
      | none =>
        some (.accepted
          (.transitioning { current with deferredFailure := none, stage := .reserved }))
    else some .retired
  | _ => some .retired

def reserve (request : CaptureRequest) (mode : TransitionMode) : CaptureTransition :=
  match state.base.bind fun base => m.operation base request mode none with
  | none => .rejected runtimeTransitionError
  | some (stable, operation) => .accepted (.transitioning ⟨none, operation, stable, .reserved⟩)

def start (coreHealthy : Bool) (mode : TransitionMode)
    (operationPrefix : Option String) (preflight : Option CapturePreflight)
    (request : CaptureRequest) : CaptureTransition :=
  match state.base.bind fun base => m.operation base request mode operationPrefix with
  | none => .rejected runtimeTransitionError
  | some (stable, operation) =>
    .effectEmitting (.transitioning ⟨none, operation, stable, .mutating⟩)
      (.one (.mutate coreHealthy (operation.correlation.withEffect mutationEffectId) preflight
        operation.previous request))

def executeReserved (coreHealthy : Bool) (token : CaptureOperation)
    (preflight : Option CapturePreflight) (request : CaptureRequest) : CaptureTransition :=
  match state with
  | .transitioning current =>
    if current.stage ≠ .reserved ∨
        current.operation.correlation.sameOperation token.correlation = false ∨
        current.operation.request ≠ request ∨ token.request ≠ request then .retired
    else
      .effectEmitting (.transitioning { current with deferredFailure := none, stage := .mutating })
        (.one (.mutate coreHealthy (current.operation.correlation.withEffect mutationEffectId)
          preflight current.operation.previous request))
  | _ => .retired

/-- The published operation is the one the token names. -/
def publishes (projection : CaptureRuntimeStatus) (token : CaptureOperation) : Bool :=
  projection.captureOperation.scopeEpoch == token.correlation.machineAuthority &&
    projection.captureOperation.operationId == some token.publicOperationId

/-- The status before the token's operation, marked as failed. -/
def failedToken (token : CaptureOperation) (error : CaptureTransitionError) :
    CaptureRuntimeStatus :=
  { token.previous with
    captureOperation := ⟨some error.kind, some token.publicOperationId, .failed,
      token.correlation.machineAuthority⟩ }

/-- The counters an operation that is being finalized falls back on. -/
def finalizingStable : CaptureState → Option StableCapture
  | .stable current => some current
  | .transitioning current => some current.stable
  | .reconciling current => some current.stable
  | _ => none

/-- The counters of a state in which no operation is active. -/
def settledCounters : CaptureState → Option (Nat × Nat)
  | .stable current => some (current.nextOperationId, current.revision)
  | .recoveryRequired current => some (current.nextOperationId, current.revision)
  | _ => none

/-- The failure of an operation that was reserved and has not run. -/
def failUnpublished (error : CaptureTransitionError)
    (token : CaptureOperation) : CaptureTransition :=
  match state with
  | .transitioning current =>
    if current.operation.correlation.sameOperation token.correlation = false then .retired
    else
      match current.stage with
      | .preflighting =>
        if current.deferredFailure.isSome then .unchanged
        else
          .effectEmitting (.transitioning { current with deferredFailure := some error })
            (.one (.cancel (current.operation.correlation.withEffect preflightEffectId)))
      | .reserved =>
        -- nothing has started, so there is no cleanup window to wait for
        endWith current.stable { current.operation with mode := .ordinary }
          current.operation.previous error
      | _ => .retired
  | _ => .retired

def failReserved (error : CaptureTransitionError)
    (token : CaptureOperation) : CaptureTransition :=
  let projection := state.projection
  let operation := projection.captureOperation
  if publishes projection token = true ∧ operation.phase = .finalizing then
    match finalizingStable state with
    | none => .retired
    | some stable =>
      if error.kind = .rollbackFailed then
        .recoveryRequired (.recoveryRequired ⟨some error, stable.nextOperationId,
          { projection with
            captureOperation := { operation with
              failure := some error.kind, phase := .recoveryRequired } },
          stable.revision⟩)
      else
        .failed (.stable { stable with
          lastError := some error, projection := failedToken token error })
  else
    match settledCounters state with
    | none => failUnpublished state error token
    | some (nextOperationId, revision) =>
      if publishes projection token = true ∧ operation.phase ≠ .pending then
        if error.kind = .rollbackFailed then
          .recoveryRequired (.recoveryRequired ⟨some error, nextOperationId,
            { projection with
              captureOperation := { operation with phase := .recoveryRequired } },
            revision⟩)
        else
          .failed (.stable ⟨some error, failedToken token error, nextOperationId, revision⟩)
      else failUnpublished state error token

def markFinalizing (error : CaptureTransitionError)
    (token : CaptureOperation) : CaptureTransition :=
  match state with
  | .transitioning current =>
    if token.names current.operation then
      .accepted (.transitioning { current with
        operation := finalizingOperation current.operation error.kind })
    else .retired
  | .reconciling current =>
    if token.names current.operation then
      .accepted (.reconciling { current with
        operation := finalizingOperation current.operation error.kind })
    else .retired
  | .stable current =>
    if publishes current.projection token = true ∧
        current.projection.captureOperation.phase = .finalizing then
      .accepted (.stable { current with
        lastError := some error
        projection := { current.projection with
          captureOperation := { current.projection.captureOperation with
            failure := some error.kind } } })
    else .retired
  | _ => .retired

/-- The end of a mutation or of a recovery, whose success is then observed. -/
def effectFinished (expected : Nat)
    (request : ActiveOperation → CaptureRequest) (outcome : EffectOutcome) : CaptureTransition :=
  match state with
  | .transitioning current =>
    if matching current.operation correlation expected = false then .retired
    else
      match outcome.error with
      | none =>
        let operation := { current.operation with request := request current.operation }
        .effectEmitting (.reconciling ⟨operation, current.stable⟩)
          (.one (.observe true (current.operation.correlation.withEffect observationEffectId)
            operation.request))
      | some error => endWith current.stable current.operation outcome.status error
  | _ => .retired

def mutationFinished (outcome : EffectOutcome) : CaptureTransition :=
  effectFinished state correlation mutationEffectId (fun operation => operation.request) outcome

def recoveryFinished (outcome : EffectOutcome) : CaptureTransition :=
  effectFinished state correlation recoveryEffectId
    (fun _ => ⟨outcome.status.systemProxy.desired || outcome.status.tun.desired,
      outcome.status.captureSelection⟩) outcome

def observationFinished (outcome : EffectOutcome) : CaptureTransition :=
  match state with
  | .reconciling current =>
    if matching current.operation correlation observationEffectId = false then .retired
    else
      match outcome.error with
      | none => .committed (finish current.stable current.operation outcome.status .applied)
      | some error =>
        .recoveryRequired (recovery current.stable current.operation outcome.status error)
  | _ => .retired

/-- The request an audit or a recovery runs under. -/
def standingRequest (projection : CaptureRuntimeStatus) : CaptureRequest :=
  ⟨projection.systemProxy.desired || projection.tun.desired, projection.captureSelection⟩

def audit (state : CaptureState) (coreHealthy : Bool) (reason : CaptureAuditReason) :
    CaptureTransition :=
  match state.base with
  | none => .unchanged
  | some base =>
    match m.operation base (standingRequest base.projection) .ordinary (some "audit") with
    | none => .rejected runtimeTransitionError
    | some (stable, operation) =>
      let operation := { operation with pending := operation.previous }
      .effectEmitting (.reconciling ⟨operation, stable⟩)
        (.one (.audit coreHealthy (operation.correlation.withEffect auditEffectId)
          base.projection reason))

def auditFinished (outcome : AuditOutcome) : Option CaptureTransition :=
  match state with
  | .reconciling current =>
    if matching current.operation correlation auditEffectId = false then some .retired
    else if !(outcome.mutated || outcome.error.isSome) then rewound current
    else
      let operation := { current.operation with pending := current.operation.publicPending }
      some (.effectEmitting (.transitioning ⟨none, operation, current.stable, .mutating⟩)
        (.one (.commitAudit (operation.correlation.withEffect auditCommitEffectId) outcome)))
  | _ => some .retired

def auditCommitted (outcome : AuditOutcome) : CaptureTransition :=
  match state with
  | .transitioning current =>
    if matching current.operation correlation auditCommitEffectId = false then .retired
    else
      match outcome.error with
      | some error =>
        .recoveryRequired (recovery current.stable current.operation outcome.status error)
      | none =>
        if outcome.status.systemProxy.phase = .drift ∨ outcome.status.tun.phase = .drift then
          .recoveryRequired
            (finish current.stable current.operation outcome.status .recoveryRequired)
        else .committed (finish current.stable current.operation outcome.status .applied)
  | _ => .retired

def recover (state : CaptureState) (action : CaptureRecoveryAction) (coreHealthy : Bool) :
    CaptureTransition :=
  match state.base with
  | none => .rejected runtimeTransitionError
  | some base =>
    let request := standingRequest base.projection
    match m.operation base request .ordinary none with
    | none => .rejected runtimeTransitionError
    | some (stable, operation) =>
      .effectEmitting (.transitioning ⟨none, operation, stable, .mutating⟩)
        (.one (.recover action coreHealthy (operation.correlation.withEffect recoveryEffectId)
          request))

/-- An effect of the active operation ended without a result. A failure that was
waiting for a preflight to end takes effect; anything else is finalized. -/
def interrupted (error : CaptureTransitionError) : CaptureTransition :=
  match state with
  | .transitioning current =>
    if current.operation.correlation.sameOperation correlation = false then .retired
    else if current.stage = .preflighting ∧ correlation.effectId = preflightEffectId then
      match current.deferredFailure with
      | some deferred =>
        endWith current.stable current.operation current.operation.previous deferred
      | none => finalizer current.stable current.operation error
    else finalizer current.stable current.operation error
  | .reconciling current =>
    if current.operation.correlation.sameOperation correlation = false then .retired
    else finalizer current.stable current.operation error
  | _ => .retired

def taskFailed (failure : TaskFailure) : CaptureTransition :=
  if correlation.operationId = "shutdown" then
    match state with
    | .shuttingDown current =>
      if current.correlation ≠ correlation then .retired
      else .failed (.retired ⟨some (taskFailureError failure), current.projection⟩)
    | _ => .retired
  else interrupted state correlation (taskFailureError failure)

def taskCancelled : CaptureTransition :=
  interrupted state correlation cancelledError

def finalized (outcome : EffectOutcome) : CaptureTransition :=
  match state with
  | .transitioning current =>
    if current.stage ≠ .finalizing ∨
        matching current.operation correlation finalizerEffectId = false then .retired
    else
      .recoveryRequired (recovery current.stable current.operation outcome.status
        (outcome.error.getD terminatedError))
  | _ => .retired

/-- The correlation a shutdown cancels, read off the state and its stage. -/
def cancelTarget : CaptureState → Option Correlation
  | .transitioning current => some (match current.stage with
    | .reserved => current.operation.correlation
    | .preflighting => current.operation.correlation.withEffect preflightEffectId
    | .mutating => current.operation.correlation.withEffect mutationEffectId
    | .finalizing => current.operation.correlation.withEffect finalizerEffectId)
  | .reconciling current => some (current.operation.correlation.withEffect observationEffectId)
  | _ => none

def shutdown (state : CaptureState) : CaptureTransition :=
  let projection := state.confirmedProjection
  let correlation : Correlation :=
    ⟨m.machineAuthority, m.scopeEpoch, "shutdown", min (state.revision + 1) maxU64,
      shutdownEffectId⟩
  let shutdown := CaptureEffect.shutdown correlation projection
  .effectEmitting (.shuttingDown ⟨correlation, projection⟩) (match cancelTarget state with
    | some target => .fromFirst (.cancel target) [shutdown]
    | none => .one shutdown)

def shutdownFinished
    (result : Except CaptureTransitionError CaptureRuntimeStatus) : CaptureTransition :=
  match state with
  | .shuttingDown current =>
    if current.correlation ≠ correlation then .retired
    else
      match result with
      | .ok projection => .cancelled (.retired ⟨none, projection⟩)
      | .error error => .failed (.retired ⟨some error, current.projection⟩)
  | _ => .retired

/-- Absent where the source panics. -/
def reduce : CaptureInput → Option CaptureTransition
  | .preflight request => m.preflight state request
  | .preflightFinished correlation => preflightFinished state correlation
  | .reserve request mode => some (m.reserve state request mode)
  | .start coreHealthy mode operationPrefix preflight request =>
    some (m.start state coreHealthy mode operationPrefix preflight request)
  | .executeReserved coreHealthy token preflight request =>
    some (executeReserved state coreHealthy token preflight request)
  | .failReserved error token => some (failReserved state error token)
  | .markFinalizing error token => some (markFinalizing state error token)
  | .mutationFinished correlation outcome => some (mutationFinished state correlation outcome)
  | .recoveryFinished correlation outcome => some (recoveryFinished state correlation outcome)
  | .observationFinished correlation outcome =>
    some (observationFinished state correlation outcome)
  | .audit coreHealthy reason => some (m.audit state coreHealthy reason)
  | .auditFinished correlation outcome => auditFinished state correlation outcome
  | .auditCommitted correlation outcome => some (auditCommitted state correlation outcome)
  | .recover action coreHealthy => some (m.recover state action coreHealthy)
  | .taskFailed correlation failure => some (taskFailed state correlation failure)
  | .taskCancelled correlation => some (taskCancelled state correlation)
  | .finalized correlation outcome => some (finalized state correlation outcome)
  | .shutdown => some (m.shutdown state)
  | .shutdownFinished correlation result => some (shutdownFinished state correlation result)

def inputCorrelation : CaptureInput → Option Correlation
  | .executeReserved _ operation _ _ | .failReserved _ operation | .markFinalizing _ operation =>
    some operation.correlation
  | .preflightFinished correlation | .mutationFinished correlation _
  | .observationFinished correlation _ | .auditFinished correlation _
  | .auditCommitted correlation _ | .recoveryFinished correlation _ | .finalized correlation _
  | .taskFailed correlation _ | .taskCancelled correlation
  | .shutdownFinished correlation _ => some correlation
  | .preflight _ | .reserve _ _ | .start _ _ _ _ _ | .audit _ _ | .recover _ _ | .shutdown => none

/-- The effect ids a stage waits for. -/
def TransitionStage.awaits : TransitionStage → List Nat
  | .reserved => []
  | .preflighting => [preflightEffectId]
  | .mutating => [mutationEffectId, recoveryEffectId, auditCommitEffectId]
  | .finalizing => [finalizerEffectId]

def effectIsCurrent : Bool :=
  match state with
  | .transitioning current =>
    decide (correlation.effectId ∈ TransitionStage.awaits current.stage) &&
      current.operation.correlation.sameOperation correlation
  | .reconciling current =>
    decide (correlation.effectId ∈ [preflightEffectId, observationEffectId, auditEffectId]) &&
      current.operation.correlation.sameOperation correlation
  | .shuttingDown current => current.correlation == correlation
  | .stable _ | .recoveryRequired _ | .retired _ => false

/-- As the kernel runs it. -/
@[reducible] def machine : Machine where
  State := CaptureState
  Input := CaptureInput
  Effect := CaptureEffect
  Error := CaptureTransitionError
  reduce := m.reduce
  inputCorrelation := fun _ => inputCorrelation
  effectIsCurrent := effectIsCurrent
  taskFailed := .taskFailed
  shutdown := .shutdown
  correlation := CaptureEffect.correlation
  mode := CaptureEffect.mode

end CaptureMachine

/-- What the task of an effect returns. The outcomes are the platform's; a task
whose token was cancelled may give up instead. -/
inductive CaptureExecutes : CaptureEffect → Bool → CaptureInput → Prop where
  | preflight (correlation request cancelled) :
      CaptureExecutes (.preflight correlation request) cancelled (.preflightFinished correlation)
  | mutate (coreHealthy correlation preflight previous request cancelled outcome) :
      CaptureExecutes (.mutate coreHealthy correlation preflight previous request) cancelled
        (.mutationFinished correlation outcome)
  | observe (coreHealthy correlation request cancelled outcome) :
      CaptureExecutes (.observe coreHealthy correlation request) cancelled
        (.observationFinished correlation outcome)
  | audit (coreHealthy correlation previous reason cancelled outcome) :
      CaptureExecutes (.audit coreHealthy correlation previous reason) cancelled
        (.auditFinished correlation outcome)
  | commitAudit (correlation outcome cancelled) :
      CaptureExecutes (.commitAudit correlation outcome) cancelled
        (.auditCommitted correlation outcome)
  | recover (action coreHealthy correlation request cancelled outcome) :
      CaptureExecutes (.recover action coreHealthy correlation request) cancelled
        (.recoveryFinished correlation outcome)
  | finalize (coreHealthy correlation request cancelled outcome) :
      CaptureExecutes (.finalize coreHealthy correlation request) cancelled
        (.finalized correlation outcome)
  | shutdown (correlation previous cancelled result) :
      CaptureExecutes (.shutdown correlation previous) cancelled
        (.shutdownFinished correlation result)
  | cancelMutate (coreHealthy correlation preflight previous request) :
      CaptureExecutes (.mutate coreHealthy correlation preflight previous request) true
        (.taskCancelled correlation)
  | cancelObserve (coreHealthy correlation request) :
      CaptureExecutes (.observe coreHealthy correlation request) true (.taskCancelled correlation)
  | cancelAudit (coreHealthy correlation previous reason) :
      CaptureExecutes (.audit coreHealthy correlation previous reason) true
        (.taskCancelled correlation)
  | cancelRecover (action coreHealthy correlation request) :
      CaptureExecutes (.recover action coreHealthy correlation request) true
        (.taskCancelled correlation)

end Mish.Capture
