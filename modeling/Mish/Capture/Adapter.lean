import Mish.Interaction.Sum
import Mish.Capture.Machine
import Mish.Capture.Tun
import Mish.Capture.World

/-!
# The Capture effects

`CaptureEffectAdapter` runs the System Proxy and the TUN reconciler one after
the other, and `CaptureExecutor` turns what it does for an effect into the
completion of that effect.
-/

namespace Mish.Capture
open Interaction Tun
open SystemProxy (Fallible)

/-- Programs over the calls of both reconcilers. -/
abbrev Effectful :=
  Program (SystemProxy.Request ⊕ Request) (SumReply SystemProxy.Reply Reply)

/-- An operation of the System Proxy reconciler. -/
def onProxy {α : Type} (p : SystemProxy.Operation α) : Effectful α := p.inl

/-- An operation of the TUN reconciler. -/
def onTun {α : Type} (p : Operation α) : Effectful α := p.inr

/-- The backends of one reconciler. Without a helper there is no TUN reconciler. -/
structure CaptureEffectAdapter where
  identity : Nat
  endpoint : LoopbackProxyEndpoint
  hasTun : Bool

namespace CaptureEffectAdapter
variable (c : CaptureEffectAdapter) (req : CaptureRequest) (coreHealthy : Bool)

def preflight (req : CaptureRequest) : Effectful (Fallible CapturePreflight) := do
  if req.active && req.selection.systemProxy then
    match ← onProxy (SystemProxy.preflight c.endpoint) with
    | .error error => return .error error
    | .ok systemProxy => return .ok ⟨c.identity, some systemProxy⟩
  else return .ok ⟨c.identity, none⟩

def tunAvailability : Effectful CapabilityAvailability :=
  if c.hasTun then onTun availability else return .unavailable

def tunStatus : Effectful TunRuntimeStatus :=
  if c.hasTun then onTun (call .readStatus) else return .off

/-- `combined_status`, of what the two cells hold. -/
def combine (selection : CaptureSelection) (proxy : CaptureRuntimeStatus)
    (tun : TunRuntimeStatus) : CaptureRuntimeStatus where
  captureOperation := .detached
  captureSelection := selection
  systemProxy := proxy.systemProxy
  systemProxyEnabled := proxy.systemProxyEnabled
  tun := tun
  tunEnabled := tun.phase = .applied && tun.observed = .enabled

def combinedStatus (selection : CaptureSelection) : Effectful CaptureRuntimeStatus := do
  let proxy ← onProxy (SystemProxy.call .readStatus)
  let tun ← c.tunStatus
  return combine selection proxy tun

def setSystemProxy (enabled : Bool) (selection : CaptureSelection) (coreHealthy : Bool)
    (preflight : Option SystemProxy.SystemProxyPreflight) : Effectful (Fallible Unit) := do
  let result ← onProxy (SystemProxy.reconcileWithPreflight c.endpoint
    ⟨enabled, ⟨selection.systemProxy, false⟩⟩ coreHealthy preflight)
  return result.map fun _ => ()

def setTun (enabled coreHealthy : Bool) : Effectful (Fallible Unit) := do
  if c.hasTun then
    let result ← onTun (reconcile enabled coreHealthy)
    return result.map fun _ => ()
  else if enabled then
    return .error ⟨.capabilityUnavailable, "TUN capture is unavailable in this runtime", none, none⟩
  else return .ok ()

/-- Run only where there is a TUN reconciler. -/
def whenTun (p : Operation Unit) : Effectful Unit :=
  if c.hasTun then onTun p else return ()

def tunRefused (tunDesired : Bool) : Effectful Bool :=
  if tunDesired then do
    let availability ← c.tunAvailability
    return availability ≠ .supported
  else return false

/-- TUN is wanted and cannot be had. -/
def refuseTun : Effectful (Fallible CaptureRuntimeStatus) := do
  if c.hasTun then
    let failure := helperSnapshotFailure (← onTun (call .snapshot))
    let previous ← onTun (call .readStatus)
    onTun (recordFailure true failure previous.observed previous.observation)
    return .error (captureErrorFromTunFailure failure)
  else return .error (captureErrorFromTunFailure .capabilityUnavailable)

/-- TUN is switched off before the System Proxy is touched. -/
def disableTunFirst (tunDesired coreHealthy : Bool) : Effectful (Fallible Unit) := do
  if !tunDesired && c.hasTun then
    if isConverged (← onTun (call .readStatus)) false then return .ok ()
    else c.setTun false coreHealthy
  else return .ok ()

/-- The System Proxy could not be switched: TUN goes back on if it was. -/
def undoTun (tunWasEnabled tunDesired coreHealthy : Bool) (error : CaptureTransitionError) :
    Effectful (Fallible CaptureRuntimeStatus) := do
  if tunWasEnabled && !tunDesired then
    match ← c.setTun true coreHealthy with
    | .ok () => return .error error
    | .error _ =>
      c.whenTun (recordDrift .rollbackFailed)
      return .error ⟨.rollbackFailed,
        "Traffic capture failed and the prior TUN state could not be confirmed", none, none⟩
  else return .error error

/-- TUN could not be switched on: both backends go back. -/
def undoBoth (previous : CaptureRuntimeStatus) (coreHealthy : Bool)
    (original : CaptureTransitionError) : Effectful (Fallible CaptureRuntimeStatus) := do
  let originalTunFailure := (← c.tunStatus).failure
  let rollbackSystem ← c.setSystemProxy previous.systemProxyEnabled previous.captureSelection
    coreHealthy none
  let rollbackTun ← c.setTun previous.tunEnabled coreHealthy
  if rollbackSystem.toOption.isNone || rollbackTun.toOption.isNone then
    let system ← onProxy (SystemProxy.call .readStatus)
    onProxy (SystemProxy.recordDriftFailure system .rollbackFailed)
    c.whenTun (recordDrift .rollbackFailed)
    return .error ⟨.rollbackFailed,
      "Traffic capture failed and the prior state could not be confirmed", none, none⟩
  match originalTunFailure with
  | some failure =>
    c.whenTun do
      let current ← call .readStatus
      recordFailure true failure current.observed current.observation
    return .error original
  | none => return .error original

def transition (preflight : Option CapturePreflight)
    (previous : CaptureRuntimeStatus) : Effectful (Fallible CaptureRuntimeStatus) := do
  let systemProxyDesired := req.active && req.selection.systemProxy
  let tunDesired := req.active && req.selection.tun
  if ← c.tunRefused tunDesired then c.refuseTun
  else
    match ← c.disableTunFirst tunDesired coreHealthy with
    | .error error => return .error error
    | .ok () =>
      match ← c.setSystemProxy systemProxyDesired req.selection coreHealthy
          (preflight.bind (·.systemProxy)) with
      | .error error => c.undoTun previous.tunEnabled tunDesired coreHealthy error
      | .ok () =>
        if tunDesired then
          match ← c.setTun true coreHealthy with
          | .error original => c.undoBoth previous coreHealthy original
          | .ok () => return .ok (← c.combinedStatus req.selection)
        else return .ok (← c.combinedStatus req.selection)

def auditTun : Effectful (Fallible (TunRuntimeStatus × Bool)) :=
  if c.hasTun then onTun (audit coreHealthy) else return .ok (.off, false)

/-- Both backends are as the request asks. -/
def confirmedBy (status : CaptureRuntimeStatus) : Bool :=
  let systemProxyConfirmed :=
    if req.active && req.selection.systemProxy then
      status.systemProxyEnabled && status.systemProxy.phase = .applied &&
        status.systemProxy.observed = .mish
    else !status.systemProxyEnabled && status.systemProxy.phase = .off
  let tunConfirmed :=
    if req.active && req.selection.tun then
      status.tunEnabled && status.tun.phase = .applied && status.tun.observed = .enabled
    else !status.tunEnabled && status.tun.phase = .off
  systemProxyConfirmed && tunConfirmed

/-- The first of two errors. -/
def firstError {α β : Type} (a : Fallible α) (b : Fallible β) : Option CaptureTransitionError :=
  match a, b with
  | .error error, _ => some error
  | .ok _, .error error => some error
  | .ok _, .ok _ => none

def observe : Effectful (Fallible CaptureRuntimeStatus) := do
  let systemResult ← onProxy (SystemProxy.auditWithMutation c.endpoint .periodic coreHealthy)
  let tunResult ← c.auditTun coreHealthy
  let status ← c.combinedStatus req.selection
  match firstError systemResult tunResult with
  | some error => return .error error
  | none =>
    if confirmedBy req status then return .ok status
    else return .error ⟨.observationFailed,
      "Capture mutation could not be confirmed by authoritative platform observation",
      none, none⟩

def sameTunObservationState : Option TunNetworkObservation → Option TunNetworkObservation → Bool
  | none, none => true
  | some left, some right =>
    left.core = right.core && left.dns = right.dns && left.interface = right.interface &&
      left.routes = right.routes && left.schemaVersion == right.schemaVersion
  | _, _ => false

def sameAuthoritativeCaptureState (left right : CaptureRuntimeStatus) : Bool :=
  left.captureSelection = right.captureSelection && left.systemProxy = right.systemProxy &&
    left.systemProxyEnabled == right.systemProxyEnabled && left.tun.desired == right.tun.desired &&
    left.tun.failure = right.tun.failure && left.tun.observed = right.tun.observed &&
    left.tun.phase = right.tun.phase &&
    sameTunObservationState left.tun.observation right.tun.observation &&
    left.tunEnabled == right.tunEnabled

/-- The backend was changed by its audit. -/
def mutatedBy {α : Type} : Fallible (α × Bool) → Bool
  | .ok (_, mutated) => mutated
  | .error _ => false

def auditOutcome (reason : CaptureAuditReason) (coreHealthy : Bool)
    (previous : CaptureRuntimeStatus) : Effectful AuditOutcome := do
  let systemResult ← onProxy (SystemProxy.auditWithMutation c.endpoint reason coreHealthy)
  let tunResult ← c.auditTun coreHealthy
  let status ← c.combinedStatus previous.captureSelection
  return {
    error := firstError systemResult tunResult
    mutated := mutatedBy systemResult || mutatedBy tunResult ||
      !sameAuthoritativeCaptureState previous status
    status }

def recover (action : CaptureRecoveryAction) (coreHealthy : Bool) (req : CaptureRequest) :
    Effectful (Fallible CaptureRuntimeStatus) := do
  match ← onProxy (SystemProxy.recover c.endpoint action coreHealthy) with
  | .error error => return .error error
  | .ok _ => return .ok (← c.combinedStatus req.selection)

def shutdown (previous : CaptureRuntimeStatus) : Effectful (Fallible CaptureRuntimeStatus) := do
  match ← onProxy SystemProxy.loadValidatedJournal with
  | .error error => return .error error
  | .ok journal =>
    let tunMayBeActive := previous.tunEnabled || previous.tun.desired || previous.tun.phase ≠ .off
    if !journal.isSome && !tunMayBeActive then return .ok previous
    else
      let req : CaptureRequest := ⟨false, previous.captureSelection⟩
      match ← c.transition req false none previous with
      | .error error => return .error error
      | .ok _ => c.observe req false

/-! ## The executor -/

def errorOf {α : Type} : Fallible α → Option CaptureTransitionError
  | .error error => some error
  | .ok _ => none

def mutateOutcome (preflight : Option CapturePreflight)
    (previous : CaptureRuntimeStatus) : Effectful EffectOutcome := do
  let result ← c.transition req coreHealthy preflight previous
  let selection := if (errorOf result).isSome then previous.captureSelection else req.selection
  return ⟨errorOf result, ← c.combinedStatus selection⟩

def observeOutcome : Effectful EffectOutcome := do
  let result ← c.observe req coreHealthy
  return ⟨errorOf result, ← c.combinedStatus req.selection⟩

def recoverOutcome (action : CaptureRecoveryAction) (coreHealthy : Bool) (req : CaptureRequest) :
    Effectful EffectOutcome := do
  let result ← c.recover action coreHealthy req
  return ⟨errorOf result, ← c.combinedStatus req.selection⟩

/-- What a task that is not cancelled does. The result of a preflight goes to
its caller and not into the completion. -/
def execute : CaptureEffect → Effectful CaptureInput
  | .preflight correlation req => do
    let _ ← c.preflight req
    return .preflightFinished correlation
  | .mutate coreHealthy correlation preflight previous req => do
    return .mutationFinished correlation (← c.mutateOutcome req coreHealthy preflight previous)
  | .observe coreHealthy correlation req => do
    return .observationFinished correlation (← c.observeOutcome req coreHealthy)
  | .audit coreHealthy correlation previous reason => do
    return .auditFinished correlation (← c.auditOutcome reason coreHealthy previous)
  | .commitAudit correlation outcome => return .auditCommitted correlation outcome
  | .recover action coreHealthy correlation req => do
    return .recoveryFinished correlation (← c.recoverOutcome action coreHealthy req)
  | .finalize coreHealthy correlation req => do
    return .finalized correlation (← c.observeOutcome req coreHealthy)
  | .shutdown correlation previous => do
    return .shutdownFinished correlation (← c.shutdown previous)
  | .cancel correlation => return .taskCancelled correlation

end CaptureEffectAdapter

/-! ## What it runs against -/

abbrev Worlds (σ τ : Type) := SystemProxy.World σ × World τ

/-- The two backends share no state. -/
def backends {σ τ : Type} (services : SystemProxy.Behaviour σ) (network : Behaviour τ) :
    Environment (SystemProxy.Request ⊕ Request) (SumReply SystemProxy.Reply Reply) (Worlds σ τ) :=
  Environment.sum (SystemProxy.platform services) (helper network)

end Mish.Capture
