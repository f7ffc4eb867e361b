import Mish.Capture.ProxyState

/-! Failures, requests and the published Capture status. -/

namespace Mish.Capture

inductive CapabilityAvailability where
  | fixtureOnly | recoveryRequired | repairRequired | supported | unavailable | permissionRequired
  deriving DecidableEq

inductive CaptureFailureKind where
  | applyFailed | capabilityUnavailable | confirmationFailed | configurationRequired | coreUnhealthy
  | externalDrift | invalidRecovery | listenerUnavailable | observationFailed | permissionDenied
  | persistenceFailed | rollbackFailed | runtimeTransition | takeoverRejected
  | unsafeExistingConfiguration | unsupportedSelection
  deriving DecidableEq

inductive SystemProxyObservationStage where
  | defaultRoute | networkServiceOrder | networkServiceResolution | proxyConfiguration
  deriving DecidableEq

structure CaptureTransitionError where
  kind : CaptureFailureKind
  message : String
  observationStage : Option SystemProxyObservationStage := none
  takeoverRejection : Option SystemProxyTakeoverRejection := none
  deriving DecidableEq

def CaptureTransitionError.takeoverRejected (rejection : SystemProxyTakeoverRejection) :
    CaptureTransitionError where
  kind := .takeoverRejected
  message := "The existing System Proxy configuration was left unchanged"
  takeoverRejection := some rejection

def runtimeTransitionError : CaptureTransitionError :=
  ⟨.runtimeTransition, "System Proxy is unavailable while the managed core is switching", none, none⟩

structure CaptureSelection where
  (systemProxy tun : Bool)
  deriving DecidableEq

structure CaptureRequest where
  active : Bool
  selection : CaptureSelection
  deriving DecidableEq

structure CaptureJournal where
  prior : NetworkServiceProxyState
  deriving DecidableEq

def CaptureJournal.isValidRecoveryState (journal : CaptureJournal) : Bool :=
  journal.prior.isReversible

inductive SystemProxyPhase where
  | off | pending | applied | failed | drift
  deriving DecidableEq

inductive SystemProxyObservedState where
  | disabled | mish | other | unknown
  deriving DecidableEq

inductive CaptureAuditReason where
  | coreHealthChanged | networkChanged | periodic | restart
  deriving DecidableEq

inductive CaptureRecoveryAction where
  | repair | leaveAsIs
  deriving DecidableEq

structure SystemProxyRuntimeStatus where
  desired : Bool
  failure : Option CaptureFailureKind
  observed : SystemProxyObservedState
  phase : SystemProxyPhase
  recoveryActions : List CaptureRecoveryAction
  deriving DecidableEq

inductive CaptureOperationPhase where
  | idle | pending | finalizing | applied | failed | recoveryRequired
  deriving DecidableEq

structure CaptureOperationStatus where
  failure : Option CaptureFailureKind
  operationId : Option String
  phase : CaptureOperationPhase
  scopeEpoch : String
  deriving DecidableEq

namespace CaptureOperationStatus

def idle (scopeEpoch : String) : CaptureOperationStatus := ⟨none, none, .idle, scopeEpoch⟩

def detached : CaptureOperationStatus := idle "detached"

def isBusy (operation : CaptureOperationStatus) : Bool :=
  operation.phase = .pending || operation.phase = .finalizing

end CaptureOperationStatus

inductive TunPhase where
  | off | pending | applied | failed | drift
  deriving DecidableEq

inductive TunObservedState where
  | disabled | enabled | foreign | partial_ | stale | unknown
  deriving DecidableEq

inductive TunFailureKind where
  | capabilityUnavailable | confirmationFailed | coreUnhealthy | helperConnectionFailed
  | helperIdentityRejected | helperInvalidSignature | helperOperationFailed | helperPermissionDenied
  | helperProtocolMismatch | helperVersionMismatch | observationForeign | observationPartial
  | observationStale | rollbackFailed | runtimeTransition
  deriving DecidableEq

inductive TunObservationComponentState where
  | absent | confirmed | foreign | partial_ | unknown
  deriving DecidableEq

structure TunNetworkObservation where
  (core dns interface : TunObservationComponentState)
  observedAt : UInt64
  routes : TunObservationComponentState
  schemaVersion : UInt16
  deriving DecidableEq

structure TunRuntimeStatus where
  desired : Bool
  failure : Option TunFailureKind
  observation : Option TunNetworkObservation
  observed : TunObservedState
  phase : TunPhase
  deriving DecidableEq

def TunRuntimeStatus.off : TunRuntimeStatus := ⟨false, none, none, .unknown, .off⟩

structure CaptureRuntimeStatus where
  captureOperation : CaptureOperationStatus
  captureSelection : CaptureSelection
  systemProxy : SystemProxyRuntimeStatus
  systemProxyEnabled : Bool
  tun : TunRuntimeStatus
  tunEnabled : Bool
  deriving DecidableEq

def CaptureRuntimeStatus.off : CaptureRuntimeStatus where
  captureOperation := .detached
  captureSelection := ⟨false, false⟩
  systemProxy := ⟨false, none, .unknown, .off, []⟩
  systemProxyEnabled := false
  tun := .off
  tunEnabled := false

def observedState (state : NetworkServiceProxyState) (endpoint : LoopbackProxyEndpoint) :
    SystemProxyObservedState :=
  if state.isMishEndpoint endpoint then .mish
  else if !state.http.enabled && !state.https.enabled && !state.socks.enabled then .disabled
  else .other

end Mish.Capture
