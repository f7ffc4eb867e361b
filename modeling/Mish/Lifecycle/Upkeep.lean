import Mish.Lifecycle.Coordinator

/-!
# What the coordinator's programs maintain

A program maintains what its requests do. The first part is about the programs that ask for no
capture, give the observations no command and leave the authority alone.
-/

namespace Mish.Lifecycle
open Interaction Capture
open SystemProxy (Fallible)

def Plain : Request → Prop
  | .reconcile _ _ | .writeAuthority _ | .pauseObservations _ | .resumeObservations => False
  | _ => True

/-- A request that asks for no capture. -/
def Unasking : Request → Prop
  | .reconcile _ _ => False
  | _ => True

variable {State α : Type} {env : Environment Request Reply State}
  {allowed : State → Request → Prop} {inv : State → Prop}
  {h : Host}

/-- `other` are the requests that are known to maintain it. -/
theorem past {P : Request → Prop} (other : ∀ r, P r → Maintains env allowed inv (call r))
    {r} {f : Reply r → Action α} (is : P r) (next : ∀ a, Maintains env allowed inv (f a)) :
    Maintains env allowed inv (call r >>= f) :=
  .bind (other r is) next

section
variable (plain : ∀ r, Plain r → Maintains env allowed inv (call r))
include plain

theorem publishing_keeps {change : Action Unit} (kept : Maintains env allowed inv change) :
    Maintains env allowed inv (Host.publishing change) :=
  past plain ⟨⟩ fun _ => .bind kept fun _ => past plain ⟨⟩ fun _ =>
    .ite (plain _ trivial) (.pure _)

theorem coreHealthy_keeps : Maintains env allowed inv Host.coreHealthy :=
  past plain ⟨⟩ fun _ => past plain ⟨⟩ fun _ => .pure _

theorem auditCapture_keeps (reason : CaptureAuditReason) :
    Maintains env allowed inv (h.auditCapture reason) := by
  refine .ite ?_ (.pure _)
  refine past plain ⟨⟩ fun before => .bind (coreHealthy_keeps plain) fun healthy => ?_
  refine past plain ⟨⟩ fun result => past plain ⟨⟩ fun after => ?_
  cases result with
  | ok => exact .pure _
  | error error => exact past plain ⟨⟩ fun _ => .pure _

theorem invalidateNetworkDns_keeps : Maintains env allowed inv h.invalidateNetworkDns :=
  .ite (plain _ trivial) (.pure _)

theorem refreshNetworkDns_keeps : Maintains env allowed inv h.refreshNetworkDns :=
  .ite (plain _ trivial) (.pure _)

theorem periodicAudit_keeps : Maintains env allowed inv h.periodicAudit :=
  past plain ⟨⟩ fun _ => past plain ⟨⟩ fun _ =>
    .ite (.pure _) (.bind (auditCapture_keeps plain _) fun _ => .pure _)

theorem restartAudit_keeps : Maintains env allowed inv h.restartAudit :=
  past plain ⟨⟩ fun _ =>
    .ite (.bind (auditCapture_keeps plain _) fun _ => .pure _) (.pure _)

/-- `shows` is what is known of the status the request is made from. -/
theorem restoreCaptureIntent_keeps {shows : CaptureRuntimeStatus → Prop}
    (looks : ∀ f : CaptureRuntimeStatus →
    Action (Fallible Bool), (∀ status, shows status → Maintains env allowed inv (f status)) →
    Maintains env allowed inv (call .captureStatus >>= f)) (asks : ∀ status healthy, shows status →
    Maintains env allowed inv (Host.restoreRequest status.captureSelection healthy)) :
    Maintains env allowed inv h.restoreCaptureIntent := by
  refine .ite ?_ (.pure _)
  refine past plain ⟨⟩ fun pending => .ite (.pure _) ?_
  refine looks _ fun before shown => .bind (coreHealthy_keeps plain) fun healthy => ?_
  refine .bind (asks before healthy shown) fun result => past plain ⟨⟩ fun after => ?_
  cases result with
  | ok => exact .pure _
  | error error =>
    exact .ite (past plain ⟨⟩ fun _ => .pure _) (past plain ⟨⟩ fun _ => .pure _)

theorem restoreAndContinue_keeps (restores : Maintains env allowed inv h.restoreCaptureIntent) :
    Maintains env allowed inv h.restoreAndContinue := by
  refine .bind restores fun result => ?_
  cases result with
  | ok | error => exact .bind (publishing_keeps plain (plain _ trivial)) fun _ => .pure _

end

variable (other : ∀ r, Unasking r → Maintains env allowed inv (call r))
include other

theorem plain (r : Request) (is : Plain r) : Maintains env allowed inv (call r) :=
  other r (by cases r <;> trivial)

theorem finishCaptureReconciliation_keeps (result : Fallible CaptureRuntimeStatus)
    {explicitActive} :
    Maintains env allowed inv (Host.finishCaptureReconciliation result explicitActive) := by
  cases result with
  | error error => exact past other ⟨⟩ fun _ => .pure _
  | ok status =>
    have traffic : Maintains env allowed inv
        (Host.reconcileRecentTrafficAfterCapture explicitActive) := by
      refine past other ⟨⟩ fun shown => .ite ?_ (.ite (other _ trivial) (.pure _))
      refine past other ⟨⟩ fun profile => ?_
      cases profile with
      | none => exact .pure _
      | some profileId => exact other _ trivial
    refine past other ⟨⟩ fun _ => .bind traffic fun _ => ?_
    exact past other ⟨⟩ fun _ => .ite (past other ⟨⟩ fun _ => past other ⟨⟩ fun _ => .pure _)
      (past other ⟨⟩ fun _ => .pure _)

theorem writeAuthority_keeps (change : LifecycleAuthoritySnapshot → LifecycleAuthoritySnapshot) :
    Maintains env allowed inv (do call (.writeAuthority (change (← call .readAuthority)))) :=
  past other ⟨⟩ fun _ => other _ trivial

theorem suspendConsumers_keeps (reason : RuntimeObservationPauseReason) :
    Maintains env allowed inv (h.suspendConsumers reason) :=
  .bind (invalidateNetworkDns_keeps (plain other)) fun _ =>
    .bind (publishing_keeps (plain other) (other _ trivial)) fun _ => other _ trivial

theorem discontinueConsumersAfterGap_keeps :
    Maintains env allowed inv h.discontinueConsumersAfterGap :=
  .bind (invalidateNetworkDns_keeps (plain other)) fun _ =>
    .bind (publishing_keeps (plain other) (other _ trivial)) fun _ => other _ trivial

theorem auditWithoutCore_keeps : Maintains env allowed inv h.auditWithoutCore :=
  past other ⟨⟩ fun _ => past other ⟨⟩ fun _ =>
    .bind (auditCapture_keeps (plain other) _) fun _ => .pure _

theorem initializePlatformAuthority_keeps :
    Maintains env allowed inv h.initializePlatformAuthority := by
  refine past other ⟨⟩ fun _ => .ite ?_ (.pure _)
  refine past other ⟨⟩ fun answer => ?_
  cases answer with
  | timedOut | unavailable =>
    exact .bind (writeAuthority_keeps other _) fun _ => discontinueConsumersAfterGap_keeps other
  | observed observation =>
    refine past other ⟨⟩ fun previous => .bind (writeAuthority_keeps other _) fun _ => ?_
    exact .ite (suspendConsumers_keeps other _) (.pure _)

theorem handleRuntimeReplacement_keeps (running : Bool) :
    Maintains env allowed inv (h.handleRuntimeReplacement running) := by
  refine past other ⟨⟩ fun _ => past other ⟨⟩ fun authority => ?_
  refine .bind (invalidateNetworkDns_keeps (plain other)) fun _ =>
    .ite ?_ (.ite ?_ (auditWithoutCore_keeps other))
  · exact past other ⟨⟩ fun _ => past other ⟨⟩ fun _ => .pure _
  · exact past other ⟨⟩ fun _ =>
      .bind (publishing_keeps (plain other) (other _ trivial)) fun _ =>
        .bind (refreshNetworkDns_keeps (plain other)) fun _ => .pure _

theorem handleEventStreamClosed_keeps : Maintains env allowed inv h.handleEventStreamClosed :=
  past other ⟨⟩ fun _ => .bind (writeAuthority_keeps other _) fun _ =>
    discontinueConsumersAfterGap_keeps other

variable (restores : Maintains env allowed inv h.restoreCaptureIntent)
include restores

theorem rebuildCurrentAuthorityLocked_keeps (reason : RuntimeObservationPauseReason)
    (pauseBeforeRebuild : Bool) :
    Maintains env allowed inv (h.rebuildCurrentAuthorityLocked reason pauseBeforeRebuild) := by
  have pending : Maintains env allowed inv h.captureOperationPending :=
    .ite (past other ⟨⟩ fun _ => .pure _) (.pure _)
  have rebuilds : Maintains env allowed inv (do
      if ← Host.coreReady then
        call .resumeObservations
        h.restoreAndContinue
      else return coordinated (← h.auditCapture .coreHealthChanged)) := by
    have ready : Maintains env allowed inv Host.coreReady :=
      past other ⟨⟩ fun _ => .ite (other _ trivial) (.pure _)
    refine .bind ready fun configured => .ite ?_ ?_
    · exact past other ⟨⟩ fun _ => restoreAndContinue_keeps (plain other) restores
    · exact .bind (auditCapture_keeps (plain other) _) fun _ => .pure _
  refine past other ⟨⟩ fun authority => .ite (.pure _) ?_
  refine .bind pending fun busy => .ite (.pure _) (.ite ?_ rebuilds)
  exact .bind (publishing_keeps (plain other) (other _ trivial)) fun _ =>
    past other ⟨⟩ fun _ => rebuilds

theorem recoverAfterEventGapLocked_keeps :
    Maintains env allowed inv h.recoverAfterEventGapLocked := by
  have gaveUp (recovery) : Maintains env allowed inv
      (do Host.setRecovery recovery; return (.ok () : Coordinated Unit)) :=
    .bind (writeAuthority_keeps other _) fun _ => .pure _
  refine .bind (writeAuthority_keeps other _) fun _ => ?_
  refine .bind (discontinueConsumersAfterGap_keeps other) fun _ => .ite ?_ (gaveUp _)
  refine past other ⟨⟩ fun answer => ?_
  cases answer with
  | timedOut | unavailable => exact gaveUp _
  | observed observation =>
    refine past other ⟨⟩ fun authority => .ite (gaveUp _) ?_
    refine .bind (writeAuthority_keeps other _) fun _ => .ite ?_ (.pure _)
    refine .bind (rebuildCurrentAuthorityLocked_keeps other restores _ _) fun result => ?_
    cases result with
    | error => exact .pure _
    | ok => exact .bind (refreshNetworkDns_keeps (plain other)) fun _ => .pure _

theorem rebuildForEvent_keeps (pauseBeforeRebuild : Bool) :
    Maintains env allowed inv (h.rebuildForEvent pauseBeforeRebuild) := by
  refine .bind (invalidateNetworkDns_keeps (plain other)) fun _ => ?_
  refine .bind (rebuildCurrentAuthorityLocked_keeps other restores _ _) fun result => ?_
  cases result with
  | error => exact .pure _
  | ok => exact .bind (refreshNetworkDns_keeps (plain other)) fun _ => .pure _

theorem applyEvent_keeps (event : PlatformLifecycleEvent) :
    Maintains env allowed inv (h.applyEvent event) := by
  refine past other ⟨⟩ fun previous => .ite ?_ ?_
  · exact past other ⟨⟩ fun _ => past other ⟨⟩ fun _ => .pure _
  · refine past other ⟨⟩ fun authority => past other ⟨⟩ fun _ => ?_
    cases event.kind with
    | sleep => exact .ite (.bind (suspendConsumers_keeps other _) fun _ => .pure _) (.pure _)
    | wake => exact .ite (rebuildForEvent_keeps other restores _) (.pure _)
    | networkChanged =>
      exact past other ⟨⟩ fun _ => .ite (.pure _) (rebuildForEvent_keeps other restores _)

theorem handlePlatformEvent_keeps (event : PlatformLifecycleEvent) :
    Maintains env allowed inv (h.handlePlatformEvent event) := by
  have applies := applyEvent_keeps other restores event
  refine past other ⟨⟩ fun _ => past other ⟨⟩ fun authority => ?_
  refine .ite (.pure _) (.ite ?_ applies)
  refine .bind (recoverAfterEventGapLocked_keeps other restores) fun result => ?_
  cases result with
  | error => exact .pure _
  | ok =>
    refine past other ⟨⟩ fun recovered => .ite (.pure _) (.ite ?_ applies)
    exact past other ⟨⟩ fun _ => past other ⟨⟩ fun _ => .pure _

theorem handleCoreAvailability_keeps (running : Bool) :
    Maintains env allowed inv (h.handleCoreAvailability running) := by
  refine past other ⟨⟩ fun _ => past other ⟨⟩ fun authority => ?_
  refine .bind (invalidateNetworkDns_keeps (plain other)) fun _ => .ite (.ite ?_ (.pure _))
    (.ite ?_ (auditWithoutCore_keeps other))
  · exact past other ⟨⟩ fun _ => past other ⟨⟩ fun _ => .pure _
  · refine past other ⟨⟩ fun _ => ?_
    refine .bind (restoreAndContinue_keeps (plain other) restores) fun result => ?_
    cases result with
    | error => exact .pure _
    | ok => exact .bind (refreshNetworkDns_keeps (plain other)) fun _ => .pure _

/-- Every call keeps what the replay of the selection keeps. -/
theorem program_keeps (coordinatorCall : Call) :
    Maintains env allowed inv (coordinatorCall.program h) := by
  cases coordinatorCall with
  | initializePlatformAuthority => exact initializePlatformAuthority_keeps other
  | restartAudit => exact restartAudit_keeps (plain other)
  | platformEvent event =>
    exact .bind (handlePlatformEvent_keeps other restores event) fun _ => .pure _
  | coreAvailability running =>
    exact .bind (handleCoreAvailability_keeps other restores running) fun _ => .pure _
  | runtimeReplacement running =>
    exact .bind (handleRuntimeReplacement_keeps other running) fun _ => .pure _
  | periodicAudit => exact .bind (periodicAudit_keeps (plain other)) fun _ => .pure _
  | reconcileAfterEventGap =>
    refine .bind (past other ⟨⟩ fun _ => ?_) fun _ => .pure _
    exact recoverAfterEventGapLocked_keeps other restores
  | eventStreamClosed => exact handleEventStreamClosed_keeps other

end Mish.Lifecycle
