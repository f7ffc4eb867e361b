import Mish.Interaction.Program
import Mish.Capture.Status

/-!
# The System Proxy reconciler

Each operation is a program over the calls it makes to the platform, to the
journal store and to its own shared cells. The operation lock admits one
operation at a time; dropping an operation's future leaves its program in
front of the call it was waiting for.
-/

namespace Mish.Capture.SystemProxy
open Interaction

structure CaptureConfirmationWindow where
  (maximumDuration maximumObservations retryInterval : Nat)

inductive Request where
  | lockOperation
  | runtimeTransition
  | availability
  | takeoverPolicy
  | readStatus
  | writeStatus (status : CaptureRuntimeStatus)
  | loadJournal
  | saveJournal (journal : CaptureJournal)
  | clearJournal
  | confirmProxyListener
  | preflightObserveActive
  | observeActive
  | observeService (serviceId : String)
  | applyService (target : NetworkServiceProxyState)
  | confirmationWindow
  | deadlinePassed
  | sleepRetryInterval
  deriving DecidableEq

abbrev Fallible := Except CaptureTransitionError

@[reducible] def Reply : Request → Type
  | .lockOperation | .writeStatus _ | .sleepRetryInterval => Unit
  | .runtimeTransition | .deadlinePassed => Bool
  | .availability => CapabilityAvailability
  | .takeoverPolicy => SystemProxyTakeoverPolicy
  | .readStatus => CaptureRuntimeStatus
  | .loadJournal => Fallible (Option CaptureJournal)
  | .saveJournal _ | .clearJournal | .confirmProxyListener | .applyService _ => Fallible Unit
  | .preflightObserveActive | .observeActive | .observeService _ =>
      Fallible NetworkServiceProxyState
  | .confirmationWindow => CaptureConfirmationWindow

abbrev Operation := Program Request Reply

def call (r : Request) : Operation (Reply r) := request r

def externalDrift : CaptureTransitionError :=
  ⟨.externalDrift, "System Proxy changed outside Mish and was left unchanged", none, none⟩

def unownedEndpoint : CaptureTransitionError :=
  ⟨.externalDrift, "A matching System Proxy endpoint exists without Mish ownership", none, none⟩

/-- The status published once the endpoint is confirmed. -/
def appliedStatus (selection : CaptureSelection) : CaptureRuntimeStatus where
  captureOperation := .detached
  captureSelection := selection
  systemProxy := ⟨true, none, .mish, .applied, []⟩
  systemProxyEnabled := true
  tun := .off
  tunEnabled := false

variable (status : CaptureRuntimeStatus)

def driftStatus (failure : Option CaptureFailureKind)
    (observed : SystemProxyObservedState) : CaptureRuntimeStatus :=
  { status with
    systemProxy := { status.systemProxy with
      failure, observed, phase := .drift,
      recoveryActions := [.repair, .leaveAsIs] }
    systemProxyEnabled := false }

def withSelection (selection : CaptureSelection) :
    CaptureRuntimeStatus :=
  { status with captureSelection := selection }

/-- `status` with the selection replaced and `desired` withdrawn. -/
def withdrawn (selection : CaptureSelection) :
    CaptureRuntimeStatus :=
  { status with
    captureSelection := selection
    systemProxy := { status.systemProxy with desired := false } }

/-- The status of a service that Mish neither owns nor wants. -/
def offStatus (selection : CaptureSelection) (observed : SystemProxyObservedState) :
    CaptureRuntimeStatus :=
  { CaptureRuntimeStatus.off with
    captureSelection := selection
    systemProxy := ⟨false, none, observed, .off, []⟩ }

structure SystemProxyPreflight where
  journal : Option CaptureJournal
  observed : NetworkServiceProxyState
  deriving DecidableEq

section
variable (endpoint : LoopbackProxyEndpoint) (req : CaptureRequest) (action : CaptureRecoveryAction)
  (coreHealthy : Bool) (current : CaptureRuntimeStatus) (selection : CaptureSelection)
  (prior : NetworkServiceProxyState) (status : CaptureRuntimeStatus) (failure : CaptureFailureKind)

def recordFailure (desired : Bool) (failure : CaptureFailureKind)
    (observed : Option NetworkServiceProxyState) : Operation Unit :=
  call (.writeStatus {
    captureOperation := .detached
    captureSelection := selection
    systemProxy := {
      desired
      failure := some failure
      observed := (observed.map (observedState · endpoint)).getD .unknown
      phase := .failed
      recoveryActions := [] }
    systemProxyEnabled := false
    tun := .off
    tunEnabled := false })

def setPending (desired : Bool) : Operation Unit := do
  let previous ← call .readStatus
  call (.writeStatus {
    captureOperation := .detached
    captureSelection := selection
    systemProxy := ⟨desired, none, previous.systemProxy.observed, .pending, []⟩
    systemProxyEnabled := previous.systemProxyEnabled
    tun := .off
    tunEnabled := false })

/-- Always `Ok` in the source. -/
def markDrift (observed : NetworkServiceProxyState)
    (failure : Option CaptureFailureKind) : Operation CaptureRuntimeStatus := do
  let status := driftStatus status failure (observedState observed endpoint)
  call (.writeStatus status)
  return status

def recordUnknownDrift :
    Operation Unit :=
  call (.writeStatus (driftStatus status (some failure) .unknown))

def recordDriftFailure :
    Operation Unit :=
  call (.writeStatus (driftStatus status (some failure) status.systemProxy.observed))

def restrictRecoveryToRelinquish : Operation Unit := do
  let status ← call .readStatus
  call (.writeStatus { status with
    systemProxy := { status.systemProxy with recoveryActions := [.leaveAsIs] } })

def takeoverError (state : NetworkServiceProxyState) :
    Operation (Option CaptureTransitionError) := do
  let policy ← call .takeoverPolicy
  return (state.takeoverRejection policy).map .takeoverRejected

def loadValidatedJournal : Operation (Fallible (Option CaptureJournal)) := do
  match ← call .loadJournal with
  | .error error => return .error error
  | .ok (some journal) =>
    if journal.isValidRecoveryState then return .ok (some journal)
    else return .error ⟨.invalidRecovery, "The System Proxy recovery journal is invalid",
      none, none⟩
  | .ok none => return .ok none

def confirmationTimeout : CaptureTransitionError :=
  ⟨.confirmationFailed, "System Proxy confirmation exceeded its bounded propagation window",
    none, none⟩

def unconfirmed : CaptureTransitionError :=
  ⟨.confirmationFailed, "System Proxy could not be confirmed after applying it", none, none⟩

/-- The observation made by one attempt: of one service, or of the active one. -/
def observation : Option String → Operation (Fallible NetworkServiceProxyState)
  | some serviceId => call (.observeService serviceId)
  | none => call .observeActive

/-- The remaining attempts of `confirm_target`. -/
def confirmAttempts (prior transactionTarget expected : NetworkServiceProxyState)
    (serviceId : Option String) (deadline retries : Bool) :
    Nat → Operation (Fallible NetworkServiceProxyState)
  | 0 => return .error unconfirmed
  | attempts + 1 => do
    if deadline then
      if ← call .deadlinePassed then return .error confirmationTimeout
    match ← observation serviceId with
    | .error error => return .error error
    | .ok observed =>
      if observed.semanticallyMatches expected then return .ok observed
      if observed.serviceId ≠ expected.serviceId then
        return .error ⟨.externalDrift,
          "The network service changed during System Proxy confirmation", none, none⟩
      if !observed.isTransactionOwnedBetween prior transactionTarget then
        return .error externalDrift
      if attempts = 0 then return .error unconfirmed
      if retries then
        if deadline then
          -- The sleep races the deadline, and losing ends the loop.
          if ← call .deadlinePassed then return .error unconfirmed
        else
          call .sleepRetryInterval
      confirmAttempts prior transactionTarget expected serviceId deadline retries attempts

def confirmTarget (prior transactionTarget expected : NetworkServiceProxyState)
    (serviceId : Option String) : Operation (Fallible NetworkServiceProxyState) := do
  let window ← call .confirmationWindow
  let maximumObservations := max window.maximumObservations 1
  let deadline := decide (1 < maximumObservations) && decide (window.maximumDuration ≠ 0)
  confirmAttempts prior transactionTarget expected serviceId deadline
    (decide (window.retryInterval ≠ 0)) maximumObservations

def confirmActiveTarget (prior target : NetworkServiceProxyState) :
    Operation (Fallible NetworkServiceProxyState) :=
  confirmTarget prior target target none

def confirmServiceTarget (prior transactionTarget expected : NetworkServiceProxyState) :
    Operation (Fallible NetworkServiceProxyState) :=
  confirmTarget prior transactionTarget expected (some expected.serviceId)

def rollbackFailed (message : String) : CaptureTransitionError :=
  ⟨.rollbackFailed, message, none, none⟩

def restoreExactPrior : Operation (Fallible NetworkServiceProxyState) := do
  match ← call (.observeService prior.serviceId) with
  | .error _ =>
    return .error (rollbackFailed
      "The current System Proxy state could not be observed before restoration")
  | .ok observed =>
    let target := prior.withEndpoint endpoint
    if !observed.isTransactionOwnedBetween prior target then return .error externalDrift
    match ← call (.applyService prior) with
    | .error _ =>
      return .error (rollbackFailed "The prior System Proxy state could not be restored")
    | .ok () =>
      match ← confirmServiceTarget prior target prior with
      | .error _ =>
        return .error (rollbackFailed "The prior System Proxy state could not be confirmed")
      | .ok restored => return .ok restored

def recordRollbackDrift : Operation (Fallible CaptureRuntimeStatus) := do
  let observed ← call (.observeService prior.serviceId)
  let observed := match observed with
    | .ok observed => observed
    | .error _ => prior
  call (.writeStatus {
    captureOperation := .detached
    captureSelection := selection
    systemProxy := {
      desired := true
      failure := some failure
      observed := observedState observed endpoint
      phase := .drift
      recoveryActions := [.repair, .leaveAsIs] }
    systemProxyEnabled := false
    tun := .off
    tunEnabled := false })
  return .error ⟨failure,
    if failure = .externalDrift then "System Proxy changed outside Mish and was left unchanged"
    else "System Proxy failed and its prior state could not be confirmed", none, none⟩

def rollbackAfterFailure
    (original : CaptureTransitionError) : Operation (Fallible CaptureRuntimeStatus) := do
  match ← restoreExactPrior endpoint prior with
  | .error error => recordRollbackDrift endpoint selection prior error.kind
  | .ok _ =>
    match ← call .clearJournal with
    | .error error =>
      let status ← call .readStatus
      let _ ← markDrift endpoint (withSelection status selection) prior (some error.kind)
      return .error error
    | .ok () =>
      recordFailure endpoint selection true original.kind (some prior)
      return .error original

def restore : Operation (Fallible CaptureRuntimeStatus) := do
  match ← loadValidatedJournal with
  | .error error =>
    let status ← call .readStatus
    recordUnknownDrift (withdrawn status selection) error.kind
    return .error error
  | .ok none =>
    match ← call .observeActive with
    | .error error =>
      recordFailure endpoint selection false error.kind none
      return .error error
    | .ok observed =>
      let status := offStatus selection (observedState observed endpoint)
      call (.writeStatus status)
      return .ok status
  | .ok (some journal) =>
    match ← call (.observeService journal.prior.serviceId) with
    | .error error =>
      let status ← call .readStatus
      recordUnknownDrift (withdrawn status selection) error.kind
      return .error error
    | .ok owned =>
      if !owned.isTransactionOwnedBetween journal.prior (journal.prior.withEndpoint endpoint) then
        let observed ← call .observeActive
        let observed := match observed with
          | .ok observed => observed
          | .error _ => owned
        let status ← call .readStatus
        let _ ← markDrift endpoint (withdrawn status selection) observed (some .externalDrift)
        return .error externalDrift
      match ← restoreExactPrior endpoint journal.prior with
      | .error error =>
        let observed ← call (.observeService journal.prior.serviceId)
        let observed := match observed with
          | .ok observed => observed
          | .error _ => owned
        let status ← call .readStatus
        let _ ← markDrift endpoint (withdrawn status selection) observed (some error.kind)
        return .error error
      | .ok restored =>
        match ← call .clearJournal with
        | .error error =>
          let status ← call .readStatus
          let _ ← markDrift endpoint (withdrawn status selection) restored (some error.kind)
          return .error error
        | .ok () =>
          let status := offStatus selection (observedState restored endpoint)
          call (.writeStatus status)
          return .ok status

/-- Journal the observed state, write the endpoint and confirm it: the tail
shared by enabling, by an audit that follows the active service, and by Repair.
The three differ in what they publish when the journal cannot be written. -/
def takeOver (unsaved : CaptureTransitionError → Operation Unit) :
    Operation (Fallible CaptureRuntimeStatus) := do
  match ← call (.saveJournal ⟨prior⟩) with
  | .error error =>
    unsaved error
    return .error error
  | .ok () =>
    let target := prior.withEndpoint endpoint
    match ← call (.applyService target) with
    | .error error => rollbackAfterFailure endpoint selection prior error
    | .ok () =>
      match ← confirmActiveTarget prior target with
      | .error error => rollbackAfterFailure endpoint selection prior error
      | .ok _ =>
        let status := appliedStatus selection
        call (.writeStatus status)
        return .ok status

def preflight : Operation (Fallible SystemProxyPreflight) := do
  if (← call .availability) ≠ .supported then
    return .error ⟨.capabilityUnavailable, "System Proxy is unavailable on this platform",
      none, none⟩
  match ← loadValidatedJournal with
  | .error error => return .error error
  | .ok journal =>
    match ← call .preflightObserveActive with
    | .error error => return .error error
    | .ok observed =>
      match journal with
      | some owned =>
        if owned.prior.serviceId = observed.serviceId ∧
            !observed.semanticallyMatches (owned.prior.withEndpoint endpoint) then
          return .error externalDrift
        return .ok ⟨journal, observed⟩
      | none =>
        if observed.isMishEndpoint endpoint then return .error unownedEndpoint
        match ← takeoverError observed with
        | some error => return .error error
        | none => return .ok ⟨journal, observed⟩

/-- The enable path from the observed active state on. -/
def enableFrom : Operation (Fallible CaptureRuntimeStatus) := do
  if prior.hasMatchingManualProxyEndpoint endpoint then
    let status ← call .readStatus
    let _ ← markDrift endpoint (withSelection status selection) prior (some .externalDrift)
    return .error unownedEndpoint
  match ← takeoverError prior with
  | some error =>
    recordFailure endpoint selection true error.kind (some prior)
    return .error error
  | none =>
    takeOver endpoint selection prior fun error =>
      recordFailure endpoint selection true error.kind (some prior)

/-- The enable path once the active state has been observed and agrees with
the preflight, if there was one. -/
def enableObserved (existingJournal : Option CaptureJournal)
    (prior : NetworkServiceProxyState) : Operation (Fallible CaptureRuntimeStatus) := do
  match existingJournal with
  | none => enableFrom endpoint selection prior
  | some journal =>
    if journal.prior.serviceId = prior.serviceId then
      if prior.semanticallyMatches (journal.prior.withEndpoint endpoint) then
        let status := appliedStatus selection
        call (.writeStatus status)
        return .ok status
      let status ← call .readStatus
      let _ ← markDrift endpoint (withSelection status selection) prior (some .externalDrift)
      return .error externalDrift
    match ← restore endpoint selection with
    | .error error => return .error error
    | .ok _ =>
      setPending selection true
      match ← call .observeActive with
      | .error error =>
        recordFailure endpoint selection true error.kind none
        return .error error
      | .ok prior => enableFrom endpoint selection prior

/-- Give up enabling: an existing journal is restored first, and a failure to
do so is what is reported. -/
def abandonEnable (existingJournal : Option CaptureJournal)
    (error : CaptureTransitionError) : Operation (Fallible CaptureRuntimeStatus) := do
  if existingJournal.isSome then
    match ← restore endpoint selection with
    | .error error => return .error error
    | .ok _ =>
      recordFailure endpoint selection true error.kind none
      return .error error
  else
    recordFailure endpoint selection true error.kind none
    return .error error

def enable (coreHealthy : Bool)
    (preflight : Option SystemProxyPreflight) : Operation (Fallible CaptureRuntimeStatus) := do
  match ← loadValidatedJournal with
  | .error error =>
    let status ← call .readStatus
    recordUnknownDrift status error.kind
    return .error error
  | .ok existingJournal =>
    if !coreHealthy then
      abandonEnable endpoint selection existingJournal
        ⟨.coreUnhealthy, "System Proxy requires a healthy Mihomo core", none, none⟩
    else
      match ← call .confirmProxyListener with
      | .error error => abandonEnable endpoint selection existingJournal error
      | .ok () =>
        match ← call .observeActive with
        | .error error =>
          if existingJournal.isSome then
            let status ← call .readStatus
            recordUnknownDrift status error.kind
          else
            recordFailure endpoint selection true error.kind none
          return .error error
        | .ok prior =>
          if preflight.any fun p => p.journal ≠ existingJournal || p.observed ≠ prior then
            let status ← call .readStatus
            let _ ← markDrift endpoint (withSelection status selection) prior (some .externalDrift)
            return .error ⟨.externalDrift,
              "System Proxy changed during launch preparation and was left unchanged", none, none⟩
          enableObserved endpoint selection existingJournal prior

def reconcileLockedWithPreflight
    (preflight : Option SystemProxyPreflight) : Operation (Fallible CaptureRuntimeStatus) := do
  let desired := req.active && req.selection.systemProxy
  if (← call .availability) ≠ .supported then
    recordFailure endpoint req.selection desired .capabilityUnavailable none
    return .error ⟨.capabilityUnavailable, "System Proxy is unavailable on this platform",
      none, none⟩
  if req.selection.tun then
    return .error ⟨.unsupportedSelection, "TUN capture is unavailable", none, none⟩
  setPending req.selection desired
  if !desired then restore endpoint req.selection
  else enable endpoint req.selection coreHealthy preflight

/-- The runtime-transition flag is read before and after taking the lock. -/
def guarded {α : Type} (refused : Operation α) (body : Operation α) : Operation α := do
  if ← call .runtimeTransition then refused
  else
    call .lockOperation
    if ← call .runtimeTransition then refused
    else body

def reconcileWithPreflight
    (preflight : Option SystemProxyPreflight) : Operation (Fallible CaptureRuntimeStatus) :=
  guarded (return .error runtimeTransitionError)
    (reconcileLockedWithPreflight endpoint req coreHealthy preflight)

def reconcile : Operation (Fallible CaptureRuntimeStatus) :=
  reconcileWithPreflight endpoint req coreHealthy none

/-- `ownTransition`: the token was issued by this reconciler. -/
def reconcileRuntimeTransition (ownTransition : Bool) (req : CaptureRequest)
    (coreHealthy : Bool) : Operation (Fallible CaptureRuntimeStatus) := do
  if !ownTransition then return .error runtimeTransitionError
  if !(← call .runtimeTransition) then return .error runtimeTransitionError
  call .lockOperation
  reconcileLockedWithPreflight endpoint req coreHealthy none

/-- The audit of a desired proxy whose journal names a service that is no
longer the active one. -/
def auditServiceChange (journal : CaptureJournal)
    (observed : NetworkServiceProxyState) :
    Operation (Fallible (CaptureRuntimeStatus × Bool)) := do
  match ← restoreExactPrior endpoint journal.prior with
  | .error error =>
    let status ← markDrift endpoint current observed (some error.kind)
    return .ok (status, true)
  | .ok _ =>
    match ← call .clearJournal with
    | .error error =>
      let _ ← markDrift endpoint current observed (some error.kind)
      return .error error
    | .ok () =>
      match ← takeoverError observed with
      | some error =>
        recordFailure endpoint current.captureSelection true error.kind (some observed)
        return .error error
      | none =>
        let result ← takeOver endpoint current.captureSelection observed fun error =>
          recordFailure endpoint current.captureSelection true error.kind (some observed)
        return result.map fun status => (status, true)

/-- The audit from the observation of the active service on. -/
def auditObserved (journal : Option CaptureJournal)
    (observed : NetworkServiceProxyState) :
    Operation (Fallible (CaptureRuntimeStatus × Bool)) := do
  if journal.isNone ∧ current.systemProxy.phase = .failed ∧
      !observed.hasMatchingManualProxyEndpoint endpoint then
    let failed := { current with
      systemProxy := { current.systemProxy with
        observed := observedState observed endpoint, recoveryActions := [] }
      systemProxyEnabled := false }
    call (.writeStatus failed)
    return .ok (failed, false)
  if current.systemProxy.desired ∧
      journal.any fun j => observed.semanticallyMatches (j.prior.withEndpoint endpoint) then
    let confirmed := { current with
      systemProxy := { current.systemProxy with
        failure := none, observed := .mish, phase := .applied, recoveryActions := [] }
      systemProxyEnabled := true }
    call (.writeStatus confirmed)
    return .ok (confirmed, false)
  if current.systemProxy.desired then
    match journal with
    | some journal =>
      if journal.prior.serviceId ≠ observed.serviceId then
        auditServiceChange endpoint current journal observed
      else
        let status ← markDrift endpoint current observed none
        return .ok (status, false)
    | none =>
      let status ← markDrift endpoint current observed none
      return .ok (status, false)
  else
    let confirmed := { current with
      systemProxy := { current.systemProxy with
        failure := none, observed := observedState observed endpoint, phase := .off,
        recoveryActions := [] }
      systemProxyEnabled := false }
    call (.writeStatus confirmed)
    return .ok (confirmed, false)

/-- The audit from the listener check on. -/
def auditSupported
    (journal : Option CaptureJournal) : Operation (Fallible (CaptureRuntimeStatus × Bool)) := do
  if journal.isSome && current.systemProxy.desired && coreHealthy then
    match ← call .confirmProxyListener with
    | .error error =>
      match ← restore endpoint current.captureSelection with
      | .error error => return .error error
      | .ok _ =>
        recordFailure endpoint current.captureSelection true error.kind none
        return .error error
    | .ok () => observeAndAudit
  else if journal.isSome && (!coreHealthy || !current.systemProxy.desired) then
    let result ← restore endpoint current.captureSelection
    return result.map fun status => (status, true)
  else
    observeAndAudit
where
  observeAndAudit : Operation (Fallible (CaptureRuntimeStatus × Bool)) := do
    match ← call .observeActive with
    | .error error =>
      if current.systemProxy.desired || journal.isSome then
        recordUnknownDrift current error.kind
      return .error error
    | .ok observed => auditObserved endpoint current journal observed

def auditLocked : Operation (Fallible (CaptureRuntimeStatus × Bool)) := do
  let current ← call .readStatus
  match ← loadValidatedJournal with
  | .error error =>
    recordUnknownDrift current error.kind
    if error.kind = .invalidRecovery then restrictRecoveryToRelinquish
    return .error error
  | .ok journal =>
    if (← call .availability) ≠ .supported then
      if journal.isSome then
        recordUnknownDrift current .capabilityUnavailable
        return .error ⟨.capabilityUnavailable,
          "System Proxy ownership cannot be audited on this platform", none, none⟩
      return .ok (current, false)
    auditSupported endpoint coreHealthy current journal

def auditWithMutation (_reason : CaptureAuditReason) (coreHealthy : Bool) :
    Operation (Fallible (CaptureRuntimeStatus × Bool)) :=
  guarded (do let status ← call .readStatus; return .ok (status, false))
    (auditLocked endpoint coreHealthy)

def audit (reason : CaptureAuditReason) (coreHealthy : Bool) :
    Operation (Fallible CaptureRuntimeStatus) := do
  let result ← auditWithMutation endpoint reason coreHealthy
  return result.map Prod.fst

/-- Recovery from the observation of the active service on. -/
def recoverObserved (invalidRecovery : Bool) (observed : NetworkServiceProxyState) :
    Operation (Fallible CaptureRuntimeStatus) := do
  match action with
  | .repair =>
    match ← takeoverError observed with
    | some error =>
      let _ ← markDrift endpoint current observed (some error.kind)
      return .error error
    | none =>
      takeOver endpoint current.captureSelection observed fun error => do
        let _ ← markDrift endpoint current observed (some error.kind)
        return ()
  | .leaveAsIs =>
    match ← call .clearJournal with
    | .error error =>
      let _ ← markDrift endpoint current observed
        (some (if invalidRecovery then .invalidRecovery else error.kind))
      if invalidRecovery then restrictRecoveryToRelinquish
      return .error error
    | .ok () =>
      let status := offStatus current.captureSelection (observedState observed endpoint)
      call (.writeStatus status)
      return .ok status

/-- Recovery from `set_pending` on. -/
def recoverAdmitted (invalidRecovery : Bool) : Operation (Fallible CaptureRuntimeStatus) := do
  setPending current.captureSelection (action = .repair)
  match ← call .observeActive with
  | .error error =>
    recordUnknownDrift current (if invalidRecovery then .invalidRecovery else error.kind)
    if invalidRecovery then restrictRecoveryToRelinquish
    return .error error
  | .ok observed => recoverObserved endpoint action current invalidRecovery observed

def recoverLocked : Operation (Fallible CaptureRuntimeStatus) := do
  let current ← call .readStatus
  if current.systemProxy.phase ≠ .drift then
    return .error ⟨.invalidRecovery,
      "System Proxy recovery is available only while drift is observed", none, none⟩
  let invalidRecovery := decide (current.systemProxy.failure = some .invalidRecovery)
  match action with
  | .leaveAsIs => recoverAdmitted endpoint .leaveAsIs current invalidRecovery
  | .repair =>
    if invalidRecovery then
      return .error ⟨.invalidRecovery,
        "An invalid System Proxy recovery record can only be relinquished", none, none⟩
    if !coreHealthy then
      recordDriftFailure current .coreUnhealthy
      return .error ⟨.coreUnhealthy, "System Proxy repair requires a healthy Mihomo core",
        none, none⟩
    match ← call .confirmProxyListener with
    | .error error =>
      recordDriftFailure current error.kind
      return .error error
    | .ok () => recoverAdmitted endpoint .repair current invalidRecovery

def recover : Operation (Fallible CaptureRuntimeStatus) :=
  guarded (return .error runtimeTransitionError) (recoverLocked endpoint action coreHealthy)

end

end Mish.Capture.SystemProxy
