import Mish.Interaction.Program
import Mish.ProfileActivation.Moves

/-!
# What the tasks of an activation do

`execute` is the executor of the activation machine, and `finalizeProfileActivation` the finalizer
it runs. Both ask the activation manager and the runtimes, which may answer anything.
-/

namespace Mish.ProfileActivation
open StateMachine Interaction Finalization
open Capture (CaptureFailureKind CaptureRequest CaptureSelection CaptureOperationStatus
  SystemProxyPhase TunPhase)

/-! ## What is asked -/

structure ManagedActivationState where
  (activeFingerprint activeProfileId activeRevision activeRuntimeId : Option String)

def ManagedActivationState.isSafeStopped (managed : ManagedActivationState) : Bool :=
  managed.activeProfileId.isNone

/-- The part of a status snapshot that a capture contract is compared with. -/
structure CaptureStatus where
  captureOperation : CaptureOperationStatus
  captureSelection : CaptureSelection
  (systemProxyEnabled tunEnabled : Bool)
  systemProxyPhase : SystemProxyPhase
  tunPhase : TunPhase

inductive Request where
  | activateCancellable (lifecycle : Correlation)
      (finalCapture : Option (CaptureRequest × StatusAdapterKind))
  | shutdown (lifecycle : Correlation)
  | managedState
  | activeRuntime
  | completeRuntimeHandoff
  | insertOperation (commandId : String) (resources : OperationResources)
  | getOperation (commandId : String)
  | removeOperation (commandId : String)
  | statusSnapshot (runtime : MishRuntime) (adapterKind : StatusAdapterKind)
  | activeProfileIdentity (runtime : MishRuntime)
  | replaceHost (runtime : MishRuntime)
  | resolveGeodataNotifications (commandId : String)
  | recordCaptureFailure (kind : CaptureFailureKind) (message : String)
      (selection : CaptureSelection)
  | recordApplicationEvent (error : MihomoActivationError)
  | publishFailureNotification (commandId : String) (error : MihomoActivationError)

def Reply : Request → Type
  | .activateCancellable .. => Except MihomoActivationError ActivationCommit
  | .shutdown _ => Except MihomoActivationError Unit
  | .managedState => ManagedActivationState
  | .activeRuntime => Option MishRuntime
  | .getOperation _ | .removeOperation _ => Option OperationResources
  | .statusSnapshot .. => CaptureStatus
  | .activeProfileIdentity _ => Option String
  | .completeRuntimeHandoff | .insertOperation .. | .replaceHost _
  | .resolveGeodataNotifications _ | .recordCaptureFailure .. | .recordApplicationEvent _
  | .publishFailureNotification .. => Unit

abbrev Asking := Program Request Reply

def ask (r : Request) : Asking (Reply r) := request r

/-- What is done only if `c`. -/
def doIf (c : Bool) (p : Asking Unit) : Asking Unit := if c then p else pure ()

/-! ## The functions of the source -/

def validCoreLifecycleIdentifier (value : String) : Bool :=
  value ≠ "" && value.utf8ByteSize ≤ 128 &&
    value.toList.all fun c => c.isAlphanum || c = '-' || c = '_' || c = '.'

/-- Absent where the source returns an error. -/
def coreLifecycleOperation (correlation : Correlation) : Option Correlation :=
  if validCoreLifecycleIdentifier correlation.machineAuthority &&
      validCoreLifecycleIdentifier correlation.operationId && correlation.scopeEpoch ≠ 0 &&
      correlation.admittedRevision ≠ 0 && correlation.effectId ≠ 0 then some correlation
  else none

def commandRuntimeFallback (command : Command) : Runtime :=
  match command.operation with
  | .activate => .active (command.targetFingerprint.getD "") command.targetProfileId
    command.targetRevision none
  | .stop => .safeStopped

def activationRuntimeFromManaged (managed : ManagedActivationState) : Runtime :=
  if managed.isSafeStopped then .safeStopped
  else
    match managed.activeProfileId, managed.activeFingerprint with
    | some profileId, some fingerprint =>
      .active fingerprint profileId managed.activeRevision managed.activeRuntimeId
    | _, _ => .safeStopped

def managedMatchesRuntime (managed : ManagedActivationState) : Runtime → Bool
  | .safeStopped => managed.isSafeStopped
  | .active fingerprint profileId revision runtimeId =>
    managed.activeProfileId == some profileId && managed.activeFingerprint == some fingerprint &&
      revision.all (fun value => managed.activeRevision == some value) &&
      runtimeId.all fun value => managed.activeRuntimeId == some value

def activationFailureEvidence : MihomoActivationError → FailureEvidence
  | .invalidArtifact | .invalidTiming => .invalidProfile
  | .resolve .binaryMissing => .missingBinary
  | .resolve _ => .unsafeRuntime
  | .stagingFailed => .staging
  | .validationFailed => .validation
  | .geodataFailed asset => .geodataFailed asset
  | .geodataTimeout asset => .geodataTimeout asset
  | .startFailed => .start
  | .tunHelperUnavailable => .tunHelperUnavailable
  | .tunNetworkOwnershipConflict => .tunNetworkOwnershipConflict
  | .earlyExit => .earlyExit
  | .managedListenerConflict endpoint => .managedListenerConflict endpoint
  | .versionMismatch => .versionMismatch
  | .controllerFailure => .controller
  | .readinessTimeout => .timeout
  | .captureFailed kind => .capture kind
  | .shutdownFailed => .coreStop
  | .priorStopFailed => .priorStop
  | .cancelled | .stateCommitFailed | .rollbackFailedSafeStopped | .ownershipFailed => .stateCommit

def shouldPublishActivationFailureNotification (error : MihomoActivationError)
    (suppressCaptureFailureNotification : Bool) : Bool :=
  !suppressCaptureFailureNotification ||
    match error with
    | .captureFailed _ => false
    | _ => true

def publishIfWanted (command : Command) (error : MihomoActivationError)
    (resources : OperationResources) : Asking Unit :=
  doIf (shouldPublishActivationFailureNotification error
      resources.suppressCaptureFailureNotification)
    (ask (.publishFailureNotification command.commandId error))

def reportRecoveryRequired (command : Command) (evidence : FailureEvidence)
    (resources : OperationResources) (sourceError : Option MihomoActivationError) :
    Asking Unit := do
  match evidence with
  | .capture kind =>
    ask (.recordCaptureFailure kind
      "Capture authority could not be confirmed after the Profile runtime switch"
      (resources.finalCapture.getD resources.previousCapture).selection)
  | _ => pure ()
  let error := sourceError.getD <|
    match evidence with
    | .capture kind => .captureFailed kind
    | _ => .stateCommitFailed
  ask (.recordApplicationEvent error)
  publishIfWanted command error resources

/-- The comparison of `capture_contract_matches`. -/
def CaptureContract.confirmedBy (contract : CaptureContract) (current : CaptureStatus) : Bool :=
  let systemProxyExpected := contract.active && contract.selection.systemProxy
  let tunExpected := contract.active && contract.selection.tun
  let ownedPending := contract.pendingOperationId.any fun operationId =>
    current.captureOperation.isBusy && current.captureOperation.operationId == some operationId
  let settled : Bool := match current.captureOperation.phase with
    | .idle | .applied | .failed => true
    | _ => false
  let operationConfirmed :=
    if contract.active then current.captureOperation.phase == .applied
    else
      match contract.pendingOperationId with
      | some operationId =>
        (current.captureOperation.isBusy &&
          current.captureOperation.operationId == some operationId) || settled
      | none => settled
  operationConfirmed && current.captureSelection == contract.selection &&
    current.systemProxyEnabled == systemProxyExpected && current.tunEnabled == tunExpected &&
    current.systemProxyPhase == (if systemProxyExpected then .applied
      else if ownedPending && contract.selection.systemProxy then .pending
      else .off) &&
    current.tunPhase == (if tunExpected then .applied
      else if ownedPending && contract.selection.tun then .pending
      else .off)

def captureContractMatches (runtime : MishRuntime) (contract : CaptureContract) : Asking Bool := do
  return contract.confirmedBy (← ask (.statusSnapshot runtime contract.adapterKind))

/-- The capture of a runtime, if there is one. -/
def activeCaptureMatches (activeRuntime : Option MishRuntime) (contract : CaptureContract) :
    Asking Bool :=
  match activeRuntime with
  | some runtime => captureContractMatches runtime contract
  | none => return false

/-- The contract of a runtime that has been stopped. -/
def CaptureContract.stopped (contract : CaptureContract) : CaptureContract :=
  { contract with active := false }

def priorRuntimeAndCaptureRestored (managed : ManagedActivationState)
    (activeRuntime : Option MishRuntime) (safeRuntime : MishRuntime)
    (resources : OperationResources) : Asking Bool := do
  match resources.previousRuntime, activeRuntime with
  | .active .., some runtime =>
    if managedMatchesRuntime managed resources.previousRuntime &&
        runtime.identity == resources.previousHost.identity then
      captureContractMatches runtime resources.previousCapture
    else return false
  | .safeStopped, none =>
    if managed.isSafeStopped then captureContractMatches safeRuntime resources.previousCapture
    else return false
  | _, _ => return false

/-- The runtime is stopped, and so is its capture. -/
def safeStoppedConfirmed (managed : ManagedActivationState) (activeRuntime : Option MishRuntime)
    (safeRuntime : MishRuntime) (resources : OperationResources) : Asking Bool := do
  if managed.isSafeStopped && activeRuntime.isNone then
    captureContractMatches safeRuntime resources.previousCapture.stopped
  else return false

/-- `authoritative` of the source. -/
def commitAuthoritative (managed : ManagedActivationState) (activeRuntime : Option MishRuntime)
    (command : Command) (committed : Runtime) (profileId : String) : Asking Bool := do
  match activeRuntime with
  | some runtime =>
    if managedMatchesRuntime managed committed && successMatchesCommand command committed then
      let identity : Option String ← ask (.activeProfileIdentity runtime)
      return identity == some profileId
    else return false
  | none => return false

/-- A runtime that failed to stop is still there, with its capture. -/
def priorRuntimeKept (managed : ManagedActivationState) (activeRuntime : Option MishRuntime)
    (resources : OperationResources) : Asking Bool :=
  match activeRuntime with
  | some runtime =>
    if runtime.identity == resources.previousHost.identity &&
        managedMatchesRuntime managed resources.previousRuntime then
      captureContractMatches runtime resources.previousCapture
    else return false
  | none => return false

/-! ## The finalizer -/

section
variable (safeRuntime : MishRuntime) (command : Command) (resources : OperationResources)
  (managed : ManagedActivationState) (activeRuntime : Option MishRuntime)

/-- `Activate(Ok(commit))`. -/
def finalizeCommit (commit : ActivationCommit) : Asking Finalization := do
  let committed : Runtime :=
    .active commit.fingerprint commit.profileId (some commit.revision) (some commit.runtimeId)
  let expectedCapture := resources.finalCapture.getD resources.previousCapture
  let authoritative ← commitAuthoritative managed activeRuntime command committed commit.profileId
  let captureConfirmed ← activeCaptureMatches activeRuntime expectedCapture
  if authoritative then
    ask (.replaceHost (activeRuntime.getD safeRuntime))
    if captureConfirmed then
      ask .completeRuntimeHandoff
      ask (.resolveGeodataNotifications command.commandId)
      return .completed (.succeeded committed)
  let evidence : FailureEvidence :=
    if authoritative then .capture .observationFailed else .stateCommit
  reportRecoveryRequired command evidence resources none
  return .recoveryRequired evidence (activationRuntimeFromManaged managed)

/-- `Activate(Err(error))`. -/
def finalizeFailedActivation (error : MihomoActivationError) : Asking Finalization := do
  let observedRuntime := activationRuntimeFromManaged managed
  let priorRestored ← priorRuntimeAndCaptureRestored managed activeRuntime safeRuntime resources
  let safeStopped ← safeStoppedConfirmed managed activeRuntime safeRuntime resources
  if priorRestored || safeStopped then
    ask (.replaceHost (activeRuntime.getD safeRuntime))
    ask .completeRuntimeHandoff
    match error with
    | .captureFailed kind =>
      if resources.ownsFinalCapture && !observedRuntime.isSafeStopped then
        match resources.finalCapture with
        | some finalCapture =>
          ask (.recordCaptureFailure kind
            "Capture could not be reconciled during the Profile runtime switch"
            finalCapture.selection)
        | none => pure ()
        ask (.recordApplicationEvent error)
        return .captureFailure kind observedRuntime
    | _ => pure ()
    let completion : Completion :=
      if error = .cancelled then .cancelled observedRuntime
      else .failed (activationFailureEvidence error) observedRuntime
    ask (.recordApplicationEvent error)
    publishIfWanted command error resources
    return .completed completion
  let evidence := activationFailureEvidence error
  reportRecoveryRequired command evidence resources (some error)
  return .recoveryRequired evidence observedRuntime

/-- `Stop(Ok(()))`. -/
def finalizeStop : Asking Finalization := do
  if ← safeStoppedConfirmed managed activeRuntime safeRuntime resources then
    ask (.replaceHost safeRuntime)
    ask .completeRuntimeHandoff
    return .completed (.succeeded .safeStopped)
  else
    reportRecoveryRequired command .stateCommit resources none
    return .recoveryRequired .stateCommit (activationRuntimeFromManaged managed)

/-- `Stop(Err(error))`. -/
def finalizeFailedStop (error : MihomoActivationError) : Asking Finalization := do
  let observedRuntime := activationRuntimeFromManaged managed
  let evidence := activationFailureEvidence error
  let restored ← priorRuntimeKept managed activeRuntime resources
  if restored then
    ask (.replaceHost (activeRuntime.getD safeRuntime))
    return .completed (.failed evidence observedRuntime)
  else
    doIf (managed.isSafeStopped && activeRuntime.isNone) (ask (.replaceHost safeRuntime))
    reportRecoveryRequired command evidence resources (some error)
    return .recoveryRequired evidence observedRuntime

/-- `Failed`. -/
def finalizeFailed : Asking Finalization := do
  let observedRuntime := activationRuntimeFromManaged managed
  if ← priorRuntimeAndCaptureRestored managed activeRuntime safeRuntime resources then
    ask (.replaceHost (activeRuntime.getD safeRuntime))
    ask .completeRuntimeHandoff
    return .completed (.failed .stateCommit observedRuntime)
  else
    reportRecoveryRequired command .stateCommit resources none
    return .recoveryRequired .stateCommit observedRuntime

end

def finalizeProfileActivation (safeRuntime : MishRuntime) (command : Command)
    (outcome : TaskOutcome) (resources : OperationResources) : Asking Finalization := do
  let managed ← ask .managedState
  let activeRuntime ← ask .activeRuntime
  match outcome with
  | .activate (.ok commit) =>
    finalizeCommit safeRuntime command resources managed activeRuntime commit
  | .activate (.error error) =>
    finalizeFailedActivation safeRuntime command resources managed activeRuntime error
  | .stop (.ok ()) => finalizeStop safeRuntime command resources managed activeRuntime
  | .stop (.error error) =>
    finalizeFailedStop safeRuntime command resources managed activeRuntime error
  | .failed => finalizeFailed safeRuntime command resources managed activeRuntime

/-! ## The executor -/

/-- A recovery takes the operation away. -/
def takeOperation (recovering : Bool) (commandId : String) : Asking (Option OperationResources) :=
  if recovering then ask (.removeOperation commandId) else ask (.getOperation commandId)

def finalizeWith (safeRuntime : MishRuntime) (command : Command) (outcome : TaskOutcome) :
    Option OperationResources → Asking Finalization
  | some resources => finalizeProfileActivation safeRuntime command outcome resources
  | none => return .recoveryRequired .stateCommit (commandRuntimeFallback command)

def Finalization.isRecoveryRequired : Finalization → Bool
  | .recoveryRequired .. => true
  | _ => false

def executeFinalize (safeRuntime : MishRuntime) (command : Command) (correlation : Correlation)
    (outcome : TaskOutcome) : Asking Finalization := do
  let recovering := correlation.effectId == recoveryEffectId
  let resources ← takeOperation recovering command.commandId
  doIf recovering (ask .completeRuntimeHandoff)
  let finalization ← finalizeWith safeRuntime command outcome resources
  doIf (!recovering && finalization.isRecoveryRequired) (ask .completeRuntimeHandoff)
  doIf (!recovering) (do let _ ← ask (.removeOperation command.commandId))
  return finalization

/-- The lifecycle operation is asked for, unless it cannot be named. -/
def underLifecycle {α : Type} (correlation : Correlation)
    (start : Correlation → Asking (Except MihomoActivationError α)) :
    Asking (Except MihomoActivationError α) :=
  match coreLifecycleOperation correlation with
  | some lifecycle => start lifecycle
  | none => return .error .stateCommitFailed

def executeCompensate (safeRuntime : MishRuntime) (correlation : Correlation)
    (resources : OperationResources) : Asking Compensation := do
  let result ← underLifecycle correlation fun lifecycle => ask (.shutdown lifecycle)
  let managed ← ask .managedState
  let activeRuntime ← ask .activeRuntime
  let captureConfirmed ← captureContractMatches safeRuntime resources.previousCapture.stopped
  match result with
  | .ok () =>
    if managed.isSafeStopped && activeRuntime.isNone && captureConfirmed then
      ask (.replaceHost safeRuntime)
      ask .completeRuntimeHandoff
      return .restoredSafe
    else return .recoveryRequired .stateCommit (activationRuntimeFromManaged managed)
  | .error error =>
    return .recoveryRequired (activationFailureEvidence error)
      (activationRuntimeFromManaged managed)

def execute (safeRuntime : MishRuntime) : Effect → Asking Input
  | .activate command correlation finalCapture resources => do
    ask (.insertOperation command.commandId resources)
    let result ← underLifecycle correlation fun lifecycle =>
      ask (.activateCancellable lifecycle finalCapture)
    return .taskFinished correlation (.activate result)
  | .stop command correlation resources => do
    ask (.insertOperation command.commandId resources)
    let result ← underLifecycle correlation fun lifecycle => ask (.shutdown lifecycle)
    return .taskFinished correlation (.stop result)
  | .finalize command correlation outcome => do
    return .finalized correlation (← executeFinalize safeRuntime command correlation outcome)
  | .compensate correlation resources => do
    return .compensationFinished correlation (← executeCompensate safeRuntime correlation resources)
  | .cancel correlation => return .taskFailed correlation

/-! ## The tasks -/

/-- The operations that the executor has in its table. -/
abbrev Operations := String → Option OperationResources

/-- What has been answered, the latest first. -/
abbrev Answered := List ((r : Request) × Reply r)

/-- The table answers for itself, and everything else may be answered in any way. -/
def answers : Environment Request Reply Operations
  | before, .insertOperation commandId resources, _, after =>
    after = Function.update before commandId (some resources)
  | before, .getOperation commandId, reply, after => reply = before commandId ∧ after = before
  | before, .removeOperation commandId, reply, after =>
    reply = before commandId ∧ after = Function.update before commandId none
  | before, _, _, after => after = before

def recorded : Environment Request Reply (Operations × Answered) := fun s r a t =>
  answers s.1 r a t.1 ∧ t.2 = ⟨r, a⟩ :: s.2

/-- The tasks whose answers are admitted. The token of a task is one more thing that the manager
may answer to. -/
def executesWhere (admits : Effect → Answered → Prop) (safeRuntime : MishRuntime) :
    Executor machine := fun effect _ input => ∃ before after answered,
  Exec recorded (execute safeRuntime effect) (before, []) (.done input) (after, answered) ∧
    admits effect answered

def executes : MishRuntime → Executor machine := executesWhere fun _ _ => True

/-- The record of the manager names what the command asks for. -/
structure ManagedActivationState.AtTarget (managed : ManagedActivationState) (command : Command) :
    Prop where
  profile : managed.activeProfileId = some command.targetProfileId
  fingerprint : ∀ fingerprint ∈ command.targetFingerprint,
    managed.activeFingerprint = some fingerprint
  revision : ∀ revision ∈ command.targetRevision, managed.activeRevision = some revision

/-- The operation of the command, as the table has answered. -/
def Resources (command : Command) (resources : OperationResources) (answered : Answered) : Prop :=
  ⟨.getOperation command.commandId, some resources⟩ ∈ answered ∨
    ⟨.removeOperation command.commandId, some resources⟩ ∈ answered

/-- The manager could not hand over the capture that the activation brought, and is back at the
runtime from before, with its host and its capture. That is not what the command asks for. -/
inductive Strays : Effect → Answered → Prop where
  | intro {command correlation kind answered resources managed runtime status} :
      Resources command resources answered → resources.ownsFinalCapture = true →
      resources.previousRuntime.isSafeStopped = false →
      ⟨.managedState, managed⟩ ∈ answered →
      managedMatchesRuntime managed resources.previousRuntime = true →
      ⟨.activeRuntime, some runtime⟩ ∈ answered →
      runtime.identity = resources.previousHost.identity →
      ⟨.statusSnapshot runtime resources.previousCapture.adapterKind, status⟩ ∈ answered →
      resources.previousCapture.confirmedBy status = true → ¬managed.AtTarget command →
      Strays (.finalize command correlation (.activate (.error (.captureFailed kind)))) answered

theorem Strays.later {effect : Effect} {answered more : Answered} (grown : answered ⊆ more)
    (strays : Strays effect answered) : Strays effect more := by
  cases strays with
  | intro known owns active record matched host same shown confirmed target =>
    exact .intro (known.imp (@grown _) (@grown _)) owns active (grown record) matched (grown host)
      same (grown shown) confirmed target

/-! ## What the finalizer reports -/

/-- The outcome is one that the work of the command can have. -/
def TaskOutcome.of (command : Command) : TaskOutcome → Prop
  | .activate _ => command.operation = .activate
  | .stop _ => command.operation = .stop
  | .failed => True

section
variable {S : Type} {env : Environment Request Reply S} {s : S} {α β : Type} {p : Asking α}
  {f : α → Asking β} {post : β → Prop} {safeRuntime : MishRuntime} {command : Command}
  {resources : OperationResources} {managed : ManagedActivationState}
  {activeRuntime : Option MishRuntime} {outcome : TaskOutcome}

/-- Whatever is answered, the result satisfies `post`. -/
def Returns (env : Environment Request Reply S) (post : α → Prop) (p : Asking α) (s : S) : Prop :=
  Safe env (fun _ _ => True) (fun a _ => post a) p s

/-- Nothing needs to be known of the first part. -/
theorem Returns.after (later : ∀ a t, Returns env post (f a) t) : Returns env post (p >>= f) s :=
  (safe_of_allowed fun _ _ => trivial).bind fun a t _ => later a t

theorem Returns.bind {mid} (first : Returns env mid p s)
    (later : ∀ a t, mid a → Returns env post (f a) t) : Returns env post (p >>= f) s :=
  Safe.bind first later

theorem Returns.pure {a : α} {post} (h : post a) : Returns env post (Pure.pure a) s := h

theorem Returns.ite {c : Prop} [Decidable c] {q post} (yes : c → Returns env post p s)
    (no : ¬c → Returns env post q s) : Returns env post (if c then p else q) s :=
  safe_ite.2 ⟨yes, no⟩

/-- The result is one the command can end with. -/
abbrev Fitting (command : Command) (finalization : Finalization) : Prop :=
  finalization.fits command = true

/-- A commit is authoritative only if it is the one the command is for. -/
theorem commitAuthoritative_matches {committed : Runtime} {profileId} :
    Returns env (fun authoritative => authoritative = true →
    successMatchesCommand command committed = true)
    (commitAuthoritative managed activeRuntime command committed profileId) s := by
  cases activeRuntime with
  | none => exact .pure nofun
  | some runtime =>
    refine .ite (fun compared => ?_) fun _ => .pure nofun
    simp only [Bool.and_eq_true] at compared
    exact .after fun _ _ => .pure fun _ => compared.2

theorem finalizeCommit_fits (commit : ActivationCommit) : Returns env (Fitting command)
    (finalizeCommit safeRuntime command resources managed activeRuntime commit) s := by
  refine Returns.bind commitAuthoritative_matches fun authoritative t fits => ?_
  refine .after fun captured t => ?_
  cases authoritative with
  | false => exact .after fun _ _ => .pure rfl
  | true =>
    refine .after fun _ t => ?_
    cases captured with
    | false => exact .after fun _ _ => .pure rfl
    | true => exact .after fun _ _ => .after fun _ _ => .pure (fits rfl)

/-- What is reported of a failure that is not one of the capture. -/
theorem reported_fits (error : MihomoActivationError) : Returns env (Fitting command) (do
    ask (.recordApplicationEvent error)
    publishIfWanted command error resources
    return .completed (if error = .cancelled then .cancelled (activationRuntimeFromManaged managed)
      else .failed (activationFailureEvidence error) (activationRuntimeFromManaged managed))) s := by
  refine .after fun _ _ => .after fun _ _ => .pure ?_
  split <;> rfl

theorem finalizeFailedActivation_fits {error : MihomoActivationError}
    (other : ∀ kind, error ≠ .captureFailed kind) : Returns env (Fitting command)
    (finalizeFailedActivation safeRuntime command resources managed activeRuntime error) s := by
  refine .after fun restored t => .after fun stopped t => .ite (fun _ => ?_) ?_
  · refine .after fun _ t => .after fun _ t => ?_
    cases error with
    | captureFailed kind => exact absurd rfl (other kind)
    | _ => exact reported_fits _
  · exact fun _ => .after fun _ _ => .pure rfl

theorem finalizeStop_fits (stops : command.operation = .stop) : Returns env (Fitting command)
    (finalizeStop safeRuntime command resources managed activeRuntime) s := by
  refine .after fun stopped t => .ite (fun _ => ?_) fun _ => .after fun _ _ => .pure rfl
  refine .after fun _ _ => .after fun _ _ => .pure ?_
  simp [Fitting, Finalization.fits, successMatchesCommand, stops]

theorem finalizeFailedStop_fits (error : MihomoActivationError) : Returns env (Fitting command)
    (finalizeFailedStop safeRuntime command resources managed activeRuntime error) s := by
  refine .after fun restored t => .ite (fun _ => .after fun _ _ => .pure rfl) fun _ => ?_
  exact .after fun _ _ => .after fun _ _ => .pure rfl

theorem finalizeFailed_fits : Returns env (Fitting command)
    (finalizeFailed safeRuntime command resources managed activeRuntime) s := by
  refine .after fun restored t => .ite (fun _ => ?_) fun _ => .after fun _ _ => .pure rfl
  exact .after fun _ _ => .after fun _ _ => .pure rfl

end

/-! ## Captures that fail -/

section
variable {α β : Type} {p : Asking α} {f : α → Asking β} {safeRuntime : MishRuntime}
  {command : Command} {resources : OperationResources} {managed : ManagedActivationState}
  {activeRuntime : Option MishRuntime} {outcome : TaskOutcome} {s : Operations × Answered}
  {post : β → Operations × Answered → Prop}

abbrev Recorded (post : α → Operations × Answered → Prop) (p : Asking α)
    (s : Operations × Answered) : Prop :=
  Safe recorded (fun _ _ => True) post p s

/-- What has been answered stays so. -/
theorem recorded_after (later : ∀ a t, s.2 ⊆ t.2 → Recorded post (f a) t) :
    Recorded post (p >>= f) s := by
  have grows : Recorded (fun _ t => True ∧ s.2 ⊆ t.2) p s := by
    refine (safe_of_allowed fun _ _ => trivial).keeping (fun t r a u kept _ step => ?_)
      (List.Subset.refl _)
    rw [step.2]
    exact List.subset_cons_of_subset _ kept
  exact grows.bind fun a t grown => later a t grown.2

theorem recorded_ask {r : Request} {f : Reply r → Asking β}
    (later : ∀ a t, s.2 ⊆ t.2 → ⟨r, a⟩ ∈ t.2 → Recorded post (f a) t) :
    Recorded post (ask r >>= f) s := by
  refine safe_request_bind.2 ⟨trivial, fun a t step => ?_⟩
  refine later a t ?_ ?_ <;> rw [step.2]
  · exact List.subset_cons_self _ _
  · exact List.mem_cons_self

/-- The host from before is the active one, and its capture has been confirmed. -/
def HostRestored (resources : OperationResources) (managed : ManagedActivationState)
    (activeRuntime : Option MishRuntime) (answered : Answered) : Prop :=
  resources.previousRuntime.isSafeStopped = false ∧
    managedMatchesRuntime managed resources.previousRuntime = true ∧
    ∃ runtime status, activeRuntime = some runtime ∧
      runtime.identity = resources.previousHost.identity ∧
      ⟨.statusSnapshot runtime resources.previousCapture.adapterKind, status⟩ ∈ answered ∧
      resources.previousCapture.confirmedBy status = true

theorem priorRuntimeAndCaptureRestored_restored :
    Recorded (fun restored t => s.2 ⊆ t.2 ∧ (restored = true → managed.isSafeStopped = false →
    HostRestored resources managed activeRuntime t.2))
    (priorRuntimeAndCaptureRestored managed activeRuntime safeRuntime resources) s := by
  have no (t : Operations × Answered) : Recorded (fun restored u => t.2 ⊆ u.2 ∧ (restored = true →
      managed.isSafeStopped = false → HostRestored resources managed activeRuntime u.2))
      (pure false) t := ⟨List.Subset.refl _, nofun⟩
  unfold priorRuntimeAndCaptureRestored
  split
  · rename_i fingerprint profileId revision runtimeId runtime previous
    refine safe_ite.2 ⟨fun found => ?_, fun _ => no s⟩
    obtain ⟨matched, host⟩ := Bool.and_eq_true_iff.1 found
    refine recorded_ask fun status t grown entry => ⟨grown, fun confirmed _ => ?_⟩
    exact ⟨by rw [previous]; rfl, matched, runtime, status, rfl, beq_iff_eq.1 host, entry, confirmed⟩
  · refine safe_ite.2 ⟨fun stopped => ?_, fun _ => no s⟩
    refine recorded_ask fun status t grown _ => ⟨grown, fun _ other => ?_⟩
    cases stopped.symm.trans other
  · exact no s

theorem safeStoppedConfirmed_stopped : Recorded (fun stopped t => s.2 ⊆ t.2 ∧
    (stopped = true → managed.isSafeStopped = true))
    (safeStoppedConfirmed managed activeRuntime safeRuntime resources) s := by
  refine safe_ite.2 ⟨fun found => ?_, fun _ => ⟨List.Subset.refl _, nofun⟩⟩
  refine recorded_ask fun status t grown _ => ⟨grown, fun _ => ?_⟩
  exact (Bool.and_eq_true_iff.1 found).1

theorem atTarget_fits (activates : command.operation = .activate) (target : managed.AtTarget command)
    (active : (activationRuntimeFromManaged managed).isSafeStopped = false) :
    successMatchesCommand command (activationRuntimeFromManaged managed) = true := by
  unfold activationRuntimeFromManaged at active ⊢
  split_ifs at active ⊢ with stopped
  · cases active
  · split at active
    · rename_i profileId fingerprint profile print
      have named := Option.some.inj (profile.symm.trans target.profile)
      have printed := target.fingerprint
      rw [print] at printed
      simp only [successMatchesCommand, activates, named, beq_self_eq_true, Bool.true_and,
        Bool.and_eq_true, Option.all_eq_true_iff_get, beq_iff_eq]
      exact ⟨fun h => (Option.some.inj (printed _ (Option.get_mem h))).symm,
        fun h => target.revision _ (Option.get_mem h)⟩
    · cases active

/-- A capture failure that does not fit means that the answers strayed. -/
theorem finalizeCaptureFailed_strays {kind correlation}
    (activates : command.operation = .activate) (known : Resources command resources s.2)
    (record : ⟨.managedState, managed⟩ ∈ s.2) (host : ⟨.activeRuntime, activeRuntime⟩ ∈ s.2) :
    Recorded (fun finalization t => finalization.fits command = true ∨
    Strays (.finalize command correlation (.activate (.error (.captureFailed kind)))) t.2)
    (finalizeFailedActivation safeRuntime command resources managed activeRuntime
    (.captureFailed kind)) s := by
  refine priorRuntimeAndCaptureRestored_restored.bind fun restored t found => ?_
  refine safeStoppedConfirmed_stopped.bind fun stopped u confirmed => ?_
  refine safe_ite.2 ⟨fun either => ?_, fun _ => recorded_after fun _ _ _ => .inl rfl⟩
  refine recorded_after fun _ v grown => recorded_after fun _ w grown' => ?_
  refine safe_ite.2 ⟨fun owns => ?_, fun _ => Safe.mono (reported_fits _) fun _ _ => .inl⟩
  obtain ⟨owns, active⟩ := Bool.and_eq_true_iff.1 owns
  have active : (activationRuntimeFromManaged managed).isSafeStopped = false := by simpa using active
  have runs : managed.isSafeStopped = false := by
    by_contra stops
    rw [activationRuntimeFromManaged, if_pos (Bool.of_not_eq_false stops)] at active
    cases active
  have restores : restored = true := by
    refine (Bool.or_eq_true_iff.1 either).resolve_right fun stops => ?_
    cases (confirmed.2 stops).symm.trans runs
  obtain ⟨previous, matched, runtime, status, rfl, same, shown, confirms⟩ := found.2 restores runs
  have ends (x : Operations × Answered) (later : w.2 ⊆ x.2) :
      successMatchesCommand command (activationRuntimeFromManaged managed) = true ∨
        Strays (.finalize command correlation (.activate (.error (.captureFailed kind)))) x.2 := by
    by_cases target : managed.AtTarget command
    · exact .inl (atTarget_fits activates target active)
    · have since : t.2 ⊆ x.2 := fun _ mem => later (grown' (grown (confirmed.1 mem)))
      have start : s.2 ⊆ x.2 := fun _ mem => since (found.1 mem)
      exact .inr (.intro (known.imp (@start _) (@start _)) owns previous (start record) matched
        (start host) same (since shown) confirms target)
  cases resources.finalCapture with
  | none => exact recorded_after fun _ x later => ends x later
  | some final =>
    refine recorded_after fun _ x later => recorded_after fun _ y later' => ends y ?_
    exact fun _ mem => later' (later mem)

/-- A result that does not fit means that the answers strayed. -/
theorem finalize_strays {correlation} (of : outcome.of command)
    (known : Resources command resources s.2) : Recorded (fun finalization t =>
    finalization.fits command = true ∨ Strays (.finalize command correlation outcome) t.2)
    (finalizeProfileActivation safeRuntime command outcome resources) s := by
  refine recorded_ask fun managed t grown record => recorded_ask fun host u grown' active => ?_
  have fitting {p} (h : Returns recorded (Fitting command) p u) : Recorded (fun finalization t =>
      finalization.fits command = true ∨ Strays (.finalize command correlation outcome) t.2) p u :=
    h.mono fun _ _ => .inl
  cases outcome with
  | activate result =>
    cases result with
    | ok commit => exact fitting (finalizeCommit_fits commit)
    | error error =>
      by_cases captures : ∃ kind, error = .captureFailed kind
      · obtain ⟨kind, rfl⟩ := captures
        have known := known.imp (fun mem => grown' (grown mem)) fun mem => grown' (grown mem)
        exact finalizeCaptureFailed_strays of known (grown' record) active
      · exact fitting (finalizeFailedActivation_fits (not_exists.1 captures))
  | stop result =>
    cases result with
    | ok => exact fitting (finalizeStop_fits of)
    | error error => exact fitting (finalizeFailedStop_fits error)
  | failed => exact fitting finalizeFailed_fits

theorem takeOperation_known {recovering} : Recorded (fun taken t => ∀ resources ∈ taken,
    Resources command resources t.2) (takeOperation recovering command.commandId) s := by
  cases recovering with
  | false =>
    refine ⟨trivial, fun taken t step resources is => .inl ?_⟩
    rw [step.2, ← Option.mem_def.1 is]
    exact List.mem_cons_self
  | true =>
    refine ⟨trivial, fun taken t step resources is => .inr ?_⟩
    rw [step.2, ← Option.mem_def.1 is]
    exact List.mem_cons_self

theorem executeFinalize_strays {correlation : Correlation} (of : outcome.of command) :
    Recorded (fun finalization t => finalization.fits command = true ∨
    Strays (.finalize command correlation outcome) t.2)
    (executeFinalize safeRuntime command correlation outcome) s := by
  refine takeOperation_known.bind fun taken t known => recorded_after fun _ u grown => ?_
  have finalized : Recorded (fun finalization t => finalization.fits command = true ∨
      Strays (.finalize command correlation outcome) t.2)
      (finalizeWith safeRuntime command outcome taken) u := by
    cases taken with
    | none => exact .inl rfl
    | some resources =>
      exact finalize_strays of ((known resources rfl).imp (@grown _) (@grown _))
  refine finalized.bind fun _ v fits => recorded_after fun _ w later => ?_
  exact recorded_after fun _ x later' => fits.imp id (Strays.later fun _ mem => later' (later mem))

/-- `Returned effect input`: the task of `effect` may return `input`. -/
inductive Returned : Effect → Input → Prop where
  | activate {command correlation finalCapture resources}
      (result : Except MihomoActivationError ActivationCommit) :
      Returned (.activate command correlation finalCapture resources)
        (.taskFinished correlation (.activate result))
  | stop {command correlation resources} (result : Except MihomoActivationError Unit) :
      Returned (.stop command correlation resources) (.taskFinished correlation (.stop result))
  | finalize {command correlation outcome finalization} :
      (outcome.of command → finalization.fits command = true) →
      Returned (.finalize command correlation outcome) (.finalized correlation finalization)
  | compensate {correlation resources} (finalization : Compensation) :
      Returned (.compensate correlation resources) (.compensationFinished correlation finalization)
  | cancel (correlation : Correlation) : Returned (.cancel correlation) (.taskFailed correlation)

theorem execute_returned (effect : Effect) : Recorded (fun input t =>
    Returned effect input ∨ Strays effect t.2) (execute safeRuntime effect) s := by
  cases effect with
  | activate =>
    exact recorded_after fun _ _ _ => recorded_after fun result _ _ => .inl (.activate result)
  | stop => exact recorded_after fun _ _ _ => recorded_after fun result _ _ => .inl (.stop result)
  | finalize command correlation outcome =>
    by_cases of : outcome.of command
    · refine (executeFinalize_strays of).bind fun _ _ fits => ?_
      exact fits.imp (fun fits => .finalize fun _ => fits) id
    · exact recorded_after fun _ _ _ => .inl (.finalize fun is => absurd is of)
  | compensate => exact recorded_after fun finalization _ _ => .inl (.compensate finalization)
  | cancel correlation => exact .inl (.cancel correlation)

/-- What is returned fits, as long as the answers do not stray. -/
theorem returned_of_executes {effect : Effect} {cancelled : Bool} {input : Input}
    (returns : executesWhere (fun effect answered => ¬Strays effect answered) safeRuntime effect
    cancelled input) : Returned effect input := by
  obtain ⟨before, after, answered, exec, straight⟩ := returns
  exact (Safe.result (execute_returned effect) exec).resolve_right straight

end

end Mish.ProfileActivation
