import Mish.StateMachine.Chronicle

/-!
# The traffic source machine

The reducer of `TrafficSourceMachine`: which traffic session is live, and the one close command
that may be at work on it. `Moves` says everything a call of the reducer can do.
-/

namespace Mish.Traffic
open StateMachine Option

/-- `TRAFFIC_COMMAND_LEDGER_LIMIT` -/
def ledgerLimit : Nat := 32

structure SourceContext where
  captureId : Option String
  controllerGeneration : Nat
  (profileId runtimeId : String)
  deriving DecidableEq

structure CommandAuthority where
  profileId : String
  sequence : Nat
  sessionId : String
  deriving DecidableEq

structure Stamp where
  context : SourceContext
  sequence : Nat
  sessionId : String
  deriving DecidableEq

namespace Stamp

def sameSession (stamp other : Stamp) : Bool :=
  stamp.context == other.context && stamp.sessionId == other.sessionId

def matchesCommandAuthority (stamp : Stamp) (authority : CommandAuthority) : Bool :=
  stamp.context.profileId == authority.profileId && stamp.sessionId == authority.sessionId &&
    stamp.sequence == authority.sequence

def matchesSessionAuthority (stamp : Stamp) (authority : CommandAuthority) : Bool :=
  stamp.context.profileId == authority.profileId && stamp.sessionId == authority.sessionId

variable {other : Stamp}

theorem sameSession_iff {stamp : Stamp} : stamp.sameSession other = true ↔
    stamp.context = other.context ∧ stamp.sessionId = other.sessionId := by
  simp [sameSession]

theorem sameSession_refl (stamp : Stamp) : stamp.sameSession stamp = true := by
  simp [sameSession]

theorem sameSession_symm {stamp : Stamp} (h : stamp.sameSession other = true) :
    other.sameSession stamp = true := by
  rw [sameSession_iff] at h ⊢
  exact ⟨h.1.symm, h.2.symm⟩

theorem sameSession_trans {stamp third : Stamp} (h : stamp.sameSession other = true)
    (then_ : other.sameSession third = true) : stamp.sameSession third = true := by
  rw [sameSession_iff] at h then_ ⊢
  exact ⟨h.1.trans then_.1, h.2.trans then_.2⟩

end Stamp

inductive EndReason where
  | coreExited | networkChanged | shutdown
  deriving DecidableEq

inductive GapReason where
  | cancelled | completionConflict | observationFailed | panicked | sequenceGap | sleep
  deriving DecidableEq

inductive Authority where
  | binding (context : SourceContext)
  | live (stamp : Stamp)
  | replacing (candidate : SourceContext) (retired : Option Stamp)
  | ended (last : Option Stamp) (reason : EndReason)
  | failedReconciling (context : SourceContext) (last : Option Stamp) (reason : GapReason)
  | retired (last : Option Stamp) (reason : EndReason)
  deriving DecidableEq

variable {stamp : Stamp}

namespace Authority

def live? : Authority → Option Stamp
  | .live stamp => some stamp
  | _ => none

def last : Authority → Option Stamp
  | .live stamp => some stamp
  | .replacing _ last | .ended last _ | .failedReconciling _ last _ | .retired last _ => last
  | .binding _ => none

def currentContext : Authority → Option SourceContext
  | .binding context | .replacing context _ | .failedReconciling context _ _ => some context
  | .live stamp => some stamp.context
  | .ended _ _ | .retired _ _ => none

def isRetired : Authority → Bool
  | .retired _ _ => true
  | _ => false

theorem live?_eq_some {authority : Authority} :
    authority.live? = some stamp ↔ authority = .live stamp := by
  cases authority <;> simp [live?]

end Authority

/-! ## Commands -/

inductive CommandOperation where
  | closeConnection | closeFilteredVisible | closeAllActive
  deriving DecidableEq

inductive CommandFailureKind where
  | unsupported | invalidRequest | conflict | staleSnapshot | staleConnection | timeout
  | disconnected | versionDrift | controllerRejected | runtimeReplaced | partialRemaining
  | inconsistentObservation
  deriving DecidableEq

structure CommandExecution where
  failure : Option CommandFailureKind
  operation : CommandOperation
  remainingConnectionIds : List String
  targetCount : Nat
  deriving DecidableEq

/-- `TrafficCommandExecution::failure` -/
def CommandExecution.failed (operation : CommandOperation) (failure : CommandFailureKind)
    (targetCount : Nat) (remainingConnectionIds : List String) : CommandExecution :=
  ⟨some failure, operation, remainingConnectionIds, targetCount⟩

structure CommandRequest where
  admittedTargetCount : Nat
  authority : CommandAuthority
  operation : CommandOperation
  operationId : String
  requestedIds : Option (List String)
  deriving DecidableEq

structure CommandRecord where
  execution : CommandExecution
  request : CommandRequest
  deriving DecidableEq

structure PendingCommand where
  correlation : Correlation
  request : CommandRequest
  source : Stamp

/-- `TrafficCommandEffect` -/
structure CommandEffect where
  correlation : Correlation
  request : CommandRequest
  source : Stamp

/-- The failure that is recorded for a request. -/
def CommandRequest.failed (request : CommandRequest) (failure : CommandFailureKind) :
    CommandExecution :=
  .failed request.operation failure request.admittedTargetCount (request.requestedIds.getD [])

def PendingCommand.effect (pending : PendingCommand) : CommandEffect :=
  ⟨pending.correlation, pending.request, pending.source⟩

inductive Effect where
  | execute (effect : CommandEffect)
  | cancel (correlation : Correlation)

def Effect.correlation : Effect → Correlation
  | .execute effect => effect.correlation
  | .cancel correlation => correlation

def Effect.mode : Effect → EffectMode
  | .execute _ => .spawn
  | .cancel _ => .cancel

inductive MachineError where
  | conflict | invalidAuthority | retired

inductive Input where
  | beginBinding (context : SourceContext)
  | baseline (stamp : Stamp)
  | observation (stamp : Stamp)
  | gap (context : SourceContext) (reason : GapReason)
  | ends (reason : EndReason)
  | request (request : CommandRequest)
  | completed (correlation : Correlation) (execution : CommandExecution) (source : Stamp)
  | effectFailed (correlation : Correlation) (failure : TaskFailure)
  | shutdown

/-! ## The state -/

structure State where
  authority : Authority
  machineAuthority : String
  pending : Option PendingCommand
  completed : List CommandRecord
  revision : Nat

abbrev Reaction := Transition State Effect MachineError

/-- The newest records, as many as the ledger keeps: `pop_front` until it fits. -/
def retained (records : List CommandRecord) : List CommandRecord :=
  records.drop (records.length - ledgerLimit)

namespace State

def binding (machineAuthority : String) (context : SourceContext) : State where
  authority := .binding context
  machineAuthority := machineAuthority
  pending := none
  completed := []
  revision := 0

/-- The first record of an operation id. -/
def record? (s : State) (operationId : String) : Option CommandRecord :=
  s.completed.find? (·.request.operationId == operationId)

/-- An exhausted revision panics. -/
def nextRevision (s : State) : Option Nat :=
  if s.revision < maxU64 then some (s.revision + 1) else none

def withAuthority (s : State) (authority : Authority) : Option State := do
  let revision ← s.nextRevision
  return { s with authority, revision }

def finish (s : State) (request : CommandRequest) (execution : CommandExecution) :
    Option State := do
  let revision ← s.nextRevision
  return { s with
    pending := none
    revision
    completed := retained (s.completed ++ [⟨execution, request⟩]) }

def failPending (s : State) (failure : CommandFailureKind) : Option (State × Option Effect) :=
  match s.pending with
  | none => some (s, none)
  | some pending => do
    let next ← s.finish pending.request (pending.request.failed failure)
    return (next, some (.cancel pending.correlation))

end State

/-! ## The reducer -/

/-- A revision that has not been raised is raised. -/
def State.revisionAfter (s next : State) : Option Nat :=
  if next.revision = s.revision then s.nextRevision else some next.revision

def emitting (next : State) : Option Effect → Reaction
  | some cancel => .effectEmitting next (.one cancel)
  | none => .committed next

def transitionAuthority (s : State) (authority : Authority) (failure : CommandFailureKind) :
    Option Reaction := do
  let failed ← s.failPending failure
  let revision ← s.revisionAfter failed.1
  return emitting { failed.1 with authority, revision } failed.2

def reduceBeginBinding (s : State) (context : SourceContext) : Option Reaction :=
  if s.authority = .binding context then some .unchanged
  else transitionAuthority s (.replacing context s.authority.last) .runtimeReplaced

/-- Whether a baseline is for the context that is bound, or for the session that is live. -/
def contextMatches (authority : Authority) (stamp : Stamp) : Bool :=
  match authority with
  | .binding context | .replacing context _ | .failedReconciling context _ _ =>
    context == stamp.context
  | .live current => current.sameSession stamp
  | .ended _ _ | .retired _ _ => false

def reduceBaseline (s : State) (stamp : Stamp) : Option Reaction :=
  if !contextMatches s.authority stamp || stamp.sequence == 0 || stamp.sessionId.isEmpty then
    some (.rejected .invalidAuthority)
  else
    let commit := (s.withAuthority (.live stamp)).map .committed
    match s.authority.live? with
    | some current =>
      if current = stamp then some .unchanged
      else if stamp.sequence < current.sequence then some .retired
      else commit
    | none => commit

def reduceObservation (s : State) (stamp : Stamp) : Option Reaction :=
  match s.authority.live? with
  | none => some .retired
  | some current =>
    if !current.sameSession stamp || stamp.sequence < current.sequence then some .retired
    else if stamp.sequence = current.sequence then some .unchanged
    -- the successor saturates
    else if stamp.sequence ≠ min (current.sequence + 1) maxU64 then
      transitionAuthority s (.failedReconciling stamp.context (some current) .sequenceGap)
        .inconsistentObservation
    else (s.withAuthority (.live stamp)).map .committed

def reduceGap (s : State) (context : SourceContext) (reason : GapReason) : Option Reaction :=
  if s.authority.currentContext ≠ some context then some .retired
  else transitionAuthority s (.failedReconciling context s.authority.last reason) .disconnected

def reduceEnd (s : State) (reason : EndReason) : Option Reaction :=
  transitionAuthority s (.ended s.authority.last reason) .runtimeReplaced

/-- A filtered close is bound to the session, the others to the observation as well. -/
def authorityMatches (source : Stamp) (request : CommandRequest) : Bool :=
  match request.operation with
  | .closeFilteredVisible => source.matchesSessionAuthority request.authority
  | .closeConnection | .closeAllActive => source.matchesCommandAuthority request.authority

/-- The command that is admitted for a request. -/
def State.admitted (s : State) (request : CommandRequest) (source : Stamp) (revision : Nat) :
    PendingCommand :=
  ⟨⟨s.machineAuthority, source.context.controllerGeneration, request.operationId, revision, 1⟩,
    request, source⟩

def reduceRequest (s : State) (request : CommandRequest) : Option Reaction :=
  match s.record? request.operationId with
  | some record =>
    some (if record.request = request then .unchanged else .rejected .conflict)
  | none =>
    match s.pending with
    | some pending => some (if pending.request = request then .unchanged else .rejected .conflict)
    | none =>
      match s.authority.live? with
      | none => some (.rejected .invalidAuthority)
      | some source =>
        if authorityMatches source request then
          s.nextRevision.map fun revision =>
            let pending := s.admitted request source revision
            .effectEmitting { s with revision, pending := some pending }
              (.one (.execute pending.effect))
        else some (.rejected .invalidAuthority)

def reduceCompleted (s : State) (correlation : Correlation) (execution : CommandExecution)
    (source : Stamp) : Option Reaction :=
  match s.pending with
  | none => some .retired
  | some pending =>
    if pending.correlation ≠ correlation || !pending.source.sameSession source ||
        !s.authority.live?.any (·.sameSession source) then some .retired
    else (s.finish pending.request execution).map .committed

def gapReason : TaskFailure → GapReason
  | .aborted => .cancelled
  | .completionConflict => .completionConflict
  | .panicked => .panicked

def reduceEffectFailed (s : State) (correlation : Correlation) (failure : TaskFailure) :
    Option Reaction :=
  match s.pending with
  | none => some .retired
  | some pending =>
    if pending.correlation ≠ correlation then some .retired
    else
      (s.finish pending.request (pending.request.failed .inconsistentObservation)).map fun next =>
        .recoveryRequired { next with
          authority := .failedReconciling pending.source.context (some pending.source)
            (gapReason failure) }

/-- The same steps as `transitionAuthority`. -/
def reduceShutdown (s : State) : Option Reaction :=
  transitionAuthority s (.retired s.authority.last .shutdown) .disconnected

def reduce (s : State) (input : Input) : Option Reaction :=
  if s.authority.isRetired then
    match input with
    | .shutdown => some .unchanged
    | .request _ => some (.rejected .retired)
    | _ => some .retired
  else
    match input with
    | .beginBinding context => reduceBeginBinding s context
    | .baseline stamp => reduceBaseline s stamp
    | .observation stamp => reduceObservation s stamp
    | .gap context reason => reduceGap s context reason
    | .ends reason => reduceEnd s reason
    | .request request => reduceRequest s request
    | .completed correlation execution source => reduceCompleted s correlation execution source
    | .effectFailed correlation failure => reduceEffectFailed s correlation failure
    | .shutdown => reduceShutdown s

def inputCorrelation : Input → Option Correlation
  | .completed correlation _ _ | .effectFailed correlation _ => some correlation
  | _ => none

def effectIsCurrent (s : State) (correlation : Correlation) : Bool :=
  s.pending.any (·.correlation == correlation)

def machine : Machine where
  State := State
  Input := Input
  Effect := Effect
  Error := MachineError
  reduce := reduce
  inputCorrelation := fun _ => inputCorrelation
  effectIsCurrent := effectIsCurrent
  taskFailed := .effectFailed
  shutdown := .shutdown
  correlation := Effect.correlation
  mode := Effect.mode

/-- What the callers of the machine send it. Completions come from its effects only. -/
def Input.isExternal (input : Input) : Prop := inputCorrelation input = none

/-! ## What a call can do -/

/-- The state after the pending command has been recorded. -/
def State.recording (s : State) (held : PendingCommand) (execution : CommandExecution)
    (authority : Authority) : State :=
  { s with
    authority
    pending := none
    revision := s.revision + 1
    completed := retained (s.completed ++ [⟨execution, held.request⟩]) }

inductive Moves (s : State) : Input → State → List Effect → Prop where
  | stays {input} : Moves s input s []
  | advances {input stamp} :
      input = .baseline stamp ∨ s.authority.live?.isSome = true ∧ input = .observation stamp →
      (∀ current, s.authority = .live current →
        current.sameSession stamp = true ∧ current.sequence ≤ stamp.sequence) →
      Moves s input { s with authority := .live stamp, revision := s.revision + 1 } []
  | leaves {input authority} : s.pending = none → authority.live? = none →
      Moves s input { s with authority, revision := s.revision + 1 } []
  | interrupts {input held authority failure} : s.pending = some held → authority.live? = none →
      Moves s input (s.recording held (held.request.failed failure) authority)
        [.cancel held.correlation]
  | begins {request source} : s.pending = none →
      s.authority = .live source → s.record? request.operationId = none →
      authorityMatches source request = true →
      Moves s (.request request)
        { s with
          revision := s.revision + 1
          pending := some (s.admitted request source (s.revision + 1)) }
        [.execute (s.admitted request source (s.revision + 1)).effect]
  | completes {held execution source} : s.pending = some held →
      Moves s (.completed held.correlation execution source)
        (s.recording held execution s.authority) []
  | breaks {held failure} : s.pending = some held →
      Moves s (.effectFailed held.correlation failure)
        (s.recording held (held.request.failed .inconsistentObservation)
          (.failedReconciling held.source.context (some held.source) (gapReason failure))) []

section
variable {s : State} {input : Input} {reaction : Reaction} {execution : CommandExecution}
  {request : CommandRequest} {authority : Authority}

theorem nextRevision_eq {revision} (is : s.nextRevision = some revision) :
    revision = s.revision + 1 := by
  unfold State.nextRevision at is
  split at is
  · exact (some.inj is).symm
  · cases is

theorem finish_eq {t} (is : s.finish request execution = some t) : t = { s with
      pending := none
      revision := s.revision + 1
      completed := retained (s.completed ++ [⟨execution, request⟩]) } := by
  obtain ⟨revision, next, is⟩ := bind_eq_some_iff.1 is
  rw [nextRevision_eq next] at is
  exact (some.inj is).symm

theorem withAuthority_eq {t} (is : s.withAuthority authority = some t) :
    t = { s with authority, revision := s.revision + 1 } := by
  obtain ⟨revision, next, is⟩ := bind_eq_some_iff.1 is
  rw [nextRevision_eq next] at is
  exact (some.inj is).symm

/-- What a reducer answers, if it answers, is one of the moves. -/
def Reacts (s : State) (input : Input) : Option Reaction → Prop
  | none => True
  | some reaction => Moves s input (reaction.next s) reaction.effects

theorem reacts_transitionAuthority {failure} (other : authority.live? = none) :
    Reacts s input (transitionAuthority s authority failure) := by
  cases reduces : transitionAuthority s authority failure with
  | none => trivial
  | some reaction =>
    obtain ⟨failed, fails, is⟩ := bind_eq_some_iff.1 reduces
    obtain ⟨revision, next, is⟩ := bind_eq_some_iff.1 is
    unfold State.failPending at fails
    unfold State.revisionAfter at next
    cases is
    cases pending : s.pending with
    | none =>
      rw [pending] at fails
      cases fails
      rw [if_pos rfl] at next
      rw [nextRevision_eq next]
      exact .leaves pending other
    | some held =>
      rw [pending] at fails
      obtain ⟨finished, finishes, is⟩ := bind_eq_some_iff.1 fails
      cases is
      rw [finish_eq finishes] at next ⊢
      rw [if_neg (Nat.succ_ne_self s.revision)] at next
      cases next
      exact .interrupts pending other

theorem reacts_withAuthority (from_ : input = .baseline stamp ∨ s.authority.live?.isSome = true ∧
    input = .observation stamp) (onward : ∀ current, s.authority = .live current →
    current.sameSession stamp = true ∧ current.sequence ≤ stamp.sequence) :
    Reacts s input ((s.withAuthority (.live stamp)).map .committed) := by
  cases placed : s.withAuthority (.live stamp) with
  | none => trivial
  | some t =>
    rw [withAuthority_eq placed]
    exact .advances from_ onward

theorem reacts_baseline : Reacts s (.baseline stamp) (reduceBaseline s stamp) := by
  unfold reduceBaseline
  split
  · exact .stays
  · rename_i accepted
    simp only [Bool.or_eq_true, not_or, Bool.not_eq_true', Bool.not_eq_false] at accepted
    split
    · rename_i current live
      have is := Authority.live?_eq_some.1 live
      have session : current.sameSession stamp = true := by
        have fits := accepted.1.1
        rwa [is] at fits
      split
      · exact .stays
      · split
        · exact .stays
        · rename_i onward
          refine reacts_withAuthority (.inl rfl) fun other live => ?_
          cases is.symm.trans live
          exact ⟨session, Nat.le_of_not_lt onward⟩
    · rename_i none
      refine reacts_withAuthority (.inl rfl) fun other live => ?_
      rw [live] at none
      cases none

theorem reacts_observation : Reacts s (.observation stamp) (reduceObservation s stamp) := by
  unfold reduceObservation
  split
  · exact .stays
  · rename_i current live
    have is := Authority.live?_eq_some.1 live
    split
    · exact .stays
    · rename_i follows
      simp only [Bool.or_eq_true, not_or, Bool.not_eq_true', Bool.not_eq_false,
        decide_eq_true_eq] at follows
      split
      · exact .stays
      · split
        · exact reacts_transitionAuthority rfl
        · refine reacts_withAuthority (.inr ⟨by rw [live]; rfl, rfl⟩) fun other live => ?_
          cases is.symm.trans live
          exact ⟨follows.1, Nat.le_of_not_lt follows.2⟩

theorem reacts_request : Reacts s (.request request) (reduceRequest s request) := by
  unfold reduceRequest
  split
  · split <;> exact .stays
  · rename_i unrecorded
    split
    · split <;> exact .stays
    · rename_i idle
      split
      · exact .stays
      · rename_i source live
        split
        · rename_i fits
          cases next : s.nextRevision with
          | none => trivial
          | some revision =>
            rw [nextRevision_eq next]
            exact .begins idle (Authority.live?_eq_some.1 live) unrecorded fits
        · exact .stays

theorem reacts_completed {correlation source} : Reacts s (.completed correlation execution source)
    (reduceCompleted s correlation execution source) := by
  unfold reduceCompleted
  split
  · exact .stays
  · rename_i held pending
    split
    · exact .stays
    · rename_i current
      simp only [Bool.or_eq_true, not_or, decide_eq_true_eq, not_not] at current
      cases finishes : s.finish held.request execution with
      | none => trivial
      | some t =>
        rw [finish_eq finishes, ← current.1.1]
        exact .completes pending

theorem reacts_effectFailed {correlation failure} :
    Reacts s (.effectFailed correlation failure) (reduceEffectFailed s correlation failure) := by
  unfold reduceEffectFailed
  split
  · exact .stays
  · rename_i held pending
    split
    · exact .stays
    · rename_i current
      cases finishes : s.finish held.request (held.request.failed .inconsistentObservation) with
      | none => trivial
      | some t =>
        rw [finish_eq finishes, ← Decidable.not_not.1 current]
        exact .breaks pending

theorem reacts_reduce : Reacts s input (reduce s input) := by
  unfold reduce
  split
  · split <;> exact .stays
  · cases input with
    | beginBinding context =>
      simp only [reduceBeginBinding]
      split
      · exact .stays
      · exact reacts_transitionAuthority rfl
    | baseline => exact reacts_baseline
    | observation => exact reacts_observation
    | gap =>
      simp only [reduceGap]
      split
      · exact .stays
      · exact reacts_transitionAuthority rfl
    | ends => exact reacts_transitionAuthority rfl
    | request => exact reacts_request
    | completed => exact reacts_completed
    | effectFailed => exact reacts_effectFailed
    | shutdown => exact reacts_transitionAuthority rfl

theorem reduce_moves (reduces : reduce s input = some reaction) :
    Moves s input (reaction.next s) reaction.effects := by
  have reacts : Reacts s input _ := reacts_reduce
  rwa [reduces] at reacts

end

end Mish.Traffic
