import Mish.Interaction.Program
import Mish.Updater.UnknownCommit
import Mish.Updater.Version

/-!
# Where the continuation machine starts

`CandidateStore::recover`, and the first state of the continuation machine that the service builds
from what it returns. What is on the disk, and whether a call of the file system succeeds, are
answers to requests, and any answer is possible.
-/

namespace Mish.Updater
open StateMachine Interaction

inductive PersistedPhase where
  | available | ready

inductive RecoveryCommit where
  | available | partialDownload | candidateCommitStarted | candidateCommitted
  deriving DecidableEq

/-- A state file and a recovery record that are valid and agree, with the candidate they name. -/
structure Recoverable where
  phase : PersistedPhase
  commit : RecoveryCommit
  operationId : String
  available : AvailableCandidate

structure RecoveredState where
  accepted : AcceptedMetadata
  available : Option AvailableCandidate
  operationId : Option String
  phase : UpdatePhase
  resumable : Bool
  terminalReason : Option String
  progress : Option UpdateProgress
  needsReverification : Bool

def RecoveredState.idle (accepted : AcceptedMetadata) : RecoveredState :=
  ⟨accepted, none, none, .idle, false, none, none, false⟩

namespace Recovery

inductive Request where
  | ensureRootCurrent
  | readAccepted
  | readRecoverable (accepted : AcceptedMetadata)
  | inspectCandidate (available : AvailableCandidate) (operationId : String)
  -- the length of the partial payload and the etag of its manifest, if they are the candidate's
  | partialPayload (available : AvailableCandidate) (operationId : String)
  | partialIsStale
  | discardManagedState
  | discardCandidate
  | discardPartial

abbrev Answer : Request → Type
  | .readAccepted => AcceptedMetadata
  | .readRecoverable _ => Recoverable
  | .partialPayload _ _ => PartialInfo
  | .partialIsStale => Bool
  | .ensureRootCurrent | .inspectCandidate _ _ | .discardManagedState | .discardCandidate
  | .discardPartial => Unit

abbrev Reply (r : Request) := Except UpdateOperationError (Answer r)

abbrev Action := ExceptT UpdateOperationError (Program Request Reply)

def ask (r : Request) : Action (Answer r) := ExceptT.mk (request r)

/-- The answer, if there is one. -/
def find (r : Request) : Action (Option (Answer r)) :=
  ExceptT.mk (Except.ok <$> Except.toOption <$> (request r : Program Request Reply (Reply r)))

variable (accepted : AcceptedMetadata) (found : Recoverable) (available : AvailableCandidate)

def highWaterAllows [Versions] (metadata : VerifiedMetadata) : Bool :=
  match accepted.compare metadata with
  | some .lt => false
  | some .eq => accepted.digests.contains metadata.metadataSha256
  | some .gt | none => true

def recoveredUnverified (operationId : String) : RecoveredState where
  accepted := accepted
  available := some available
  operationId := some operationId
  phase := .failed
  resumable := false
  terminalReason := some "recovery-required"
  progress := some ⟨available.metadata.artifactSize, available.metadata.artifactSize⟩
  needsReverification := true

def discardedState : Action RecoveredState := do
  ask .discardManagedState
  return .idle accepted

/-- `partial_info(..).ok()` -/
def partialInfo (operationId : String) : Action (Option PartialInfo) := do
  let info ← (find (.partialPayload available operationId) : Action (Option PartialInfo))
  return info.filter fun info => info.size ≤ available.metadata.artifactSize

def recoveredAvailable
    (operationId : String) (info : Option PartialInfo) (stale : Bool) : RecoveredState :=
  let progress : Option UpdateProgress := (info.filter fun _ => !stale).map fun info =>
    ⟨info.size, available.metadata.artifactSize⟩
  { accepted
    available := some available
    operationId := some operationId
    phase := if progress.isSome then .failed else .available
    resumable := info.any (fun info => 0 < info.size && info.etag.isSome) && !stale
    terminalReason := progress.map fun _ => "interrupted"
    progress
    needsReverification := false }

def recoverReady [Versions] : Action RecoveredState :=
  if found.commit ≠ .candidateCommitStarted && found.commit ≠ .candidateCommitted then
    discardedState accepted
  else if highWaterAllows accepted found.available.metadata then
    return recoveredUnverified accepted found.available found.operationId
  else do
    ask .discardCandidate
    discardedState accepted

def recoverStarted [Versions] : Action RecoveredState :=
  if highWaterAllows accepted found.available.metadata then do
    match ← find (.inspectCandidate found.available found.operationId) with
    | some () => return recoveredUnverified accepted found.available found.operationId
    | none => discardedState accepted
  else discardedState accepted

def recoverOffer : Action RecoveredState := do
  let info ← partialInfo found.available found.operationId
  let stale ← (ask .partialIsStale : Action Bool)
  if stale then ask .discardPartial
  return recoveredAvailable accepted found.available found.operationId info stale

def recoverAvailable [Versions] : Action RecoveredState :=
  if found.commit = .candidateCommitStarted then recoverStarted accepted found
  else if found.commit ≠ .available && found.commit ≠ .partialDownload then
    discardedState accepted
  else if !(accepted.requireNewer found.available.metadata).isOk then discardedState accepted
  else recoverOffer accepted found

def recover [Versions] : Action RecoveredState := do
  ask .ensureRootCurrent
  let accepted ← (ask .readAccepted : Action AcceptedMetadata)
  match ← (find (.readRecoverable accepted) : Action (Option Recoverable)) with
  | none => discardedState accepted
  | some found =>
    match found.phase with
    | .ready => recoverReady accepted found
    | .available => recoverAvailable accepted found

/-- `continuation_initial` of the service. -/
def continuationInitial (authorityId : String) (recovered : RecoveredState) : ContinuationState :=
  match recovered.available with
  | none => .stable
  | some candidate =>
    let operation : ContinuationOperation :=
      ⟨authorityId, 0, recovered.operationId.getD "recovered", 0, candidate⟩
    let progress : MachineProgress :=
      ⟨(recovered.progress.map (·.downloadedBytes)).getD 0, candidate.metadata.artifactSize, 0⟩
    if recovered.needsReverification then
      .recoveryRequired operation progress .candidateCommit "recovery-required"
    else if recovered.phase = .failed && recovered.terminalReason = some "interrupted" then
      .interrupted operation progress recovered.resumable
    else .stable

/-- Every answer is possible. -/
def anything : Environment Request Reply Unit := fun _ _ _ _ => True

/-- A state that the machine may be started in. -/
def Recovered [Versions] (initial : ContinuationState) : Prop :=
  ∃ authorityId recovered, Exec anything recover.run () (.done (.ok recovered)) () ∧
    initial = continuationInitial authorityId recovered

/-! ## The progress of a recovered candidate -/

/-- No more bytes than the artifact has. -/
def Bounded (recovered : RecoveredState) : Prop :=
  ∀ available progress, recovered.available = some available → recovered.progress = some progress →
    progress.downloadedBytes ≤ available.metadata.artifactSize

abbrev Yields {α : Type} (post : α → Prop) (x : Action α) : Prop :=
  Safe anything (fun _ _ => True) (fun result _ => ∀ a, result = .ok a → post a) x.run ()

theorem Yields.bind {α β : Type} {x} {f : α → Action β} {mid post} (first : Yields mid x)
    (next : ∀ a, mid a → Yields post (f a)) : Yields post (x >>= f) :=
  Safe.attempt first (fun a _ h => next a (h a rfl)) fun _ _ _ _ => nofun

theorem Yields.ret {α : Type} {a : α} {post} (h : post a) : Yields post (pure a) := by
  rintro _ ⟨⟩
  exact h

theorem yields_any {α : Type} (x : Action α) : Yields (fun _ => True) x :=
  Safe.mono (safe_of_allowed fun _ _ => trivial) fun _ _ _ _ _ => trivial

theorem bounded_idle : Bounded (.idle accepted) := nofun

theorem discardedState_bounded : Yields Bounded (discardedState accepted) :=
  (yields_any _).bind fun _ _ => .ret (bounded_idle accepted)

theorem bounded_unverified
    (operationId : String) : Bounded (recoveredUnverified accepted available operationId) := by
  rintro _ _ ⟨⟩ ⟨⟩
  exact Nat.le_refl _

theorem recoverOffer_bounded : Yields Bounded (recoverOffer accepted found) := by
  have measured : Yields (fun info => ∀ found', info = some found' →
      found'.size ≤ found.available.metadata.artifactSize)
      (partialInfo found.available found.operationId) := by
    refine (yields_any _).bind fun info _ => .ret fun found' is => ?_
    have fits := (Option.filter_eq_some_iff.1 is).2
    simpa using fits
  refine measured.bind fun info measured => (yields_any _).bind fun stale _ => ?_
  have offers : Bounded
      (recoveredAvailable accepted found.available found.operationId info stale) := by
    rintro _ progress ⟨⟩ is
    obtain ⟨kept, filtered, rfl⟩ := Option.map_eq_some_iff.1 is
    exact measured kept (Option.filter_eq_some_iff.1 filtered).1
  split
  · exact (yields_any _).bind fun _ _ => .ret offers
  · exact .ret offers

theorem recover_bounded [Versions] : Yields Bounded recover := by
  refine (yields_any _).bind fun _ _ => (yields_any _).bind fun accepted _ =>
    (yields_any _).bind fun found _ => ?_
  have discarded := discardedState_bounded accepted
  cases found with
  | none => exact discarded
  | some found =>
    have unverified : Yields Bounded
        (pure (recoveredUnverified accepted found.available found.operationId)) :=
      .ret (bounded_unverified accepted _ _)
    dsimp only
    split
    · unfold recoverReady
      split
      · exact discarded
      · split
        · exact unverified
        · exact (yields_any _).bind fun _ _ => discarded
    · unfold recoverAvailable
      split
      · unfold recoverStarted
        split
        · refine (yields_any _).bind fun inspected _ => ?_
          cases inspected with
          | some => exact unverified
          | none => exact discarded
        · exact discarded
      · split
        · exact discarded
        · split
          · exact discarded
          · exact recoverOffer_bounded accepted found

/-- The machine starts with nothing ready and with no more bytes than there are. -/
theorem recovered_initial [Versions] {digest initial}
    (recovered : Recovered initial) : Backed digest [] initial ∧ Measured initial := by
  obtain ⟨authorityId, recovered, exec, rfl⟩ := recovered
  have bounded : Bounded recovered := recover_bounded.result exec recovered rfl
  unfold continuationInitial
  split
  · exact ⟨trivial, trivial⟩
  · rename_i candidate is
    have bound : (recovered.progress.map (·.downloadedBytes)).getD 0 ≤
        candidate.metadata.artifactSize := by
      cases progress : recovered.progress with
      | none => exact Nat.zero_le _
      | some progress' => exact bounded candidate progress' is progress
    split
    · exact ⟨trivial, bound⟩
    · split
      · exact ⟨trivial, bound⟩
      · exact ⟨trivial, trivial⟩

end Recovery

/-! ## Ready candidates -/

/-- Whatever the machine is fed, from any state it may be started in: a candidate is ready only
after an operation that holds it was verified and then committed, with no cancel accepted before,
or was recovered; and no more bytes are ever published than there are, and all of them once the
candidate is ready. -/
theorem ready_only_verified [Versions] {digest : String → String}
    {initial s : ContinuationState} {log : Steps}
    (recovered : Recovery.Recovered initial) (fed : Fed digest initial log s) :
    (∀ operation, s.readyFor = some operation →
      Committed digest operation log ∨ Reverified operation log) ∧
    ∀ projection progress, s.projection digest = some projection →
      projection.progress = some progress → progress.downloadedBytes ≤ progress.totalBytes ∧
        (projection.phase = .ready → progress.downloadedBytes = progress.totalBytes) := by
  obtain ⟨backed, measured⟩ := Recovery.recovered_initial recovered
  refine ⟨fun operation ready => ?_, fun _ _ published shows =>
    (fed.measured measured).projection published shows⟩
  have backed := fed.backed backed
  cases s with
  | ready operation' progress =>
    cases ready
    exact backed
  | retired recorded progress terminal =>
    cases terminal with
    | ready =>
      cases ready
      exact backed
    | _ => cases ready
  | _ => cases ready

section
open ByLength

/-- A store with a committed candidate. -/
def committedStore : (r : Recovery.Request) → Recovery.Reply r
  | .readAccepted => .ok .empty
  | .readRecoverable _ => .ok ⟨.ready, .candidateCommitted, "operation", sampleCandidate⟩
  | .partialPayload _ _ => .error .storeUnsafe
  | .partialIsStale => .ok false
  | .ensureRootCurrent | .inspectCandidate _ _ | .discardManagedState | .discardCandidate
  | .discardPartial => .ok ()

def recoveredOperation : ContinuationOperation := ⟨"authority", 0, "operation", 0, sampleCandidate⟩

def recoveredStart : ContinuationState :=
  .recoveryRequired recoveredOperation ⟨8, 8, 0⟩ .candidateCommit "recovery-required"

theorem recovered_recoveredStart : Recovery.Recovered recoveredStart := by
  have answered (s : Unit) (r : Recovery.Request) :
      Recovery.anything s r (committedStore r, ()).1 (committedStore r, ()).2 := trivial
  exact ⟨"authority", Recovery.recoveredUnverified .empty sampleCandidate "operation",
    exec_run answered Recovery.recover.run (), rfl⟩

theorem ready_only_verified_recovered : ∃ log s, Fed id recoveredStart log s ∧
    s.readyFor = some recoveredOperation ∧
    (Committed id recoveredOperation log ∨ Reverified recoveredOperation log) := by
  have started : Fed id recoveredStart [] recoveredStart := .start
  have fed := (started.step .recoverRequested).step (.effectCompleted
    ⟨recoveredOperation.correlation reverifyEffectId 2, .recovery (.ok ())⟩)
  exact ⟨_, _, fed, rfl, (ready_only_verified recovered_recoveredStart fed).1 _ rfl⟩

end

end Mish.Updater
