import Mish.Capture.Confirmation

/-!
# What the System Proxy operations do

One walk through every program. No operation writes a network service before the
journal holds what it would take to undo the write: the law for `saveJournal`,
`clearJournal` and `applyService` is carried through every path that reaches them.
And an operation that returns has published a phase that agrees with the journal.
-/

namespace Mish.Capture.SystemProxy
open Interaction CaptureRuntimeStatus

/-- The state in a successful observation of the active service. -/
def activeObservation : Event → Option NetworkServiceProxyState
  | ⟨.observeActive, .ok observed⟩ => some observed
  | _ => none

/-- A write of the service, successful or not. -/
def appliesTo (serviceId : String) : Event → Bool
  | ⟨.applyService target, _⟩ => target.serviceId == serviceId
  | _ => false

/-- A call that can change the journal or a service. -/
def mutates : Event → Bool
  | ⟨.applyService _, _⟩ | ⟨.saveJournal _, _⟩ | ⟨.clearJournal, _⟩ => true
  | _ => false

/-- `state` was seen active, and its service was not written since. -/
def SeenSince (state : NetworkServiceProxyState) : List Event → Prop
  | [] => False
  | event :: before => event = ⟨.observeActive, .ok state⟩ ∨
      (appliesTo state.serviceId event = false ∧ SeenSince state before)

/-- Does the operation compare what it journals with the endpoint first? -/
def Op.checksEndpoint : Op → Bool
  | .reconcile .. | .reconcileWithPreflight .. | .reconcileRuntimeTransition .. => true
  | .audit .. | .recover .. => false

/-- A Repair, which journals without regard to what is journaled already. -/
def Op.repairs : Op → Bool
  | .recover .repair _ => true
  | _ => false

/-- Leave as is, which gives the journal up. -/
def Op.relinquishes : Op → Bool
  | .recover .leaveAsIs _ => true
  | _ => false

/-- The reply in an observation of the active service. -/
def activeReply : Event → Option (Fallible NetworkServiceProxyState)
  | ⟨.observeActive, reply⟩ => some reply
  | _ => none

/-- What `status` may say about a stored `journal` after `lastActive`, the latest
reply to an observation of the active service. Where the platform may report the
capability as missing, a failure says nothing about the journal. -/
def Agrees (supported : Prop) (endpoint : LoopbackProxyEndpoint)
    (journal : Option CaptureJournal) (lastActive : Option (Fallible NetworkServiceProxyState))
    (status : CaptureRuntimeStatus) : Prop :=
  match status.systemProxy.phase with
  | .off => journal = none ∧ status.systemProxyEnabled = false
  | .failed => supported → journal = none ∧ status.systemProxyEnabled = false
  | .applied => status.systemProxyEnabled = true ∧
      ∃ prior observed, journal = some ⟨prior⟩ ∧ lastActive = some (.ok observed) ∧
        observed.semanticallyMatches (prior.withEndpoint endpoint) = true
  | .drift => status.systemProxy.recoveryActions ≠ [] ∧ status.systemProxyEnabled = false
  | .pending => False

/-- With nothing journaled the latest observation does not matter. -/
theorem agrees_of_vacant {supported : Prop} {endpoint lastActive other status}
    (h : Agrees supported endpoint none lastActive status) :
    Agrees supported endpoint none other status := by
  unfold Agrees at *
  cases phase : status.systemProxy.phase <;> simp_all

section
variable {σ : Type}

/-- The active states observed in the current operation, newest first. -/
def World.actives (w : World σ) : List NetworkServiceProxyState :=
  w.trace.filterMap activeObservation

/-- `prior` was seen active in this operation, and the latest request read a
policy that lets Mish take it over. -/
def JustAccepted (w : World σ) (prior : NetworkServiceProxyState) : Prop :=
  ∃ policy rest, w.trace = ⟨.takeoverPolicy, policy⟩ :: rest ∧
    prior.takeoverRejection policy = none ∧ SeenSince prior rest

/-- `prior` was accepted and then journaled, with nothing in between or since. -/
def JustJournaled (w : World σ) (prior : NetworkServiceProxyState) : Prop :=
  ∃ policy rest, w.trace = ⟨.saveJournal ⟨prior⟩, .ok ()⟩ :: ⟨.takeoverPolicy, policy⟩ :: rest ∧
    prior.takeoverRejection policy = none ∧ SeenSince prior rest

/-- The latest request found the service of `prior` somewhere between `prior`
and Mish's own configuration of it. -/
def JustFoundOwned (endpoint : LoopbackProxyEndpoint) (w : World σ)
    (prior : NetworkServiceProxyState) : Prop :=
  ∃ found rest, w.trace = ⟨.observeService prior.serviceId, .ok found⟩ :: rest ∧
    found.isTransactionOwnedBetween prior (prior.withEndpoint endpoint) = true

/-- The latest request found the service of `prior` to match it. -/
def JustRestored (w : World σ) (prior : NetworkServiceProxyState) : Prop :=
  ∃ found rest, w.trace = ⟨.observeService prior.serviceId, .ok found⟩ :: rest ∧
    found.semanticallyMatches prior = true

/-- The write of `target` can be undone: the journal holds `prior`, and the
write either takes the accepted `prior` over or puts it back. -/
def WriteAhead (endpoint : LoopbackProxyEndpoint) (w : World σ)
    (target : NetworkServiceProxyState) : Prop :=
  ∃ prior, w.journal = some ⟨prior⟩ ∧
    ((target = prior.withEndpoint endpoint ∧ JustJournaled w prior) ∨
      (target = prior ∧ JustFoundOwned endpoint w prior))

/-- What an operation may journal. -/
structure Journalable (endpoint : LoopbackProxyEndpoint) (op : Op) (w : World σ)
    (journal : CaptureJournal) : Prop where
  accepted : JustAccepted w journal.prior
  /-- Either the endpoint was looked for, or one active state was observed in all. -/
  observed : if op.checksEndpoint then
      journal.prior.hasMatchingManualProxyEndpoint endpoint = false
    else w.actives = [journal.prior]
  /-- Only a Repair overwrites a journal, and then before it changes anything else. -/
  vacant : w.journal = none ∨ (op.repairs = true ∧ ∀ event ∈ w.trace, mutates event = false)

def Lawful (endpoint : LoopbackProxyEndpoint) (op : Op) (w : World σ) : Request → Prop
  | .applyService target => WriteAhead endpoint w target
  | .saveJournal journal => Journalable endpoint op w journal
  | .clearJournal => op.relinquishes = true ∨
      ∀ journal, w.journal = some journal → JustRestored w journal.prior
  | _ => True

/-- Every request the program makes is lawful. -/
def Obeys (behaves : Behaviour σ) (endpoint : LoopbackProxyEndpoint) (op : Op) {α : Type}
    (p : Operation α) (w : World σ) : Prop :=
  Safe (platform behaves) (Lawful endpoint op) (fun _ _ => True) p w

/-- No active state observed and nothing changed yet in this operation. -/
def Opening (w : World σ) : Prop :=
  w.actives = [] ∧ ∀ event ∈ w.trace, mutates event = false

/-- The latest reply to an observation of the active service, in this operation
or an earlier one. -/
def World.lastActive (w : World σ) : Option (Fallible NetworkServiceProxyState) :=
  (w.trace ++ w.earlier).findSome? activeReply

def Published (supported : Prop) (endpoint : LoopbackProxyEndpoint) (w : World σ) : Prop :=
  Agrees supported endpoint w.journal w.lastActive w.status

/-- The published phase agrees with the journal, and a returned status is published. -/
def Settled (supported : Prop) (endpoint : LoopbackProxyEndpoint)
    (result : Fallible CaptureRuntimeStatus) (w : World σ) : Prop :=
  Published supported endpoint w ∧ ∀ status, result = .ok status → w.status = status

def Settles (behaves : Behaviour σ) (supported : Prop) (endpoint : LoopbackProxyEndpoint)
    (p : Operation (Fallible CaptureRuntimeStatus)) (w : World σ) : Prop :=
  Safe (platform behaves) (fun _ _ => True) (Settled supported endpoint) p w

/-- What an audit returns, without the flag that says whether it wrote. -/
def AuditSettled (supported : Prop) (endpoint : LoopbackProxyEndpoint)
    (result : Fallible (CaptureRuntimeStatus × Bool)) (w : World σ) : Prop :=
  Settled supported endpoint (result.map Prod.fst) w

theorem opening_begin (w : World σ) : Opening w.begin :=
  ⟨rfl, fun _ impossible => nomatch impossible⟩

variable {behaves : Behaviour σ} {endpoint : LoopbackProxyEndpoint} {op : Op} {w : World σ}
  {r : Request} {s : σ} {a : Reply r} {prior observed : NetworkServiceProxyState}
  {start : World σ} {supported ready : Prop} {journal existingJournal : Option CaptureJournal}
  {selection : CaptureSelection} {coreHealthy : Bool} {current : CaptureRuntimeStatus}

/-- A request that is not an observation of the active service adds no active state. -/
theorem actives_after
    (h : activeObservation ⟨r, a⟩ = none) : (w.after r a s).actives = w.actives := by
  simp [World.actives, h]

theorem opening_after (h : Opening w) (quiet : activeObservation ⟨r, a⟩ = none)
    (calm : mutates ⟨r, a⟩ = false) : Opening (w.after r a s) := by
  refine ⟨(actives_after quiet).trans h.1, fun event mem => ?_⟩
  rcases List.mem_cons.mp mem with rfl | mem
  · exact calm
  · exact h.2 event mem

@[simp] theorem lastActive_begin (w : World σ) : w.begin.lastActive = w.lastActive := by
  simp [World.lastActive, World.begin]

@[simp] theorem lastActive_after (r : Request) (a : Reply r) (s : σ) :
    (w.after r a s).lastActive = (activeReply ⟨r, a⟩).or w.lastActive := by
  simp only [World.lastActive, after_trace, List.cons_append, List.findSome?_cons]
  cases activeReply ⟨r, a⟩ <;> rfl

/-- A request that neither observes the active service nor writes leaves what is
published as it is. -/
theorem Published.after {r a s} (h : Published supported endpoint w)
    (stored : journalAfter w.journal r a = w.journal) (shown : statusAfter w.status r = w.status)
    (quiet : activeReply ⟨r, a⟩ = none) : Published supported endpoint (w.after r a s) := by
  unfold Published
  rw [after_journal, after_status, lastActive_after, stored, shown, quiet]
  exact h

/-- Drift may be published over any journal. -/
@[simp] theorem settled_drift (status : CaptureRuntimeStatus) (failure : Option CaptureFailureKind)
    (observed : SystemProxyObservedState) (error : CaptureTransitionError) (s : σ) :
    Settled supported endpoint (.error error)
    (w.after (.writeStatus (driftStatus status failure observed)) () s) := by
  simp [Settled, Published, Agrees, driftStatus, statusAfter]

@[simp] theorem auditSettled_error {error} :
    AuditSettled supported endpoint (.error error) w ↔ Settled supported endpoint (.error error) w :=
  Iff.rfl

@[simp] theorem auditSettled_drift {status failure observed mutated} (s : σ) :
    AuditSettled supported endpoint (.ok (driftStatus status failure observed, mutated))
    (w.after (.writeStatus (driftStatus status failure observed)) () s) := by
  simp [AuditSettled, Except.map, Settled, Published, Agrees, driftStatus, statusAfter]

/-! ## Confirming and restoring -/

/-- Since `start` the journal is the same, no active state was observed, and no
service but that of `prior` was written. -/
structure OnlyTouched (start : World σ) (prior : NetworkServiceProxyState) (w : World σ) :
    Prop where
  journal : w.journal = start.journal
  actives : w.actives = start.actives
  seen : ∀ state : NetworkServiceProxyState, state.serviceId ≠ prior.serviceId →
    SeenSince state start.trace → SeenSince state w.trace

theorem OnlyTouched.after (h : OnlyTouched start prior w)
    (stored : journalAfter w.journal r a = w.journal) (quiet : activeObservation ⟨r, a⟩ = none)
    (elsewhere : ∀ serviceId, serviceId ≠ prior.serviceId → appliesTo serviceId ⟨r, a⟩ = false) :
    OnlyTouched start prior (w.after r a s) where
  journal := stored.trans h.journal
  actives := (actives_after quiet).trans h.actives
  seen state other before := .inr ⟨elsewhere _ other, h.seen state other before⟩

theorem onlyTouched_refl (w : World σ) (prior : NetworkServiceProxyState) :
    OnlyTouched w prior w := ⟨rfl, rfl, fun _ _ h => h⟩

theorem keptByLoop_service (start : World σ) (prior : NetworkServiceProxyState) :
    KeptByLoop behaves (Lawful endpoint op) (OnlyTouched start prior) (some prior.serviceId) where
  window _ h := ⟨trivial, fun _ _ _ => h.after rfl rfl fun _ _ => rfl⟩
  deadline _ h := ⟨trivial, fun _ _ _ => h.after rfl rfl fun _ _ => rfl⟩
  sleep _ h := ⟨trivial, fun _ _ _ => h.after rfl rfl fun _ _ => rfl⟩
  observe _ h := ⟨trivial, fun _ _ _ => h.after rfl rfl fun _ _ => rfl⟩

theorem keptByLoop_active :
    KeptByLoop behaves (Lawful endpoint op) (fun t => t.journal = start.journal) none where
  window _ h := ⟨trivial, fun _ _ _ => h⟩
  deadline _ h := ⟨trivial, fun _ _ _ => h⟩
  sleep _ h := ⟨trivial, fun _ _ _ => h⟩
  observe _ h := ⟨trivial, fun _ _ _ => h⟩

/-- Restoring writes the journaled state back right after finding it owned, and
succeeds only on finding it there. -/
theorem restoreExactPrior_lawful (journaled : w.journal = some ⟨prior⟩) :
    Safe (platform behaves) (Lawful endpoint op) (fun result t => OnlyTouched w prior t ∧
    ∀ restored, result = .ok restored →
    JustRestored t prior) (restoreExactPrior endpoint prior) w := by
  unfold restoreExactPrior
  simp only [safe_bind, safe_free, forall_fallible, safe_pure, safe_ite]
  have looked : ∀ a s, OnlyTouched w prior (w.after (.observeService prior.serviceId) a s) :=
    fun a s => (onlyTouched_refl w prior).after rfl rfl fun _ _ => rfl
  refine ⟨trivial, fun e s _ => ⟨looked _ _, by simp⟩, fun found s _ =>
    ⟨fun _ => ⟨looked _ _, by simp⟩, fun owned => ?_⟩⟩
  have applied : Lawful endpoint op
      (w.after (.observeService prior.serviceId) (.ok found) s) (.applyService prior) :=
    ⟨prior, journaled, .inr ⟨rfl, found, w.trace, rfl, by simpa using owned⟩⟩
  have written : ∀ a t, OnlyTouched w prior ((w.after (.observeService prior.serviceId)
      (.ok found) s).after (.applyService prior) a t) := fun a t =>
    (looked _ _).after (by cases a <;> rfl) (by cases a <;> rfl)
      fun serviceId other => by simp [appliesTo, Ne.symm other]
  refine ⟨applied, fun e t _ => ⟨written _ _, by simp⟩, fun _ t _ => ?_⟩
  refine Safe.mono (confirmTarget_safe (keptByLoop_service w prior) (written _ _)) ?_
  rintro (e | restored) u confirmed
  · exact ⟨confirmed.1, by simp⟩
  · obtain ⟨same, rest, latest⟩ := confirmed.2 restored rfl
    exact ⟨confirmed.1, fun _ _ => ⟨restored, rest, latest, same⟩⟩

/-- After a confirmed restoration the journal may go. -/
theorem clear_lawful (endpoint : LoopbackProxyEndpoint) (op : Op)
    (journaled : w.journal = some ⟨prior⟩)
    (restored : JustRestored w prior) : Lawful endpoint op w .clearJournal := by
  refine .inr fun journal stored => ?_
  obtain rfl : journal = ⟨prior⟩ := Option.some.inj (stored.symm.trans journaled)
  exact restored

/-- Every request that the operation makes is lawful, and the status it leaves agrees with
the journal. -/
def Conducts (behaves : Behaviour σ) (supported : Prop) (endpoint : LoopbackProxyEndpoint) (op : Op)
    (p : Operation (Fallible CaptureRuntimeStatus)) (w : World σ) : Prop :=
  Safe (platform behaves) (Lawful endpoint op) (Settled supported endpoint) p w

theorem recordFailure_conducts {selection desired failure observed error}
    (clear : supported → w.journal = none) : Safe (platform behaves) (Lawful endpoint op)
    (fun _ t => Settled supported endpoint (.error error) t)
    (recordFailure endpoint selection desired failure observed) w := by
  simp only [recordFailure, safe_writeStatus]
  exact ⟨trivial, fun s _ => ⟨fun known => ⟨clear known, rfl⟩, by simp⟩⟩

theorem rollbackAfterFailure_conducts (journaled : w.journal = some ⟨prior⟩) {original} :
    Conducts behaves supported endpoint op
    (rollbackAfterFailure endpoint selection prior original) w := by
  refine (restoreExactPrior_lawful journaled).bind ?_
  rintro (e | restored) t ⟨touched, done⟩
  · simp only [recordRollbackDrift, safe_bind, safe_free, safe_writeStatus, safe_pure]
    exact ⟨trivial, fun a s _ => ⟨trivial, fun s' _ => ⟨⟨by simp [statusAfter], rfl⟩, by simp⟩⟩⟩
  · have clear := clear_lawful endpoint op (touched.journal.trans journaled) (done restored rfl)
    simp only [safe_bind, safe_free, forall_fallible]
    refine ⟨clear, fun e s _ => by simp [Lawful, markDrift], fun _ s _ => ?_⟩
    exact recordFailure_conducts fun _ => rfl

/-- A restore that returns a status has cleared the journal. -/
theorem restore_conducts (supported : Prop) (w : World σ) : Safe (platform behaves) (Lawful endpoint op)
    (fun result t => Settled supported endpoint result t ∧
    ∀ status, result = .ok status → t.journal = none)
    (restore endpoint selection) w := by
  unfold restore
  rw [safe_bind]
  refine loadValidatedJournal_safe trivial (fun e a s _ => ?_) (fun s _ _ => ?_)
  · simp [Lawful, recordUnknownDrift]
  cases stored : w.journal with
  | none =>
    simp only [safe_bind, safe_free, safe_writeStatus, safe_pure, forall_fallible]
    refine ⟨trivial, fun e t _ => ?_, fun observed t _ => ⟨trivial, fun u _ => ?_⟩⟩
    · exact Safe.mono (recordFailure_conducts fun _ => stored) fun _ _ settled =>
        ⟨settled, by simp⟩
    · simp [Settled, Published, Agrees, offStatus, statusAfter, journalAfter, stored, off]
  | some journal =>
    simp only [safe_ite, safe_bind, safe_free, forall_fallible]
    refine ⟨trivial, fun e t _ => ?_, fun owned t _ => ⟨fun _ => ?_, fun _ => ?_⟩⟩
    · simp [Lawful, recordUnknownDrift]
    · simp [Lawful, markDrift]
    · refine Safe.mono (restoreExactPrior_lawful
        (show _ = some (CaptureJournal.mk journal.prior) from stored)) ?_
      rintro (e | restored) u ⟨touched, done⟩
      · simp [Lawful, markDrift]
      · have clear := clear_lawful endpoint op (touched.journal.trans stored) (done restored rfl)
        simp only [safe_bind, safe_free, forall_fallible]
        refine ⟨clear, fun e s _ => by simp [Lawful, markDrift], fun _ s _ => ?_⟩
        simp [Lawful, Settled, Published, Agrees, offStatus, statusAfter, journalAfter, off]

/-! ## Taking over -/

theorem settled_applied
    (s : σ) (journaled : w.journal = some ⟨prior⟩) (latest : w.lastActive = some (.ok observed))
    (same : observed.semanticallyMatches (prior.withEndpoint endpoint) = true) :
    Settled supported endpoint (.ok (appliedStatus selection))
    (w.after (.writeStatus (appliedStatus selection)) () s) := by
  refine ⟨⟨rfl, prior, observed, journaled, ?_, same⟩, fun _ shown => by cases shown; rfl⟩
  exact latest

/-- Once the prior is accepted, the journal is written first and the service
next; only a failure to journal is reported in the caller's own way. -/
theorem takeOver_conducts {unsaved} (supported : Prop)
    (journalable : Journalable endpoint op w ⟨prior⟩)
    (reported : ∀ error s, Safe (platform behaves) (Lawful endpoint op)
    (fun _ t => Settled supported endpoint (.error error) t) (unsaved error)
    (w.after (.saveJournal ⟨prior⟩) (.error error) s)) :
    Conducts behaves supported endpoint op (takeOver endpoint selection prior unsaved) w := by
  unfold Conducts takeOver
  simp only [safe_bind, safe_free, forall_fallible]
  obtain ⟨policy, rest, read, passed, seen⟩ := journalable.accepted
  refine ⟨journalable, fun e s _ => reported e s, fun _ s _ => ?_⟩
  have journaled : WriteAhead endpoint (w.after (.saveJournal ⟨prior⟩) (.ok ()) s)
      (prior.withEndpoint endpoint) := by
    refine ⟨prior, rfl, .inl ⟨rfl, policy, rest, ?_, passed, seen⟩⟩
    rw [after_trace, read]
  refine ⟨journaled, fun e t _ => rollbackAfterFailure_conducts rfl, fun _ t _ => ?_⟩
  refine (confirmTarget_safe keptByLoop_active rfl).mono ?_
  rintro (e | observed) u confirmed
  · exact rollbackAfterFailure_conducts confirmed.1
  · obtain ⟨same, rest, latest⟩ := confirmed.2 observed rfl
    simp only [safe_bind, safe_writeStatus, safe_pure]
    refine ⟨trivial, fun v _ => settled_applied v confirmed.1 ?_ same⟩
    rw [World.lastActive, latest]
    rfl

theorem enableFrom_conducts (checks : op.checksEndpoint = true) (vacant : w.journal = none)
    (seen : SeenSince prior w.trace) :
    Conducts behaves supported endpoint op (enableFrom endpoint selection prior) w := by
  unfold Conducts enableFrom takeoverError
  simp only [safe_ite, safe_bind, safe_free, safe_pure]
  refine ⟨fun _ => by simp [Lawful, markDrift], fun unmatched => ⟨trivial, fun policy s _ => ?_⟩⟩
  cases passed : prior.takeoverRejection policy with
  | some rejection => exact recordFailure_conducts fun _ => vacant
  | none =>
    refine takeOver_conducts _ ⟨⟨policy, _, rfl, passed, seen⟩, ?_, .inl vacant⟩
      fun error t => recordFailure_conducts fun _ => vacant
    simpa [checks] using unmatched

theorem enableObserved_conducts (checks : op.checksEndpoint = true)
    (stored : w.journal = existingJournal) (seen : SeenSince prior w.trace)
    (latest : w.lastActive = some (.ok prior)) : Conducts behaves supported endpoint op
    (enableObserved endpoint selection existingJournal prior) w := by
  unfold Conducts enableObserved
  cases existingJournal with
  | none => exact enableFrom_conducts checks stored seen
  | some journal =>
    simp only [safe_ite, safe_bind, safe_writeStatus, safe_pure]
    refine ⟨fun _ => ⟨fun same => ⟨trivial, fun s _ => settled_applied s stored latest same⟩,
      fun _ => by simp [Lawful, markDrift]⟩, fun _ => ?_⟩
    refine (restore_conducts supported w).mono ?_
    rintro (e | status) t ⟨settled, cleared⟩
    · exact ⟨settled.1, by simp⟩
    · simp only [setPending, safe_bind, safe_readStatus, safe_writeStatus, safe_free,
        forall_fallible]
      refine ⟨trivial, fun s _ => ⟨trivial, fun s _ => ⟨trivial, fun e s _ => ?_,
        fun prior s _ => enableFrom_conducts checks (cleared status rfl) (.inl rfl)⟩⟩⟩
      exact recordFailure_conducts fun _ => cleared status rfl

theorem abandonEnable_conducts {error} (stored : w.journal = existingJournal) :
    Conducts behaves supported endpoint op
    (abandonEnable endpoint selection existingJournal error) w := by
  unfold Conducts abandonEnable
  simp only [safe_ite]
  refine ⟨fun _ => (restore_conducts supported w).bind ?_, fun missing => ?_⟩
  · rintro (e | status) t ⟨settled, cleared⟩
    · exact ⟨settled.1, by simp⟩
    · exact recordFailure_conducts fun _ => cleared status rfl
  · exact recordFailure_conducts fun _ => by simpa [stored] using missing

theorem enable_conducts {preflight} (checks : op.checksEndpoint = true) :
    Conducts behaves supported endpoint op (enable endpoint selection coreHealthy preflight) w := by
  unfold Conducts enable
  rw [safe_bind]
  refine loadValidatedJournal_safe trivial (fun e a s _ => ?_) (fun s _ _ => ?_)
  · simp [Lawful, recordUnknownDrift]
  simp only [safe_ite, safe_bind, safe_free, forall_fallible]
  refine ⟨fun _ => abandonEnable_conducts rfl, fun _ => ⟨trivial,
    fun e s _ => abandonEnable_conducts rfl, fun _ s _ => ⟨trivial,
      fun e s _ => ⟨fun _ => by simp [Lawful, recordUnknownDrift], fun missing => ?_⟩,
      fun prior s _ => ⟨fun _ => by simp [Lawful, markDrift],
        fun _ => enableObserved_conducts checks rfl (.inl rfl) (by simp [activeReply])⟩⟩⟩⟩
  have vacant : w.journal = none := by simpa using missing
  exact recordFailure_conducts fun _ => vacant

/-- Where the capability is known to be there, a failure says that nothing is journaled. -/
theorem reconcileLocked_conducts (checks : op.checksEndpoint = true)
    (known : supported → ∀ s a s', behaves s .availability a s' → a = .supported)
    {req preflight} (published : ready → Published supported endpoint w) :
    Safe (platform behaves) (Lawful endpoint op) (fun result t => ready → Settled supported endpoint
    result t) (reconcileLockedWithPreflight endpoint req coreHealthy preflight) w := by
  unfold reconcileLockedWithPreflight setPending
  simp only [safe_ite, safe_bind, safe_free, safe_readStatus, safe_writeStatus, safe_pure]
  refine ⟨trivial, fun a s available => ⟨fun missing => ?_, fun _ =>
    ⟨fun _ yes => ⟨(published yes).after rfl rfl rfl, by simp⟩, fun _ => ⟨trivial, fun s _ =>
      ⟨trivial, fun s _ => ⟨fun _ => ?_, fun _ => ?_⟩⟩⟩⟩⟩⟩
  · exact Safe.mono (recordFailure_conducts fun supports =>
      absurd (known supports _ _ _ available) missing) fun _ _ settled _ => settled
  · exact (restore_conducts supported _).mono fun _ _ h _ => h.1
  · exact Safe.mono (enable_conducts checks) fun _ _ settled _ => settled

/-! ## Auditing and recovering -/

/-- What one unchecked observation of the active service lets an operation journal. -/
theorem journalable_of_seen {policy}
    (unchecked : op.checksEndpoint = false) (passed : observed.takeoverRejection policy = none)
    (only : w.actives = [observed]) (seen : SeenSince observed w.trace)
    (vacant : w.journal = none ∨ (op.repairs = true ∧ ∀ event ∈ w.trace, mutates event = false)) :
    Journalable endpoint op (w.after .takeoverPolicy policy s) ⟨observed⟩ where
  accepted := ⟨policy, _, rfl, passed, seen⟩
  observed := by simpa [unchecked] using (actives_after rfl).trans only
  vacant := by
    rcases vacant with none | ⟨repairs, calm⟩
    · exact .inl none
    · refine .inr ⟨repairs, fun event mem => ?_⟩
      rcases List.mem_cons.mp mem with rfl | mem
      · rfl
      · exact calm event mem

theorem auditServiceChange_conducts {journal} (unchecked : op.checksEndpoint = false)
    (stored : w.journal = some journal) (only : w.actives = [observed])
    (seen : SeenSince observed w.trace) (moved : journal.prior.serviceId ≠ observed.serviceId) :
    Safe (platform behaves) (Lawful endpoint op) (AuditSettled supported endpoint)
    (auditServiceChange endpoint current journal observed) w := by
  unfold auditServiceChange takeoverError
  rw [safe_bind]
  refine Safe.mono (restoreExactPrior_lawful
    (show _ = some (CaptureJournal.mk journal.prior) from stored)) ?_
  rintro (e | restored) t ⟨touched, done⟩
  · simp [Lawful, markDrift]
  have clear := clear_lawful endpoint op (touched.journal.trans stored) (done restored rfl)
  simp only [safe_bind, safe_free, safe_pure, forall_fallible]
  refine ⟨clear, fun e s _ => by simp [Lawful, markDrift], fun _ s _ => ⟨trivial,
    fun policy s' _ => ?_⟩⟩
  cases passed : observed.takeoverRejection policy with
  | some rejection => exact recordFailure_conducts fun _ => rfl
  | none =>
    have journalable : Journalable endpoint op
        ((t.after .clearJournal (.ok ()) s).after .takeoverPolicy policy s') ⟨observed⟩ :=
      journalable_of_seen unchecked passed ((actives_after rfl).trans (touched.actives.trans only))
        (.inr ⟨rfl, touched.seen observed moved.symm seen⟩) (.inl rfl)
    simp only [Option.map_none, safe_bind, safe_pure]
    refine Safe.mono (takeOver_conducts supported journalable
      fun error u => recordFailure_conducts fun _ => rfl) ?_
    rintro (e | status) u settled
    · exact settled
    · exact settled

theorem auditObserved_conducts (unchecked : op.checksEndpoint = false) (stored : w.journal = journal)
    (only : w.actives = [observed]) (seen : SeenSince observed w.trace)
    (latest : w.lastActive = some (.ok observed))
    (owned : journal.isSome = true → current.systemProxy.desired = true) :
    Safe (platform behaves) (Lawful endpoint op) (AuditSettled supported endpoint)
    (auditObserved endpoint current journal observed) w := by
  unfold auditObserved
  simp only [safe_ite, safe_bind, safe_writeStatus, safe_pure]
  refine ⟨fun failed => ⟨trivial, fun s _ => ?_⟩, fun _ => ⟨fun matching => ⟨trivial,
    fun s _ => ?_⟩, fun _ => ⟨fun _ => ?_, fun unwanted => ⟨trivial, fun s _ => ?_⟩⟩⟩⟩
  · obtain ⟨absent, failed, -⟩ := failed
    have vacant : w.journal = none := by simpa [stored] using absent
    simp [AuditSettled, Settled, Published, Agrees, statusAfter, journalAfter, Except.map, failed,
      vacant]
  · obtain ⟨-, matching⟩ := matching
    cases journal with
    | none => simp at matching
    | some journal =>
      refine ⟨⟨rfl, journal.prior, observed, stored, ?_, by simpa using matching⟩,
        fun _ shown => by cases shown; rfl⟩
      exact latest
  · cases journal with
    | none => simp [Lawful, markDrift]
    | some journal =>
      simp only [safe_ite]
      exact ⟨auditServiceChange_conducts unchecked stored only seen, fun _ => by
        simp [Lawful, markDrift]⟩
  · have vacant : w.journal = none := by
      cases journal with
      | none => exact stored
      | some journal => exact absurd (owned rfl) unwanted
    simp [AuditSettled, Settled, Published, Agrees, statusAfter, journalAfter, Except.map, vacant]

/-- Observing the active service first makes it the only active state seen. -/
theorem actives_first (opening : Opening w) :
    (w.after .observeActive (.ok observed) s).actives = [observed] := by
  change observed :: w.actives = [observed]
  rw [opening.1]

theorem observeAndAudit_conducts (unchecked : op.checksEndpoint = false)
    (stored : w.journal = journal) (opening : Opening w)
    (published : ready → Published supported endpoint w)
    (owned : journal.isSome = true → current.systemProxy.desired = true) :
    Safe (platform behaves) (Lawful endpoint op)
    (fun result t => ready → AuditSettled supported endpoint result t)
    (auditSupported.observeAndAudit endpoint current journal) w := by
  unfold auditSupported.observeAndAudit
  simp only [safe_bind, safe_ite, safe_free, forall_fallible, safe_pure]
  refine ⟨trivial, fun e s _ => ⟨fun _ => ?_, fun unwanted yes => ?_⟩, fun observed s _ => ?_⟩
  · simp [Lawful, recordUnknownDrift]
  · have vacant : w.journal = none := by
      cases journal with
      | none => exact stored
      | some journal => simp at unwanted
    refine ⟨?_, by simp [Except.map]⟩
    have kept := published yes
    unfold Published at kept ⊢
    rw [vacant] at kept
    simpa [journalAfter, statusAfter, vacant] using agrees_of_vacant kept
  · exact Safe.mono (auditObserved_conducts unchecked stored (actives_first opening) (.inl rfl)
      (by simp [activeReply]) owned) fun _ _ settled _ => settled

theorem auditSupported_conducts (unchecked : op.checksEndpoint = false)
    (stored : w.journal = journal) (opening : Opening w)
    (published : ready → Published supported endpoint w) :
    Safe (platform behaves) (Lawful endpoint op)
    (fun result t => ready → AuditSettled supported endpoint result t)
    (auditSupported endpoint coreHealthy current journal) w := by
  unfold auditSupported
  simp only [safe_ite, safe_bind, safe_free, forall_fallible]
  refine ⟨fun wanted => ⟨trivial, fun e s _ => ?_, fun _ s _ => ?_⟩, fun _ => ⟨fun _ => ?_,
    fun kept => ?_⟩⟩
  · refine (restore_conducts supported _).mono ?_
    rintro (error | status) t ⟨settled, cleared⟩
    · exact fun _ => ⟨settled.1, by simp [Except.map]⟩
    · exact Safe.mono (recordFailure_conducts fun _ => cleared status rfl)
        fun _ _ settled _ => settled
  · refine observeAndAudit_conducts unchecked stored (opening_after opening rfl rfl)
      (fun yes => (published yes).after rfl rfl rfl) fun _ => ?_
    simp only [Bool.and_eq_true] at wanted
    exact wanted.1.2
  · refine (restore_conducts supported _).mono ?_
    rintro (error | status) t ⟨settled, -⟩
    · exact fun _ => settled
    · exact fun _ => settled
  · refine observeAndAudit_conducts unchecked stored opening published fun present => ?_
    simp only [present, Bool.true_and, Bool.or_eq_true, Bool.not_eq_true', not_or,
      Bool.not_eq_false] at kept
    exact kept.2

theorem auditLocked_conducts (unchecked : op.checksEndpoint = false) (opening : Opening w)
    (published : ready → Published supported endpoint w) :
    Safe (platform behaves) (Lawful endpoint op) (fun result t => ready →
    AuditSettled supported endpoint result t) (auditLocked endpoint coreHealthy) w := by
  unfold auditLocked
  simp only [safe_bind, safe_readStatus]
  refine ⟨trivial, fun s _ => loadValidatedJournal_safe trivial (fun e a t _ => ?_)
    (fun t _ _ => ?_)⟩
  · simp [Lawful, recordUnknownDrift, restrictRecoveryToRelinquish, AuditSettled, Except.map,
      Settled, Published, Agrees, driftStatus, statusAfter]
  have kept (yes : ready) :=
    ((published yes).after (r := .readStatus) (a := w.status) (s := s) rfl rfl rfl).after
      (r := .loadJournal) (a := .ok w.journal) (s := t) rfl rfl rfl
  simp only [safe_ite, safe_bind, safe_free, safe_pure]
  refine ⟨trivial, fun a u _ => ⟨fun _ => ⟨fun _ => ?_, fun _ yes => ?_⟩, fun _ => ?_⟩⟩
  · simp [Lawful, recordUnknownDrift]
  · exact ⟨(kept yes).after rfl rfl rfl, fun _ shown => by cases shown; rfl⟩
  · exact auditSupported_conducts unchecked rfl
      (opening_after (opening_after (opening_after opening rfl rfl) rfl rfl) rfl rfl)
      fun yes => (kept yes).after rfl rfl rfl

theorem recoverObserved_conducts {action invalidRecovery} (opening : Opening w) :
    Conducts behaves supported endpoint (.recover action coreHealthy)
    (recoverObserved endpoint action current invalidRecovery observed)
    (w.after .observeActive (.ok observed) s) := by
  unfold Conducts recoverObserved takeoverError
  cases action with
  | leaveAsIs =>
    simp only [safe_bind, safe_free, forall_fallible]
    refine ⟨.inl rfl, fun e s _ => ?_, fun _ s _ => ?_⟩
    · simp [Lawful, markDrift, restrictRecoveryToRelinquish, Settled, Published, Agrees,
        driftStatus, statusAfter]
    · simp [Lawful, Settled, Published, Agrees, offStatus, statusAfter, journalAfter, off]
  | repair =>
    simp only [safe_bind, safe_free, safe_pure]
    refine ⟨trivial, fun policy s _ => ?_⟩
    cases passed : observed.takeoverRejection policy with
    | some rejection => simp [Lawful, markDrift]
    | none =>
      have calm : ∀ event ∈ (⟨.observeActive, .ok observed⟩) :: w.trace, mutates event = false := by
        rintro event (_ | ⟨_, mem⟩)
        · rfl
        · exact opening.2 event mem
      refine takeOver_conducts _ (journalable_of_seen rfl passed (actives_first opening) (.inl rfl)
        (.inr ⟨rfl, calm⟩)) fun error t => ?_
      simp [Lawful, markDrift]

theorem recoverAdmitted_conducts {action invalidRecovery} (opening : Opening w) :
    Conducts behaves supported endpoint (.recover action coreHealthy)
    (recoverAdmitted endpoint action current invalidRecovery) w := by
  unfold Conducts recoverAdmitted setPending
  simp only [safe_bind, safe_readStatus, safe_writeStatus, safe_free, forall_fallible]
  refine ⟨trivial, fun s _ => ⟨trivial, fun s' _ => ⟨trivial, fun e t _ => ?_,
    fun observed t _ => ?_⟩⟩⟩
  · simp [Lawful, recordUnknownDrift, restrictRecoveryToRelinquish, Settled, Published, Agrees,
      driftStatus, statusAfter]
  · exact recoverObserved_conducts (opening_after (opening_after opening rfl rfl) rfl rfl)

theorem recoverLocked_conducts {action} (opening : Opening w) (published : ready →
    Published supported endpoint w) :
    Safe (platform behaves) (Lawful endpoint (.recover action coreHealthy)) (fun result t => ready →
    Settled supported endpoint result t) (recoverLocked endpoint action coreHealthy) w := by
  unfold recoverLocked
  simp only [safe_bind, safe_readStatus, safe_ite, safe_pure]
  have kept (s) (yes : ready) : Published supported endpoint (w.after .readStatus w.status s) :=
    (published yes).after rfl rfl rfl
  refine ⟨trivial, fun s _ => ⟨fun _ yes => ⟨kept s yes, by simp⟩, fun _ => ?_⟩⟩
  cases action with
  | leaveAsIs =>
    exact Safe.mono (recoverAdmitted_conducts (opening_after opening rfl rfl))
      fun _ _ settled _ => settled
  | repair =>
    simp only [safe_ite, safe_bind, safe_free, safe_pure, forall_fallible]
    refine ⟨fun _ yes => ⟨kept s yes, by simp⟩, fun _ => ⟨fun _ => by
      simp [Lawful, recordDriftFailure], fun _ => ⟨trivial, fun e t _ => by
        simp [Lawful, recordDriftFailure], fun _ t _ => ?_⟩⟩⟩
    exact Safe.mono (recoverAdmitted_conducts
      (opening_after (opening_after opening rfl rfl) rfl rfl)) fun _ _ settled _ => settled

/-! ## Whole operations -/

theorem guarded_conducts {α : Type} {refused body : Operation α} {post} (opening : Opening w)
    (published : ready → Published supported endpoint w)
    (refusing : ∀ t : World σ, (ready → Published supported endpoint t) →
    Safe (platform behaves) (Lawful endpoint op) post refused t)
    (running : ∀ t : World σ, Opening t → (ready → Published supported endpoint t) →
    Safe (platform behaves) (Lawful endpoint op) post body t) :
    Safe (platform behaves) (Lawful endpoint op) post (guarded refused body) w := by
  unfold guarded
  simp only [safe_bind, safe_ite, safe_free, safe_lockOperation]
  refine ⟨trivial, fun a s _ => ⟨fun _ => refusing _ fun yes => (published yes).after rfl rfl rfl,
    fun _ => ⟨trivial, fun s' _ => ⟨trivial, fun b t _ => ?_⟩⟩⟩⟩
  have kept (yes : ready) := (((published yes).after (s := s) (a := a) rfl rfl rfl).after
    (s := s') (r := .lockOperation) (a := ()) rfl rfl rfl).after (s := t) (a := b) rfl rfl rfl
  exact ⟨fun _ => refusing _ kept, fun _ => running _
    (opening_after (opening_after (opening_after opening rfl rfl) rfl rfl) rfl rfl) kept⟩

/-- Every request is lawful, and an operation that finds an agreeing status leaves one
behind. -/
theorem program_conducts (supported ready : Prop) (op : Op) (opening : Opening w)
    (known : supported → ∀ s a s', behaves s .availability a s' → a = .supported)
    (published : ready → Published supported endpoint w) :
    Safe (platform behaves) (Lawful endpoint op)
    (fun result t => ready → Settled supported endpoint result t) (op.program endpoint) w := by
  have refusal : ∀ t : World σ, (ready → Published supported endpoint t) →
      Safe (platform behaves) (Lawful endpoint op)
        (fun result t => ready → Settled supported endpoint result t)
        (pure (.error runtimeTransitionError)) t := fun t h yes => ⟨h yes, by simp⟩
  cases op with
  | reconcile | reconcileWithPreflight =>
    exact guarded_conducts opening published refusal fun t _ =>
      reconcileLocked_conducts rfl known
  | reconcileRuntimeTransition own req healthy =>
    simp only [Op.program, reconcileRuntimeTransition, safe_ite, safe_bind,
      safe_free, safe_lockOperation, safe_pure]
    exact ⟨fun _ yes => ⟨published yes, by simp⟩, fun _ => ⟨trivial, fun a s _ =>
      ⟨fun _ yes => ⟨(published yes).after rfl rfl rfl, by simp⟩, fun _ => ⟨trivial, fun t _ =>
        reconcileLocked_conducts rfl known fun yes =>
          ((published yes).after rfl rfl rfl).after rfl rfl rfl⟩⟩⟩⟩
  | audit reason healthy =>
    have audits : Safe (platform behaves) (Lawful endpoint (.audit reason healthy))
        (fun result t => ready → AuditSettled supported endpoint result t)
        (auditWithMutation endpoint reason healthy) w := by
      refine guarded_conducts opening published (fun t h => ?_) fun t => auditLocked_conducts rfl
      simp only [safe_bind, safe_readStatus, safe_pure]
      exact ⟨trivial, fun s _ yes => ⟨(h yes).after rfl rfl rfl, fun _ shown => by
        cases shown; rfl⟩⟩
    exact audits.bind fun result t h => h
  | recover action healthy =>
    exact guarded_conducts opening published refusal fun t => recoverLocked_conducts

theorem program_obeys (op : Op) (opening : Opening w) :
    Obeys behaves endpoint op (op.program endpoint) w :=
  (program_conducts False False op opening nofun nofun).mono fun _ _ _ => trivial

/-- Every request that any sequence of operations makes is lawful. -/
theorem reaches_lawful (h : Reaches behaves endpoint start r w) : ∃ op, Lawful endpoint op w r := by
  obtain ⟨found, op, next, _, run⟩ := h
  exact ⟨op, (program_obeys op (opening_begin found)).request_allowed run⟩

end

/-- In every sequence of operations, dropped anywhere and whatever the platform
answers, a service is written only when the journal holds the state that undoes
the write, and only to take over what was just accepted or to put back what was
just found to be Mish's. -/
theorem apply_service_write_ahead {σ : Type} (behaves : Behaviour σ)
    (endpoint : LoopbackProxyEndpoint) (start w : World σ) (target : NetworkServiceProxyState)
    (h : Reaches behaves endpoint start (.applyService target) w) :
    WriteAhead endpoint w target := by
  obtain ⟨op, lawful⟩ := reaches_lawful h
  exact lawful

/-- Turning System Proxy on over a service without proxies, up to the write. -/
def firstEnable : Operation (Fallible CaptureRuntimeStatus) × World Unit :=
  Script.run ⟨.protectExisting, .ok (), fun _ => .ok directService, fun _ _ => .ok directService,
    fun _ _ => .ok ()⟩ .managed .turnOn .fresh Request.isApply

theorem first_enable_write_ahead :
    WriteAhead .managed firstEnable.2 (directService.withEndpoint .managed) :=
  apply_service_write_ahead anything .managed .fresh firstEnable.2 _
    (Script.reaches (.refl _) (by decide +kernel))

end Mish.Capture.SystemProxy
