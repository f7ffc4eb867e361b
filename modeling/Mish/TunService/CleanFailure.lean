import Mish.TunService.World

/-!
# What a failed DNS transaction leaves behind

One call of `apply_network_transaction` or `restore_network_transaction`, with nobody else at work
on the journal or the DNS, and any outcome of every file operation and DNS call.
-/

namespace Mish.TunService
open Interaction

/-- Every result satisfies `post`, with nobody else at work. -/
def Ensures {α : Type} (lapses : Lapses) (post : α → World → Prop) (p : Action α) (w : World) :
    Prop :=
  Safe (serves lapses 0) (fun _ _ => True) post p w

section
variable {codec : Codec} {lapses : Lapses} {w : World} {α β : Type} {t : World}
  {record : NetworkRecoveryRecord}

/-! ## Rules -/

namespace Ensures

theorem request {r post}
    (h : ∀ a t, serves lapses 0 w r a t → post a t) : Ensures lapses post (ask r) w :=
  ⟨trivial, h⟩

variable {p : Action α} {post : Except Unit β → World → Prop} {k : α → Attempt β}

theorem attempt {mid x} (first : Ensures lapses mid x.run w)
    (ok : ∀ a t, mid (.ok a) t → Ensures lapses post (k a).run t)
    (error : ∀ t, mid (.error ()) t → post (.error ()) t) : Ensures lapses post (x >>= k).run w :=
  Safe.attempt first ok fun _ => error

/-- What is left to do depends on the result. -/
theorem onward {x} (first : Ensures lapses (fun result t => match result with
      | .ok a => Ensures lapses post (k a).run t
      | .error _ => post (.error ()) t) x.run w) : Ensures lapses post (x >>= k).run w :=
  first.attempt (fun _ _ h => h) fun _ h => h

theorem succeeds {p} {k : Unit → Attempt α} {post}
    (first : Ensures lapses (fun ok t => (ok = true → Ensures lapses post (k ()).run t) ∧
    (ok = false → post (.error ()) t)) p w) : Ensures lapses post (succeeds p >>= k).run w := by
  refine .onward (first.bind fun ok t h => ?_)
  cases ok with
  | true => exact h.1 rfl
  | false => exact h.2 rfl

theorem provides {p}
    (first : Ensures lapses (fun value t => (∀ a, value = some a → Ensures lapses post (k a).run t) ∧
    (value = none → post (.error ()) t)) p w) : Ensures lapses post (provides p >>= k).run w := by
  refine .onward (first.bind fun value t h => ?_)
  cases value with
  | some a => exact h.1 a rfl
  | none => exact h.2 rfl

theorem lifted (first : Ensures lapses (fun a t => Ensures lapses post (k a).run t) p w) :
    Ensures lapses post ((p : Attempt α) >>= k).run w :=
  .onward (first.bind fun _ _ h => h)

theorem ensure {condition} {k : Unit → Attempt α} {post} (yes : condition = true →
    Ensures lapses post (k ()).run w) (no : condition = false → post (.error ()) w) :
    Ensures lapses post (ensure condition >>= k).run w := by
  cases condition with
  | true => exact yes rfl
  | false => exact no rfl

end Ensures

/-! ## The journal -/

/-- Neither the record nor the DNS has changed. -/
structure World.Same (w t : World) : Prop where
  journal : t.journal = w.journal
  dns : t.dns = w.dns

theorem World.Same.refl (w : World) : w.Same w := ⟨rfl, rfl⟩

theorem World.Same.holds {transaction} (same : w.Same t) :
    t.holds codec transaction ↔ w.holds codec transaction := by
  rw [World.holds, World.holds, same.journal]

/-- What `load_record` says of the journal. -/
structure Loaded (codec : Codec) (lapses : Lapses) (w : World)
    (result : Except Unit (Option NetworkRecoveryRecord)) (t : World) : Prop where
  same : w.Same t
  missing : result = .ok none → w.journal = .absent
  found : ∀ record, result = .ok (some record) → w.journal = .record record ∧
    record.recordSchemaVersion = networkRecoveryRecordVersion ∧
    validManagedDnsState codec record.state = true
  -- a valid record that is there is read
  reads : lapses.read = false → ∀ transaction, w.holds codec transaction →
    ∃ record, result = .ok (some record) ∧ record.state = transaction

theorem loaded_refused (same : w.Same t) (refuses : w.refuses lapses) :
    Loaded codec lapses w (.error ()) t := by
  refine ⟨same, nofun, nofun, fun reads transaction held => ?_⟩
  obtain ⟨record, is, _⟩ := held
  rw [World.refuses, is] at refuses
  cases reads.symm.trans refuses

/-- A record that does not pass the checks is not one the journal holds. -/
theorem loaded_invalid (same : w.Same t) (is : w.journal = .record record)
    (invalid : ¬(record.recordSchemaVersion = networkRecoveryRecordVersion ∧
    validManagedDnsState codec record.state = true)) : Loaded codec lapses w (.error ()) t := by
  refine ⟨same, nofun, nofun, fun _ transaction held => ?_⟩
  obtain ⟨other, is', state, version, valid⟩ := held
  cases is.symm.trans is'
  exact absurd ⟨version, state ▸ valid⟩ invalid

variable {u : World} (service : ManagedNetworkService) (state : ManagedDnsState)
  {snapshot : NetworkOwnershipSnapshot}

theorem readRecord_spec (before : w.Same u) (present : u.journal ≠ .absent) :
    Ensures lapses (Loaded codec lapses w) (readRecord codec).run u := by
  refine .provides (.request fun value t served => ⟨fun record is => ?_, fun none => ?_⟩)
  · subst is
    obtain ⟨found, rfl⟩ := served
    have same : w.Same (u.sees 0 record.state) := ⟨before.journal, before.dns⟩
    have is : w.journal = .record record := before.journal.symm.trans found
    refine .ensure (fun version => .ensure (fun valid => ?_) fun invalid => ?_) fun other => ?_
    · refine ⟨same, nofun, ?_, ?_⟩
      · rintro _ ⟨⟩
        exact ⟨is, beq_iff_eq.1 version, valid⟩
      · intro _ transaction held
        obtain ⟨other, is', state, _⟩ := held
        cases is.symm.trans is'
        exact ⟨record, rfl, state⟩
    · exact loaded_invalid same is fun both => by simp [both.2] at invalid
    · exact loaded_invalid same is fun both => by simp [both.1] at other
  · subst none
    obtain ⟨absent | refuses, rfl⟩ := served
    · exact absurd absent present
    · refine loaded_refused before ?_
      rwa [World.refuses, ← before.journal]

theorem loadRecord_spec (w : World) :
    Ensures lapses (Loaded codec lapses w) (loadRecord codec).run w := by
  refine .succeeds (.request fun ok t served => ?_)
  obtain ⟨answer, rfl⟩ := served
  have same : w.Same (w.forget 0) := ⟨rfl, rfl⟩
  refine ⟨fun _ => ?_, fun no => ?_⟩
  · refine .lifted (.request fun found t served => ?_)
    obtain ⟨⟨rfl, absent⟩ | ⟨rfl, present⟩ | ⟨rfl, refuses⟩, rfl⟩ := served
    · refine ⟨same, fun _ => absent, nofun, fun _ transaction held => ?_⟩
      obtain ⟨record, is, _⟩ := held
      cases absent.symm.trans is
    · exact readRecord_spec same present
    · exact loaded_refused same refuses
  · rcases answer with yes | refuses
    · cases no.symm.trans yes
    · exact loaded_refused same refuses

/-- What `write_record` leaves. -/
structure Written (lapses : Lapses) (record : NetworkRecoveryRecord) (w : World)
    (result : Except Unit Unit) (t : World) : Prop where
  dns : t.dns = w.dns
  ok : result = .ok () → t.journal = .record record
  error : result = .error () → t.journal = w.journal ∨
    (lapses.rename = true ∨ lapses.sync = true) ∧ t.journal = .record record

theorem written_unchanged : Written lapses record w (.error ()) w :=
  ⟨rfl, nofun, fun _ => .inl rfl⟩

theorem syncDirectory_spec : Ensures lapses (fun result t => t = w ∧
    (result = .error () → lapses.sync = true)) (succeeds (ask .syncDirectory)).run w := by
  refine .bind (Ensures.request fun _ _ served => served) fun ok t served => ?_
  obtain ⟨answer, rfl⟩ := served
  cases ok with
  | true => exact ⟨rfl, nofun⟩
  | false => exact ⟨rfl, fun _ => answer.resolve_left nofun⟩

theorem publishRecord_spec (record : NetworkRecoveryRecord) (w : World) :
    Ensures lapses (Written lapses record w) (publishRecord record).run w := by
  -- nothing happens before the rename
  have step {r : Action Bool} {k : Unit → Attempt Unit}
      (quiet : Ensures lapses (fun _ t => t = w) r w)
      (later : Ensures lapses (Written lapses record w) (k ()).run w) :
      Ensures lapses (Written lapses record w) (succeeds r >>= k).run w := by
    refine .succeeds (quiet.mono fun ok t is => ?_)
    subst is
    exact ⟨fun _ => later, fun _ => written_unchanged⟩
  refine step (.request fun _ _ served => served.2) ?_
  refine step (.request fun _ _ served => served.2) ?_
  refine step (.request fun _ _ served => served.2) ?_
  refine step (.request fun _ _ served => served.2) ?_
  refine step (.request fun _ _ served => served.2) ?_
  refine .succeeds (.request fun ok t served => ?_)
  obtain ⟨rfl, rfl⟩ | ⟨rfl, _, rfl⟩ | ⟨rfl, late, rfl⟩ := served
  · refine ⟨fun _ => syncDirectory_spec.mono fun result t synced => ?_, nofun⟩
    obtain ⟨rfl, late⟩ := synced
    exact ⟨rfl, fun _ => rfl, fun error => .inr ⟨.inr (late error), rfl⟩⟩
  · exact ⟨nofun, fun _ => written_unchanged⟩
  · exact ⟨nofun, fun _ => ⟨rfl, nofun, fun _ => .inr ⟨.inl late, rfl⟩⟩⟩

theorem writeRecord_spec (w : World) :
    Ensures lapses (Written lapses record w) (writeRecord codec record).run w := by
  refine .ensure (fun _ => ?_) fun _ => written_unchanged
  refine (publishRecord_spec record w).bind fun result t written => ?_
  cases result with
  | ok => exact written
  | error =>
    refine .bind (Ensures.request fun _ u served => served) fun _ u served => ?_
    obtain rfl := served
    exact written

/-- What `persist` leaves. -/
structure Persisted (codec : Codec) (lapses : Lapses) (state : ManagedDnsState) (w : World)
    (result : Except Unit Unit) (t : World) : Prop where
  dns : t.dns = w.dns
  ok : result = .ok () → t.holds codec state
  error : result = .error () → t.journal = w.journal ∨
    (lapses.rename = true ∨ lapses.sync = true) ∧ t.holds codec state
  -- a record of the transaction that can be read is no failure
  again : result = .error () → lapses.read = false → ¬w.holds codec state

theorem persist_spec (w : World) :
    Ensures lapses (Persisted codec lapses state w) (persist codec state).run w := by
  refine .ensure (fun valid => ?_) fun invalid => ?_
  · refine (loadRecord_spec w).attempt (fun existing t loaded => ?_) fun t loaded => ?_
    · cases existing with
      | none =>
        have absent := loaded.missing rfl
        refine (writeRecord_spec t).mono fun result u written => ?_
        have held : u.journal = .record ⟨.prepared, networkRecoveryRecordVersion, state⟩ →
            u.holds codec state := fun is => ⟨_, is, rfl, rfl, valid⟩
        refine ⟨written.dns.trans loaded.same.dns, fun ok => held (written.ok ok), ?_, ?_⟩
        · intro error
          rcases written.error error with same | ⟨late, is⟩
          · exact .inl (same.trans loaded.same.journal)
          · exact .inr ⟨late, held is⟩
        · rintro _ _ ⟨record, is, _⟩
          cases absent.symm.trans is
      | some existing =>
        obtain ⟨is, version, valid'⟩ := loaded.found existing rfl
        change Persisted codec lapses state w (if existing.state == state then _ else _) t
        split
        · rename_i same
          refine ⟨loaded.same.dns, fun _ => ?_, nofun, nofun⟩
          exact ⟨existing, loaded.same.journal.trans is, beq_iff_eq.1 same, version, valid⟩
        · rename_i other
          refine ⟨loaded.same.dns, nofun, fun _ => .inl loaded.same.journal, ?_⟩
          rintro _ _ ⟨record, is', state', _⟩
          cases is.symm.trans is'
          exact other (beq_iff_eq.2 state')
    · refine ⟨loaded.same.dns, nofun, fun _ => .inl loaded.same.journal, fun _ reads held => ?_⟩
      obtain ⟨record, found, _⟩ := loaded.reads reads state held
      cases found
  · refine ⟨rfl, nofun, fun _ => .inl rfl, ?_⟩
    rintro _ _ ⟨_, _, _, _, valid⟩
    cases invalid.symm.trans valid

/-- The record of another transaction is in the way. -/
theorem persist_refused {state : ManagedDnsState}
    (is : w.journal = .record record) (other : record.state ≠ state) :
    Ensures lapses (fun result _ => result = .error ()) (persist codec state).run w := by
  refine .ensure (fun _ => ?_) fun _ => rfl
  refine (loadRecord_spec w).attempt (fun existing t loaded => ?_) fun _ _ => rfl
  cases existing with
  | none => cases (loaded.missing rfl).symm.trans is
  | some existing =>
    cases (loaded.found existing rfl).1.symm.trans is
    exact if_neg fun same => other (beq_iff_eq.1 same)

/-- What a removal leaves. -/
structure Cleared (lapses : Lapses) (w : World) (result : Except Unit Unit) (t : World) :
    Prop where
  dns : t.dns = w.dns
  ok : result = .ok () → t.journal = .absent
  error : result = .error () → t.journal = w.journal ∨ lapses.unlink = true ∨ lapses.sync = true

theorem remove_spec (w : World) : Ensures lapses (Cleared lapses w) (remove state).run w := by
  refine .succeeds (.request fun ok t served => ?_)
  obtain ⟨rfl, _, rfl⟩ | ⟨rfl, _, rfl⟩ | ⟨rfl, late, _, rfl⟩ := served
  · refine ⟨fun _ => syncDirectory_spec.mono fun result t synced => ?_, nofun⟩
    obtain ⟨rfl, late⟩ := synced
    exact ⟨rfl, fun _ => rfl, fun error => .inr (.inr (late error))⟩
  · exact ⟨nofun, fun _ => ⟨rfl, nofun, fun _ => .inl rfl⟩⟩
  · exact ⟨nofun, fun _ => ⟨rfl, nofun, fun _ => .inr (.inl late)⟩⟩

theorem Cleared.after {t result} (same : w.Same t)
    (h : Cleared lapses t result u) : Cleared lapses w result u :=
  ⟨h.dns.trans same.dns, h.ok, fun error => (h.error error).imp_left (·.trans same.journal)⟩

theorem cleared_refused (same : w.Same t) : Cleared lapses w (.error ()) t :=
  ⟨same.dns, nofun, fun _ => .inl same.journal⟩

theorem clear_spec (w : World) : Ensures lapses (Cleared lapses w) (clear codec state).run w := by
  refine (loadRecord_spec w).attempt (fun record t loaded => ?_) fun t loaded => ?_
  · refine .ensure (fun _ => ?_) fun _ => cleared_refused loaded.same
    exact (remove_spec state t).mono fun result u cleared => cleared.after loaded.same
  · exact cleared_refused loaded.same

theorem clearIfPresent_spec (w : World) :
    Ensures lapses (Cleared lapses w) (clearIfPresent codec state).run w := by
  refine (loadRecord_spec w).attempt (fun record t loaded => ?_) fun t loaded => ?_
  · cases record with
    | none =>
      exact ⟨loaded.same.dns, fun _ => loaded.same.journal.trans (loaded.missing rfl), nofun⟩
    | some current =>
      simp only [clearOver]
      split
      · exact (remove_spec state t).mono fun result u cleared => cleared.after loaded.same
      · exact cleared_refused loaded.same
  · exact cleared_refused loaded.same

theorem markApplied_spec (held : w.holds codec state) : Ensures lapses (fun _ t => t.dns = w.dns ∧
    t.holds codec state) (markApplied codec state).run w := by
  have kept {t : World} (same : w.Same t) : t.dns = w.dns ∧ t.holds codec state :=
    ⟨same.dns, same.holds.2 held⟩
  refine .ensure (fun valid => ?_) fun _ => kept (.refl w)
  refine (loadRecord_spec w).attempt (fun record t loaded => ?_) fun t loaded => kept loaded.same
  cases record with
  | none => exact kept loaded.same
  | some record =>
    simp only [markOver]
    split
    · split
      · exact kept loaded.same
      · refine (writeRecord_spec t).mono fun result u written => ?_
        refine ⟨written.dns.trans loaded.same.dns, ?_⟩
        have there : u.journal = .record ⟨.applied, networkRecoveryRecordVersion, state⟩ →
            u.holds codec state := fun is => ⟨_, is, rfl, rfl, valid⟩
        cases result with
        | ok => exact there (written.ok rfl)
        | error =>
          rcases written.error rfl with same | ⟨_, is⟩
          · have held' := loaded.same.holds.2 held
            rwa [World.holds, same]
          · exact there is
    · exact kept loaded.same

/-! ## The controller -/

/-- What a `compare_and_set` from `expected` to `replacement` may do to the DNS. -/
def Exchanged (service : String) (expected replacement : List IpAddr) (w t : World) : Prop :=
  t.dns = w.dns ∨ w.dns service = expected ∧ t.dns = Function.update w.dns service replacement

theorem Exchanged.refl {service expected replacement} (w : World) :
    Exchanged service expected replacement w w :=
  .inl rfl

theorem tried_same (w : World) (purpose : Purpose) : w.Same (w.tried purpose) := by
  cases purpose <;> exact ⟨rfl, rfl⟩

theorem compareAndSet_spec (expected replacement : List IpAddr) (purpose : Purpose) (w : World) :
    Ensures lapses (fun result t => t.journal = w.journal ∧
    Exchanged service.id expected replacement w t ∧
    (result = .error .unchanged → t.dns = w.dns))
    (ask (.compareAndSet service expected replacement purpose)) w := by
  refine .request fun result t served => ?_
  have tried := tried_same w purpose
  have wrote : (w.write service.id replacement purpose).journal = w.journal := by
    cases purpose <;> rfl
  obtain ⟨rfl, at_, rfl⟩ | ⟨rfl, rfl⟩ | ⟨rfl, rfl | ⟨at_, rfl⟩⟩ := served
  · exact ⟨wrote, .inr ⟨at_, rfl⟩, nofun⟩
  · exact ⟨tried.journal, .inl tried.dns, fun _ => tried.dns⟩
  · exact ⟨tried.journal, .inl tried.dns, nofun⟩
  · exact ⟨wrote, .inr ⟨at_, rfl⟩, nofun⟩

theorem observeDns_spec (w : World) :
    Ensures lapses (fun observed t => t = w ∧ ∀ servers, observed = some servers →
    w.dns service.id = servers) (ask (.observeDns service)) w := by
  refine .request fun observed t served => ⟨served.2, fun servers is => ?_⟩
  rcases served.1 with none | some
  · cases none.symm.trans is
  · exact Option.some.inj (some.symm.trans is)

theorem setDns_spec {expected replacement purpose} :
    Ensures lapses (fun result t => t.journal = w.journal ∧
    Exchanged service.id expected replacement w t ∧
    (result = .ok () → t.dns service.id = replacement) ∧
    (result = .error .unchanged → t.dns = w.dns))
    (setDns service expected replacement purpose).run w := by
  unfold setDns
  split
  · exact ⟨rfl, .refl w, nofun, fun _ => rfl⟩
  · refine Safe.attempt (compareAndSet_spec service expected replacement purpose w) ?_ ?_
    · rintro _ t ⟨journal, exchanged, _⟩
      refine Safe.bind (observeDns_spec service t) fun observed u h => ?_
      obtain ⟨rfl, observed_⟩ := h
      refine ⟨journal, exchanged, fun ok => ?_, fun error => ?_⟩
      · unfold readBack at ok
        split at ok
        · rename_i is
          exact observed_ _ is
        · cases ok
      · unfold readBack at error
        split at error <;> cases error
    · rintro failure t ⟨journal, exchanged, unchanged⟩
      exact ⟨journal, exchanged, nofun, fun is => unchanged is⟩

/-- What the first checks of `apply` leave. -/
theorem serviceIsSelected_spec (w : World) :
    Ensures lapses (fun _ t => t = w) (serviceIsSelected codec service).run w := by
  refine .provides (.request fun _ _ served => ⟨fun _ _ => ?_, fun _ => served⟩)
  obtain rfl := served
  refine .provides (.request fun _ _ served => ⟨fun _ _ => ?_, fun _ => served⟩)
  obtain rfl := served
  exact rfl

theorem untouched_spec {p} (quiet : Ensures lapses (fun _ t => t = w) p.run w) :
    Ensures lapses (fun result t => t = w ∧ (∀ failure, result = .error failure →
    failure = MutationFailure.unchanged)) (untouched p).run w := by
  refine Safe.bind quiet fun result t is => ⟨is, fun failure failed => ?_⟩
  cases result with
  | ok => cases failed
  | error =>
    cases failed
    rfl

theorem applyDns_spec (snapshot : NetworkOwnershipSnapshot) (system : TunSystemSnapshot)
    (w : World) : Ensures lapses (fun result t => t.journal = w.journal ∧
    Exchanged snapshot.dns.service.id snapshot.dns.priorServers managedServers w t ∧
    (result = .error .unchanged → t.dns = w.dns)) (applyDns codec snapshot system).run w := by
  refine Safe.attempt (untouched_spec (serviceIsSelected_spec snapshot.dns.service w)) ?_ ?_
  · rintro _ t ⟨rfl, _⟩
    refine Safe.attempt (untouched_spec (show Ensures lapses (fun _ u => u = t)
      (ensure (validatePreservedNetwork snapshot system)).run t from rfl)) ?_ ?_
    · rintro _ t ⟨rfl, _⟩
      exact (setDns_spec _).mono fun _ _ h => ⟨h.1, h.2.1, h.2.2.2⟩
    · rintro failure t ⟨rfl, _⟩
      exact ⟨rfl, .refl t, fun _ => rfl⟩
  · rintro failure t ⟨rfl, _⟩
    exact ⟨rfl, .refl t, fun _ => rfl⟩

theorem restoreDns_spec (w : World) : Ensures lapses (fun result t => t.journal = w.journal ∧
    Exchanged state.service.id managedServers state.priorServers w t ∧
    (result = .ok () → t.dns state.service.id = state.priorServers))
    (restoreDns codec state).run w := by
  refine .ensure (fun _ => ?_) fun _ => ⟨rfl, .refl w, nofun⟩
  refine .provides ((observeDns_spec state.service w).mono fun observed t h => ?_)
  obtain ⟨rfl, observed_⟩ := h
  refine ⟨fun servers is => ?_, fun _ => ⟨rfl, .refl t, nofun⟩⟩
  unfold restoreFrom
  split
  · rename_i prior
    exact ⟨rfl, .refl t, fun _ => (observed_ servers is).trans prior⟩
  · split
    · exact ⟨rfl, .refl t, nofun⟩
    · refine .lifted ((setDns_spec _).mono fun result u h => ?_)
      obtain ⟨journal, exchanged, set, _⟩ := h
      match result with
      | .ok () => exact ⟨journal, exchanged, fun _ => set rfl⟩
      | .error .mayHaveChanged => exact ⟨journal, exchanged, nofun⟩
      | .error .unchanged =>
        refine .provides ((observeDns_spec state.service u).mono fun observed v h => ?_)
        obtain ⟨rfl, observed_⟩ := h
        refine ⟨fun servers is => ?_, fun _ => ⟨journal, exchanged, nofun⟩⟩
        cases prior : servers == state.priorServers with
        | true => exact ⟨journal, exchanged, fun _ => (observed_ servers is).trans (beq_iff_eq.1 prior)⟩
        | false => exact ⟨journal, exchanged, nofun⟩

/-! ## The transactions -/

/-- A clean failure leaves neither the record nor, by its own doing, the managed address behind;
after a failure that requires recovery the record is there or the DNS as it was. -/
structure AsReported (codec : Codec) (state : ManagedDnsState) (w : World)
    (result : Except NetworkApplyFailure Unit) (t : World) : Prop where
  clean : result = .error .clean → ¬t.holds codec state ∧
    (t.dns state.service.id = managedServers → w.dns state.service.id = managedServers)
  recovery : result = .error .recoveryRequired →
    t.holds codec state ∨ t.dns state.service.id = state.priorServers

/-- No file operation fails once its effect is visible. -/
def Lapses.prompt (lapses : Lapses) : Prop :=
  lapses.rename = false ∧ lapses.sync = false ∧ lapses.unlink = false

theorem Cleared.kept (prompt : lapses.prompt) (cleared : Cleared lapses w (.error ()) t) :
    t.journal = w.journal := by
  obtain ⟨_, sync, unlink⟩ := prompt
  rcases cleared.error rfl with same | late | late
  · exact same
  · cases unlink.symm.trans late
  · cases sync.symm.trans late

theorem not_holds_absent {state} (absent : t.journal = .absent) : ¬t.holds codec state := by
  rintro ⟨record, is, _⟩
  cases absent.symm.trans is

theorem undoneBy_spec {mid post undo} (undone : Ensures lapses mid undo.run w)
    (clean : ∀ t, mid (.ok ()) t → post (.error .clean) t) (recovery : ∀ t, mid (.error ()) t →
    post (.error .recoveryRequired) t) : Ensures lapses post (undoneBy undo) w := by
  refine undone.bind fun result t h => ?_
  cases result with
  | ok => exact clean t h
  | error => exact recovery t h

/-- The DNS is the managed one only where it was before the write or the restore. -/
theorem Exchanged.managed {service prior v} (applied : Exchanged service prior managedServers w u)
    (restored : Exchanged service managedServers prior u v) (back : v.dns service = prior)
    (managed : v.dns service = managedServers) : w.dns service = managedServers := by
  have same : prior = managedServers := back.symm.trans managed
  have before : u.dns service = managedServers := by
    rcases restored with is | ⟨is, _⟩
    · rw [← is, managed]
    · exact is
  rcases applied with is | ⟨is, _⟩
  · rw [← is, before]
  · exact is.trans same

/-- After the DNS may have been written, it is put back and the record removed. -/
theorem undo_spec {removal} (held : u.holds codec snapshot.dns)
    (applied : Exchanged snapshot.dns.service.id snapshot.dns.priorServers managedServers w u)
    (removes : ∀ v, Ensures lapses (Cleared lapses v) removal.run v) :
    Ensures lapses (AsReported codec snapshot.dns w)
      (undoneBy (do restoreDns codec snapshot.dns; removal)) u := by
  have undone : Ensures lapses (fun result t =>
      (result = .ok () → t.journal = .absent ∧ (t.dns snapshot.dns.service.id = managedServers →
        w.dns snapshot.dns.service.id = managedServers)) ∧
      (result = .error () → t.holds codec snapshot.dns ∨
        t.dns snapshot.dns.service.id = snapshot.dns.priorServers))
      (do restoreDns codec snapshot.dns; removal).run u := by
    refine (restoreDns_spec snapshot.dns u).attempt (fun _ v h => ?_) fun v h => ?_
    · obtain ⟨_, restored, back⟩ := h
      refine (removes v).mono fun result t cleared => ⟨fun ok => ⟨cleared.ok ok, ?_⟩, fun _ => ?_⟩
      · rw [cleared.dns]
        exact applied.managed restored (back rfl)
      · rw [cleared.dns]
        exact .inr (back rfl)
    · refine ⟨nofun, fun _ => .inl ?_⟩
      have same := h.1
      rwa [World.holds, same]
  refine undoneBy_spec undone (fun t h => ?_) fun t h => ?_
  · obtain ⟨absent, managed⟩ := h.1 rfl
    exact ⟨fun _ => ⟨not_holds_absent absent, managed⟩, nofun⟩
  · exact ⟨nofun, fun _ => h.2 rfl⟩

theorem afterApply_spec {result} (prompt : lapses.prompt) (held : u.holds codec snapshot.dns)
    (applied : Exchanged snapshot.dns.service.id snapshot.dns.priorServers managedServers w u)
    (unchanged : result = .error .unchanged → u.dns = w.dns) :
    Ensures lapses (AsReported codec snapshot.dns w) (afterApply codec snapshot result) u := by
  match result with
  | .ok () =>
    refine (markApplied_spec snapshot.dns held).bind fun marked t h => ?_
    obtain ⟨dns, held'⟩ := h
    cases marked with
    | ok => exact ⟨nofun, nofun⟩
    | error =>
      refine undo_spec held' ?_ (clearIfPresent_spec snapshot.dns)
      rw [Exchanged, dns]
      exact applied
  | .error .unchanged =>
    refine undoneBy_spec (clear_spec snapshot.dns u) (fun t cleared => ?_) fun t cleared => ?_
    · refine ⟨fun _ => ⟨not_holds_absent (cleared.ok rfl), ?_⟩, nofun⟩
      rw [cleared.dns, unchanged rfl]
      exact id
    · refine ⟨nofun, fun _ => .inl ?_⟩
      rwa [World.holds, cleared.kept prompt]
  | .error .mayHaveChanged => exact undo_spec held applied (clear_spec snapshot.dns)

/-- With nothing failing late, and a record of the transaction either not there or readable, the
failures are what they say. -/
theorem applyNetworkTransaction_spec (system : TunSystemSnapshot) (prompt : lapses.prompt)
    (fresh : lapses.read = false ∨ ¬w.holds codec snapshot.dns) :
    Ensures lapses (AsReported codec snapshot.dns w)
    (applyNetworkTransaction codec snapshot system) w := by
  refine (persist_spec snapshot.dns w).bind fun result t persisted => ?_
  cases result with
  | error =>
    have same : t.journal = w.journal := by
      rcases persisted.error rfl with same | ⟨late | late, _⟩
      · exact same
      · cases prompt.1.symm.trans late
      · cases prompt.2.1.symm.trans late
    refine ⟨fun _ => ⟨fun held => ?_, ?_⟩, nofun⟩
    · rw [World.holds, same] at held
      rcases fresh with reads | none
      · exact persisted.again rfl reads held
      · exact none held
    · rw [persisted.dns]
      exact id
  | ok =>
    have held := persisted.ok rfl
    refine (applyDns_spec snapshot system t).bind fun result u h => ?_
    obtain ⟨journal, applied, unchanged⟩ := h
    refine afterApply_spec prompt ?_ ?_ fun is => (unchanged is).trans persisted.dns
    · rwa [World.holds, journal]
    · rwa [Exchanged, ← persisted.dns]

theorem restoreNetworkTransaction_spec (w : World) :
    Ensures lapses (fun result t => result = .ok () → t.journal = .absent)
    (restoreNetworkTransaction codec state).run w := by
  refine (loadRecord_spec w).attempt (fun recorded t loaded => ?_) fun _ _ => nofun
  cases recorded with
  | none =>
    have absent : t.journal = .absent := loaded.same.journal.trans (loaded.missing rfl)
    have observes : Ensures lapses (fun _ u => u = t) (observeRecovery codec state).run t := by
      refine .provides (.request fun _ u served => ⟨fun services _ => ?_, fun _ => served⟩)
      obtain rfl := served
      unfold observeExact
      split
      · have observed : Ensures lapses (fun _ v => v = u)
            (provides (ask (.observeDns state.service))).run u :=
          (observeDns_spec state.service u).bind fun _ _ h => h.1
        refine observed.bind fun result v is => ?_
        cases result <;> exact is
      · exact rfl
    refine observes.attempt (fun _ u is => ?_) fun _ _ => nofun
    exact fun _ => is ▸ absent
  | some recorded =>
    simp only [restoreOver]
    split
    · refine (restoreDns_spec state t).attempt (fun _ u _ => ?_) fun _ _ => nofun
      exact (clearIfPresent_spec state u).mono fun _ _ cleared => cleared.ok
    · exact nofun

/-- Nothing fails. -/
def faultless : Lapses := ⟨false, false, false, false, false⟩

theorem persist_faultless {state : ManagedDnsState}
    (valid : validManagedDnsState codec state = true)
    (fits : codec.fits ⟨.prepared, networkRecoveryRecordVersion, state⟩ = true)
    (absent : w.journal = .absent) :
    Ensures faultless (fun result _ => result = .ok ()) (persist codec state).run w := by
  have step {r : Action Bool} {k : Unit → Attempt Unit} {u : World}
      (works : Ensures faultless (fun ok _ => ok = true) r u)
      (later : ∀ v, Ensures faultless (fun result _ => result = .ok ()) (k ()).run v) :
      Ensures faultless (fun result _ => result = .ok ()) (succeeds r >>= k).run u :=
    .succeeds (works.mono fun ok v is => ⟨fun _ => later v, fun no => absurd (is.symm.trans no) nofun⟩)
  have works {a : Bool} {p : Prop} (answer : a = true ∨ false = true) (_ : p) : a = true :=
    answer.resolve_right nofun
  have publishes (u : World) : Ensures faultless (fun result _ => result = .ok ())
      (publishRecord ⟨.prepared, networkRecoveryRecordVersion, state⟩).run u := by
    refine step (.request fun _ _ served => works served.1 served.2) fun u => ?_
    refine step (.request fun _ _ served => works served.1 served.2) fun u => ?_
    refine step (.request fun _ _ served => works served.1 served.2) fun u => ?_
    refine step (.request fun _ _ served => works served.1 served.2) fun u => ?_
    refine step (.request fun _ _ served => works served.1 served.2) fun u => ?_
    refine step (.request fun ok v served => ?_) fun u => ?_
    · rcases served with ⟨is, _⟩ | ⟨_, late, _⟩ | ⟨_, late, _⟩
      · exact is
      · cases late
      · cases late
    · refine Safe.bind (Ensures.request fun ok v served => works served.1 served.2) fun ok v is => ?_
      subst is
      exact rfl
  refine .ensure (fun _ => ?_) fun no => absurd (no.symm.trans valid) nofun
  have loads : Ensures faultless (fun result _ => result = .ok none) (loadRecord codec).run w := by
    refine .succeeds (.request fun ok t served => ?_)
    obtain ⟨answer, rfl⟩ := served
    have allowed : ¬w.refuses faultless := by
      rw [World.refuses, absent]
      exact nofun
    refine ⟨fun _ => ?_, fun no => ?_⟩
    · refine .lifted (.request fun found t served => ?_)
      obtain ⟨⟨rfl, _⟩ | ⟨rfl, present⟩ | ⟨rfl, refuses⟩, rfl⟩ := served
      · exact rfl
      · exact absurd absent present
      · exact absurd refuses allowed
    · rcases answer with yes | refuses
      · cases no.symm.trans yes
      · exact absurd refuses allowed
  refine loads.attempt (fun existing t is => ?_) nofun
  cases is
  refine .ensure (fun _ => ?_) fun no => absurd (no.symm.trans fits) nofun
  refine (publishes t).bind fun result u is => ?_
  subst is
  exact rfl

end

/-! ## The calls that fail late -/

inductive Fault where
  | rename | sync | unlink | read
  deriving DecidableEq

def Lapses.allows (lapses : Lapses) : Fault → Bool
  | .rename => lapses.rename
  | .sync => lapses.sync
  | .unlink => lapses.unlink
  | .read => lapses.read

/-- Every call succeeds but the faulty one; the service is not the selected one. -/
def answer (fault : Fault) (w : World) : (r : Request) → Reply r × World
  | .parentMetadata => (fault ≠ .read || w.journal = .absent, w.forget 0)
  | .recordMetadata => (if w.journal = .absent then .missing else .usable, w)
  | .readRecord =>
    match w.journal with
    | .record record => (some record, w.sees 0 record.state)
    | _ => (none, w)
  | .createTemporary | .writeTemporary | .endTemporary | .syncTemporary | .temporaryMetadata
  | .removeTemporary => (true, w)
  | .rename record => (fault ≠ .rename, w.publish record)
  | .syncDirectory => (fault ≠ .sync, w)
  | .removeRecord transaction =>
    if w.journal = .absent then (false, w) else (fault ≠ .unlink, w.erase transaction)
  | .defaultRouteInterface => (none, w)
  | .inventory => (none, w)
  | .observeDns service => (some (w.dns service.id), w)
  | .compareAndSet _ _ _ purpose => (.error .unchanged, w.tried purpose)
  | .sleep => ((), w.forget 0)
  | .writeDns service servers => ((), w.writeForeign service servers)

theorem serves_answer {lapses fault} (allowed : lapses.allows fault = true)
    (w : World) (r : Request) : serves lapses 0 w r (answer fault w r).1 (answer fault w r).2 := by
  cases r with
  | parentMetadata =>
    refine ⟨?_, rfl⟩
    cases fault with
    | read =>
      cases journal : w.journal with
      | absent => exact .inl (by simp [answer, journal])
      | foreign => exact .inr (by simp [World.refuses, journal])
      | record => exact .inr (by simpa [World.refuses, journal, Lapses.allows] using allowed)
    | _ => exact .inl rfl
  | recordMetadata =>
    refine ⟨?_, rfl⟩
    by_cases absent : w.journal = .absent
    · exact .inl ⟨if_pos absent, absent⟩
    · exact .inr (.inl ⟨if_neg absent, absent⟩)
  | readRecord => cases journal : w.journal <;> simp [serves, answer, journal, World.refuses]
  | createTemporary | writeTemporary | endTemporary | syncTemporary | temporaryMetadata =>
    exact ⟨.inl rfl, rfl⟩
  | rename =>
    cases fault with
    | rename => exact .inr (.inr ⟨rfl, allowed, rfl⟩)
    | _ => exact .inl ⟨rfl, rfl⟩
  | syncDirectory =>
    cases fault with
    | sync => exact ⟨.inr allowed, rfl⟩
    | _ => exact ⟨.inl rfl, rfl⟩
  | removeRecord transaction =>
    by_cases absent : w.journal = .absent
    · simp only [serves, answer, absent, if_true]
      exact .inr (.inl ⟨trivial, .inr trivial, trivial⟩)
    · simp only [serves, answer, absent, if_false]
      cases fault with
      | unlink => exact .inr (.inr ⟨rfl, allowed, absent, trivial⟩)
      | _ => exact .inl ⟨rfl, absent, trivial⟩
  | observeDns => exact ⟨.inr rfl, rfl⟩
  | compareAndSet => exact .inr (.inl ⟨rfl, rfl⟩)
  | removeTemporary | defaultRouteInterface | inventory | sleep | writeDns => exact rfl

def sampleCodec : Codec := ⟨some, fun _ => true⟩

def sampleState (transactionId : String) : ManagedDnsState :=
  ⟨[.v4 0x08080808#32], managedNetworkStateVersion, ⟨"service", "en0", .wifi, "Wi-Fi"⟩, transactionId⟩

def sampleSnapshot (transactionId : String) : NetworkOwnershipSnapshot :=
  ⟨["192.0.2.1"], [], [], sampleState transactionId⟩

def sampleSystem : TunSystemSnapshot := ⟨[], [⟨["192.0.2.1"], "en0"⟩], []⟩

/-- A world in which the DNS of every service is another program's. -/
def sampleWorld (journal : Journal) : World :=
  ⟨journal, fun _ => [], fun _ => none, [], fun _ => none, []⟩

/-- The record of the sample transaction. -/
def sampleRecord (transactionId : String) : NetworkRecoveryRecord :=
  ⟨.prepared, networkRecoveryRecordVersion, sampleState transactionId⟩

/-- The journal the faulty call finds. -/
def Fault.start : Fault → Journal
  | .read => .record (sampleRecord "t")
  | _ => .absent

def faultyRun (fault : Fault) : Except NetworkApplyFailure Unit × World :=
  (applyNetworkTransaction sampleCodec (sampleSnapshot "t") sampleSystem).run (answer fault)
    (sampleWorld fault.start)

theorem exec_faultyRun {lapses fault} (allowed : lapses.allows fault = true) :
    Exec (serves lapses 0) (applyNetworkTransaction sampleCodec (sampleSnapshot "t") sampleSystem)
    (sampleWorld fault.start) (.done (faultyRun fault).1) (faultyRun fault).2 :=
  exec_run (serves_answer allowed) _ _

/-- The failure is called clean and the record is there, or recovery is required without a record
and with the DNS of another program. -/
theorem faultyRun_misreported (fault : Fault) :
    ¬AsReported sampleCodec (sampleState "t") (sampleWorld fault.start) (faultyRun fault).1
    (faultyRun fault).2 := by
  intro reported
  have held {fault : Fault} (is : (faultyRun fault).2.journal = .record (sampleRecord "t")) :
      (faultyRun fault).2.holds sampleCodec (sampleState "t") :=
    ⟨_, is, rfl, rfl, by decide⟩
  cases fault with
  | rename | sync | read =>
    exact (reported.clean (by decide)).1 (held (by decide))
  | unlink =>
    rcases reported.recovery (by decide) with there | prior
    · exact not_holds_absent (by decide) there
    · exact absurd prior (by decide)

/-- Whatever is found on disk and in the DNS settings, and however the calls turn out within the
lapses: the failures of `apply_network_transaction` are what they say exactly when no file
operation fails once its effect is visible, and a record of the transaction that is there at the
start, if one may be, can be read. A restore that succeeds leaves no record, so that a new
transaction is not refused. -/
theorem clean_failures_iff (lapses : Lapses) (stale : Bool) :
    ((∀ codec snapshot system w result t, (stale = true ∨ ¬World.holds codec w snapshot.dns) →
      Exec (serves lapses 0) (applyNetworkTransaction codec snapshot system) w (.done result) t →
      AsReported codec snapshot.dns w result t) ↔
        lapses.rename = false ∧ lapses.sync = false ∧ lapses.unlink = false ∧
          (lapses.read = false ∨ stale = false)) ∧
    ∀ codec state w t,
      Exec (serves lapses 0) (restoreNetworkTransaction codec state).run w (.done (.ok ())) t →
      ∀ next result u, validManagedDnsState codec next = true →
        codec.fits ⟨.prepared, networkRecoveryRecordVersion, next⟩ = true →
        Exec (serves faultless 0) (persist codec next).run t (.done result) u →
        result = .ok () := by
  refine ⟨⟨fun reported => ?_, ?_⟩, ?_⟩
  · -- each fault has its run
    have never (fault : Fault) (start : stale = true ∨
        ¬World.holds sampleCodec (sampleWorld fault.start) (sampleState "t")) :
        lapses.allows fault = false := by
      cases allowed : lapses.allows fault with
      | false => rfl
      | true =>
        exact absurd (reported _ (sampleSnapshot "t") _ _ _ _ start (exec_faultyRun allowed))
          (faultyRun_misreported fault)
    have empty : ¬World.holds sampleCodec (sampleWorld .absent) (sampleState "t") :=
      not_holds_absent rfl
    refine ⟨never .rename (.inr empty), never .sync (.inr empty), never .unlink (.inr empty), ?_⟩
    cases stale with
    | false => exact .inr rfl
    | true => exact .inl (never .read (.inl rfl))
  · rintro ⟨rename, sync, unlink, reads⟩ codec snapshot system w result t start exec
    have fresh : lapses.read = false ∨ ¬w.holds codec snapshot.dns := by
      rcases reads with reads | notStale
      · exact .inl reads
      · exact start.elim (fun stale => absurd (notStale.symm.trans stale) nofun) .inr
    exact (applyNetworkTransaction_spec system ⟨rename, sync, unlink⟩ fresh).result exec
  · intro codec state w t restores next result u valid fits persists
    have absent := (restoreNetworkTransaction_spec state w).result restores rfl
    exact (persist_faultless valid fits absent).result persists

/-- The record is renamed into place, the directory cannot be synchronised, and the failure is
called clean: the record stays, and every later transaction is refused. -/
theorem clean_failure_leaves_record : Exec (serves ⟨false, false, true, false, false⟩ 0)
      (applyNetworkTransaction sampleCodec (sampleSnapshot "t") sampleSystem)
      (sampleWorld .absent) (.done (.error .clean)) (faultyRun .sync).2 ∧
    (faultyRun .sync).2.holds sampleCodec (sampleState "t") ∧
    ∀ lapses result u, Exec (serves lapses 0) (persist sampleCodec (sampleState "u")).run
      (faultyRun .sync).2 (.done result) u → result = .error () := by
  have there : (faultyRun .sync).2.journal = .record (sampleRecord "t") := by decide
  refine ⟨?_, ⟨_, there, rfl, rfl, by decide⟩, fun lapses result u persists => ?_⟩
  · have exec := exec_faultyRun (show Lapses.allows ⟨false, false, true, false, false⟩ .sync = true
      from rfl)
    have clean : (faultyRun .sync).1 = .error .clean := by decide
    rwa [clean] at exec
  · exact (persist_refused there (by decide)).result persists

end Mish.TunService
