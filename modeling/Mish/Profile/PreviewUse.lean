import Mish.Profile.Preview

/-!
# Previews are used once and never stale

At most one report is pending, that of the preflight that began last. The invariant `Valid`
ties it to what has happened; what thread `i` has done itself only thread `i` can add to
(`Elsewhere`), and what it holds nobody else changes.
-/

namespace Mish.Profile.Preview
open Interaction List

variable {Bytes : Type} {event : Event Bytes} {s t : State Bytes} {i : Nat}
  {pending : PendingPreflights Bytes} {generation : Generation} {id : String}
  {entry : PendingPreflight Bytes} {request : Request Bytes} {reply : Reply request} {n : Nat}

/-! ## What has happened -/

/-- The preflights that have begun, the latest first: thread, request sequence, generation. -/
def begun (log : List (Event Bytes)) : List (Nat × Nat × Generation) :=
  log.filterMap fun
    | .began thread sequence generation => some (thread, sequence, generation)
    | _ => none

def IsTaken (id : String) : Event Bytes → Prop
  | .taken _ taken _ _ => taken = id
  | _ => False

/-- The token was issued with this report by the preflight that began last, it has not been
taken, and the repository is still at the generation that preflight started from. -/
def Deserved (log : List (Event Bytes)) (id : String) (report : PreflightReport Bytes)
    (current : Except RepositoryError Generation) : Prop :=
  ∃ thread sequence generation, (begun log).head? = some (thread, sequence, generation) ∧
    Event.ran thread report ∈ log ∧ Event.issued thread id report ∈ log ∧
    current = .ok generation ∧ ∀ event ∈ log, ¬ IsTaken id event

/-- The last thing the thread has done is to take this report. -/
def HasTaken (thread : Nat) (id : String) (report : PreflightReport Bytes)
    (log : List (Event Bytes)) : Prop :=
  ∃ since current before, log = since ++ .taken thread id report current :: before ∧
    ∀ event ∈ since, event.thread ≠ thread

/-- A report is taken when that is deserved, and saved by the thread that took it. -/
def Event.Allowed (log : List (Event Bytes)) : Event Bytes → Prop
  | .taken _ id report current => Deserved log id report current
  | .saved thread id report => HasTaken thread id report log
  | _ => True

/-- Whatever has happened was allowed at the time. -/
def Lawful (log : List (Event Bytes)) : Prop :=
  ∀ later event earlier, log = later ++ event :: earlier → event.Allowed earlier

theorem lawful_cons {log} (lawful : Lawful log) (allowed : event.Allowed log) :
    Lawful (event :: log) := by
  intro later event earlier split
  cases later with
  | nil =>
    cases split
    exact allowed
  | cons first later =>
    cases split
    exact lawful later _ _ rfl

/-- A pending report, with the thread that issued it. -/
structure Stands (s : State Bytes) (id : String) (entry : PendingPreflight Bytes) (thread : Nat) :
    Prop where
  latest : (begun s.log).head? = some (thread, entry.requestSequence, entry.generation)
  ran : .ran thread entry.report ∈ s.log
  issued : .issued thread id entry.report ∈ s.log
  untaken : ∀ event ∈ s.log, ¬ IsTaken id event

structure Valid (s : State Bytes) : Prop where
  lawful : Lawful s.log
  single : s.pending.reports.length ≤ 1
  stands : ∀ id entry, (id, entry) ∈ s.pending.reports → ∃ thread, Stands s id entry thread
  active : s.pending.activeRequest = (begun s.log).head?.map fun request => request.2.1
  ordered : (begun s.log).Pairwise fun later earlier => earlier.2.1 < later.2.1
  counted : ∀ request ∈ begun s.log, request.2.1 ≤ s.pending.nextRequestSequence
  owned : ∀ thread id report, .issued thread id report ∈ s.log → (thread, id) ∈ s.drawn
  distinct : (s.drawn.map Prod.snd).Nodup
  takenIssued : ∀ event ∈ s.log, ∀ id, IsTaken id event →
    ∃ thread report, .issued thread id report ∈ s.log

/-- Between two states others have acted, not thread `i`. -/
structure Elsewhere (i : Nat) (s t : State Bytes) : Prop where
  held : s.holder = some i → t.holder = some i ∧ t.pending = s.pending
  permitted : s.permit = some i → t.permit = some i ∧ t.generation = s.generation
  log : ∃ new, t.log = new ++ s.log ∧ ∀ event ∈ new, event.thread ≠ i
  drawn : ∀ entry ∈ s.drawn, entry ∈ t.drawn

theorem no_events (log : List (Event Bytes)) :
    ∃ new, log = new ++ log ∧ ∀ event ∈ new, event.thread ≠ i :=
  ⟨[], rfl, fun _ mem => absurd mem not_mem_nil⟩

theorem Elsewhere.refl (i : Nat) (s : State Bytes) : Elsewhere i s s :=
  ⟨fun h => ⟨h, rfl⟩, fun h => ⟨h, rfl⟩, no_events _, fun _ h => h⟩

theorem Elsewhere.trans {i} {s t u : State Bytes} (first : Elsewhere i s t)
    (second : Elsewhere i t u) : Elsewhere i s u := by
  refine ⟨fun h => ?_, fun h => ?_, ?_, fun entry h => second.drawn entry (first.drawn entry h)⟩
  · obtain ⟨held, same⟩ := first.held h
    exact ⟨(second.held held).1, (second.held held).2.trans same⟩
  · obtain ⟨held, same⟩ := first.permitted h
    exact ⟨(second.permitted held).1, (second.permitted held).2.trans same⟩
  · obtain ⟨new, is, others⟩ := first.log
    obtain ⟨newer, is', others'⟩ := second.log
    refine ⟨newer ++ new, by rw [is', is, append_assoc], ?_⟩
    intro event mem
    exact (mem_append.1 mem).elim (others' event) (others event)

/-- The mutex is put back only so that the state stays valid, and the repository is edited only
with the permit. -/
def discipline : Discipline (Request Bytes) (State Bytes) where
  inv := fun n s => Valid s ∧ ∀ event ∈ s.log, event.thread < n
  rely := Elsewhere
  allowed := fun i s request => match request with
    | .unlock pending mark => s.holder = some i ∧ Valid (s.unlock i pending mark)
    | .save id report => HasTaken i id report s.log
    | _ => True

/-! ## What a thread puts back -/

/-- Some reports have been dropped. -/
structure Trimmed (old new : PendingPreflights Bytes) : Prop where
  active : new.activeRequest = old.activeRequest
  next : new.nextRequestSequence = old.nextRequestSequence
  reports : new.reports.Sublist old.reports

theorem trimmed_removeExpired (pending : PendingPreflights Bytes) (now : Nat) :
    Trimmed pending (pending.removeExpired now) :=
  ⟨rfl, rfl, filter_sublist⟩

theorem Trimmed.remove {old new : PendingPreflights Bytes} (trimmed : Trimmed old new)
    (id : String) : Trimmed old (new.remove id) :=
  ⟨trimmed.active, trimmed.next, filter_sublist.trans trimmed.reports⟩

/-- What has happened besides keeps every taken token an issued one. -/
theorem Valid.takenIssued_cons (valid : Valid s) (new : ∀ id, IsTaken id event →
    ∃ thread report, .issued thread id report ∈ s.log) {taken}
    (mem : taken ∈ event :: s.log) (id : String) (takes : IsTaken id taken) :
    ∃ thread report, .issued thread id report ∈ event :: s.log := by
  have before : ∃ thread report, .issued thread id report ∈ s.log := by
    rcases mem_cons.1 mem with rfl | mem
    · exact new id takes
    · exact valid.takenIssued taken mem id takes
  obtain ⟨thread, report, issued⟩ := before
  exact ⟨thread, report, mem_cons_of_mem _ issued⟩

theorem Valid.trimmed (valid : Valid s)
    (trimmed : Trimmed s.pending pending) : Valid (s.unlock i pending .nothing) := by
  refine ⟨valid.lawful, ?_, fun id entry mem => ?_, trimmed.active.trans valid.active,
    valid.ordered, fun request mem => ?_, valid.owned, valid.distinct, valid.takenIssued⟩
  · exact trimmed.reports.length_le.trans valid.single
  · obtain ⟨thread, stands⟩ := valid.stands id entry (trimmed.reports.subset mem)
    exact ⟨thread, stands.latest, stands.ran, stands.issued, stands.untaken⟩
  · exact trimmed.next.symm ▸ valid.counted request mem

/-- A new preflight gets a new number, and the reports of the others are dropped. -/
theorem Valid.began (valid : Valid s) (generation : Generation) :
    Valid (s.unlock i ⟨some (s.pending.nextRequestSequence + 1),
    s.pending.nextRequestSequence + 1, []⟩
    (.began (s.pending.nextRequestSequence + 1) generation)) := by
  refine ⟨lawful_cons valid.lawful trivial, Nat.zero_le _, nofun, rfl, ?_, ?_, ?_, valid.distinct,
    fun _ => valid.takenIssued_cons fun _ => False.elim⟩
  · exact pairwise_cons.2 ⟨fun request mem => Nat.lt_succ_of_le (valid.counted request mem),
      valid.ordered⟩
  · intro request mem
    rcases mem_cons.1 mem with rfl | mem
    · exact Nat.le_refl _
    · exact Nat.le_succ_of_le (valid.counted request mem)
  · intro thread id report mem
    exact valid.owned thread id report ((mem_cons.1 mem).resolve_left nofun)

/-- Of the preflights that have begun, the one with the active number is the last. -/
theorem Valid.latest {sequence} (valid : Valid s) (mem : (i, sequence, generation) ∈ begun s.log)
    (active : s.pending.activeRequest = some sequence) :
    (begun s.log).head? = some (i, sequence, generation) := by
  rw [valid.active] at active
  have ordered := valid.ordered
  cases log : begun s.log with
  | nil => rw [log] at mem; cases mem
  | cons first rest =>
    rw [log] at mem active ordered
    rcases mem_cons.1 mem with rfl | mem
    · rfl
    · have before := (pairwise_cons.1 ordered).1 _ mem
      have same : first.2.1 = sequence := by simpa using active
      simp [same] at before

/-- Nobody has issued the token of a thread that has issued none. -/
theorem Valid.unissued (valid : Valid s) (drawn : (i, id) ∈ s.drawn)
    (none_ : ∀ id report, .issued i id report ∉ s.log) :
    ∀ thread report, .issued thread id report ∉ s.log := by
  intro thread report mem
  have owned := valid.owned thread id report mem
  have same := inj_on_of_nodup_map valid.distinct owned drawn rfl
  cases same
  exact none_ id report mem

theorem Valid.issued (valid : Valid s) (trimmed : Trimmed s.pending pending)
    (begun_ : (i, entry.requestSequence, entry.generation) ∈ begun s.log)
    (active : pending.activeRequest = some entry.requestSequence)
    (ran : .ran i entry.report ∈ s.log) (drawn : (i, id) ∈ s.drawn)
    (none_ : ∀ id report, .issued i id report ∉ s.log) :
    Valid (s.unlock i { pending with reports := Assoc.insert id entry pending.reports }
    (.issued id entry.report)) := by
  have latest := valid.latest begun_ (trimmed.active ▸ active)
  have empty : pending.reports = [] := by
    cases reports : pending.reports with
    | nil => rfl
    | cons first rest =>
      -- a report that is pending would be this thread's own
      have mem : first ∈ s.pending.reports := trimmed.reports.subset (by rw [reports]; simp)
      obtain ⟨thread, stands⟩ := valid.stands first.1 first.2 mem
      have same := Option.some.inj (stands.latest.symm.trans latest)
      obtain rfl : thread = i := congrArg Prod.fst same
      exact absurd stands.issued (none_ _ _)
  have unissued := valid.unissued drawn none_
  refine ⟨lawful_cons valid.lawful trivial, ?_, ?_, trimmed.active.trans valid.active,
    valid.ordered, fun request mem => trimmed.next.symm ▸ valid.counted request mem, ?_,
    valid.distinct, fun _ => valid.takenIssued_cons fun _ => False.elim⟩
  · simp [State.unlock, empty, Assoc.insert]
  · intro other found mem
    have is : other = id ∧ found = entry := by
      simpa [State.unlock, empty, Assoc.insert] using mem
    obtain ⟨rfl, rfl⟩ := is
    refine ⟨i, latest, mem_cons_of_mem _ ran, mem_cons_self .., ?_⟩
    intro event mem taken
    rcases mem_cons.1 mem with rfl | mem
    · cases taken
    · obtain ⟨thread, report, issued⟩ := valid.takenIssued event mem _ taken
      exact unissued thread report issued
  · intro thread other report mem
    rcases mem_cons.1 mem with same | mem
    · cases same
      exact drawn
    · exact valid.owned thread other report mem

theorem Valid.taken (valid : Valid s) (trimmed : Trimmed s.pending pending)
    (mem : (id, entry) ∈ pending.reports) (current : s.generation = .ok entry.generation) :
    Valid (s.unlock i (pending.remove id) (.taken id entry.report)) := by
  obtain ⟨thread, stands⟩ := valid.stands id entry (trimmed.reports.subset mem)
  refine ⟨lawful_cons valid.lawful ?_, ?_, ?_, trimmed.active.trans valid.active,
    valid.ordered, fun request mem => trimmed.next.symm ▸ valid.counted request mem, ?_,
    valid.distinct, ?_⟩
  · exact ⟨thread, _, _, stands.latest, stands.ran, stands.issued, current, stands.untaken⟩
  · exact (trimmed.remove id).reports.length_le.trans valid.single
  · have empty : (pending.remove id).reports = [] := by
      have one : pending.reports.length ≤ 1 := trimmed.reports.length_le.trans valid.single
      obtain ⟨only, is⟩ := length_eq_one_iff.1 (le_antisymm one (length_pos_of_mem mem))
      rw [is, mem_singleton] at mem
      simp [PendingPreflights.remove, Assoc.remove, is, ← mem]
    intro other found mem'
    rw [show (s.unlock i (pending.remove id) _).pending.reports = [] from empty] at mem'
    cases mem'
  · intro thread other report mem
    exact valid.owned thread other report ((mem_cons.1 mem).resolve_left (by simp))
  · refine fun _ => valid.takenIssued_cons ?_
    rintro _ rfl
    exact ⟨thread, _, stands.issued⟩

/-! ## Steps -/

theorem Valid.congr (valid : Valid s) (pending : t.pending = s.pending) (log : t.log = s.log)
    (drawn : ∀ entry ∈ s.drawn, entry ∈ t.drawn) (distinct : (t.drawn.map Prod.snd).Nodup) :
    Valid t := by
  refine ⟨log ▸ valid.lawful, pending ▸ valid.single, fun id entry mem => ?_, ?_,
    log ▸ valid.ordered, ?_, ?_, distinct, log ▸ valid.takenIssued⟩
  · rw [pending] at mem
    obtain ⟨thread, stands⟩ := valid.stands id entry mem
    exact ⟨thread, log ▸ stands.latest, log ▸ stands.ran, log ▸ stands.issued, log ▸ stands.untaken⟩
  · rw [pending, log]
    exact valid.active
  · rw [pending, log]
    exact valid.counted
  · rw [log]
    exact fun thread id report mem => drawn _ (valid.owned thread id report mem)

/-- Reports that are read or saved do not touch what is pending. -/
theorem Valid.logged (valid : Valid s) (allowed : event.Allowed s.log)
    (quiet : (∃ report, event = .ran i report) ∨ ∃ id report, event = .saved i id report) :
    Valid { s with log := event :: s.log } := by
  have begins : begun (event :: s.log) = begun s.log := by
    obtain ⟨_, rfl⟩ | ⟨_, _, rfl⟩ := quiet <;> rfl
  have takes (id : String) : ¬IsTaken id event := by
    obtain ⟨_, rfl⟩ | ⟨_, _, rfl⟩ := quiet <;> exact fun taken => taken
  have issues (thread : Nat) (id : String) (report) : .issued thread id report ≠ event := by
    obtain ⟨_, rfl⟩ | ⟨_, _, rfl⟩ := quiet <;> exact nofun
  refine ⟨lawful_cons valid.lawful allowed, valid.single, fun id entry mem => ?_,
    begins ▸ valid.active, begins ▸ valid.ordered, begins ▸ valid.counted,
    fun thread id other mem => ?_, valid.distinct,
    fun _ => valid.takenIssued_cons fun id taken => absurd taken (takes id)⟩
  · obtain ⟨thread, stands⟩ := valid.stands id entry mem
    refine ⟨thread, begins.symm ▸ stands.latest, mem_cons_of_mem _ stands.ran,
      mem_cons_of_mem _ stands.issued, fun event mem taken => ?_⟩
    rcases mem_cons.1 mem with rfl | mem
    · exact takes id taken
    · exact stands.untaken event mem taken
  · exact valid.owned thread id other ((mem_cons.1 mem).resolve_left (issues _ _ _))

theorem Mark.thread_of_mem {current} {mark : Mark Bytes}
    (mem : event ∈ mark.events i current) : event.thread = i := by
  cases mark with
  | nothing => cases mem
  | began | issued | taken =>
    rw [Mark.events, mem_singleton] at mem
    rw [mem]
    rfl

/-- A step adds to the log what its own thread has done. -/
theorem log_of_env (step : env i n s request reply t) :
    ∃ new, t.log = new ++ s.log ∧ ∀ event ∈ new, event.thread = i := by
  have quiet (same : t.log = s.log) :
      ∃ new, t.log = new ++ s.log ∧ ∀ event ∈ new, event.thread = i :=
    ⟨[], same, fun _ mem => absurd mem not_mem_nil⟩
  cases request with
  | unlock pending mark =>
    cases step
    exact ⟨mark.events i s.generation, rfl, fun event mem => Mark.thread_of_mem mem⟩
  | run source label =>
    cases step
    cases reply with
    | none => exact quiet rfl
    | some report =>
      refine ⟨[.ran i report], rfl, fun event mem => ?_⟩
      rw [mem_singleton.1 mem]
      rfl
  | currentGenerationId | newUuid | now | releasePermit =>
    obtain ⟨-, rfl⟩ := step
    exact quiet rfl
  | lock =>
    obtain ⟨-, -, rfl⟩ := step
    exact quiet rfl
  | acquirePermit =>
    rcases step with ⟨-, -, rfl⟩ | ⟨-, rfl⟩ <;> exact quiet rfl
  | editRepository =>
    obtain ⟨-, generation, rfl⟩ := step
    exact quiet rfl
  | save id report =>
    obtain ⟨-, generation, rfl⟩ := step
    refine ⟨[.saved i id report], rfl, fun event mem => ?_⟩
    rw [mem_singleton.1 mem]
    rfl

theorem elsewhere_of_env (allowed : discipline.allowed i s request)
    (step : env i n s request reply t) (j : Nat) (other : j ≠ i) : Elsewhere j s t := by
  have mine : ∀ {holder : Option Nat}, holder = some i → holder ≠ some j := by
    rintro _ rfl same
    exact other (Option.some.inj same).symm
  have log : ∃ new, t.log = new ++ s.log ∧ ∀ event ∈ new, event.thread ≠ j := by
    obtain ⟨new, is, own⟩ := log_of_env step
    exact ⟨new, is, fun event mem same => other (same.symm.trans (own event mem))⟩
  cases request with
  | currentGenerationId =>
    obtain ⟨-, rfl⟩ := step
    exact .refl _ _
  | lock =>
    obtain ⟨free, -, rfl⟩ := step
    refine ⟨fun held => ?_, fun h => ⟨h, rfl⟩, log, fun _ h => h⟩
    rw [free] at held
    cases held
  | unlock pending mark =>
    cases step
    exact ⟨fun held => absurd held (mine allowed.1), fun h => ⟨h, rfl⟩, log, fun _ h => h⟩
  | run source label =>
    cases step
    exact ⟨fun h => ⟨h, rfl⟩, fun h => ⟨h, rfl⟩, log, fun _ h => h⟩
  | newUuid =>
    obtain ⟨-, rfl⟩ := step
    exact ⟨fun h => ⟨h, rfl⟩, fun h => ⟨h, rfl⟩, log, fun _ h => mem_cons_of_mem _ h⟩
  | now =>
    obtain ⟨-, rfl⟩ := step
    exact ⟨fun h => ⟨h, rfl⟩, fun h => ⟨h, rfl⟩, log, fun _ h => h⟩
  | acquirePermit =>
    rcases step with ⟨-, free, rfl⟩ | ⟨-, rfl⟩
    · refine ⟨fun h => ⟨h, rfl⟩, fun held => ?_, log, fun _ h => h⟩
      rw [free] at held
      cases held
    · exact .refl _ _
  | releasePermit =>
    obtain ⟨held, rfl⟩ := step
    exact ⟨fun h => ⟨h, rfl⟩, fun h => absurd h (mine held), log, fun _ h => h⟩
  | editRepository | save =>
    obtain ⟨held, generation, rfl⟩ := step
    exact ⟨fun h => ⟨h, rfl⟩, fun h => absurd h (mine held), log, fun _ h => h⟩

theorem valid_of_env (valid : Valid s) (allowed : discipline.allowed i s request)
    (step : env i n s request reply t) : Valid t := by
  cases request with
  | currentGenerationId =>
    obtain ⟨-, rfl⟩ := step
    exact valid
  | unlock pending mark =>
    cases step
    exact allowed.2
  | lock =>
    obtain ⟨-, -, rfl⟩ := step
    exact valid.congr rfl rfl (fun _ h => h) valid.distinct
  | run source label =>
    cases step
    cases reply with
    | none => exact valid.congr rfl rfl (fun _ h => h) valid.distinct
    | some report => exact valid.logged trivial (.inl ⟨report, rfl⟩)
  | newUuid =>
    obtain ⟨fresh, rfl⟩ := step
    exact valid.congr rfl rfl (fun _ h => mem_cons_of_mem _ h)
      (nodup_cons.2 ⟨fresh, valid.distinct⟩)
  | now | releasePermit =>
    obtain ⟨-, rfl⟩ := step
    exact valid.congr rfl rfl (fun _ h => h) valid.distinct
  | acquirePermit =>
    rcases step with ⟨-, -, rfl⟩ | ⟨-, rfl⟩
    · exact valid.congr rfl rfl (fun _ h => h) valid.distinct
    · exact valid
  | editRepository =>
    obtain ⟨-, generation, rfl⟩ := step
    exact valid.congr rfl rfl (fun _ h => h) valid.distinct
  | save id report =>
    obtain ⟨-, generation, rfl⟩ := step
    have allowed : Event.Allowed s.log (.saved i id report) := allowed
    have logged := valid.logged allowed (.inr ⟨id, report, rfl⟩)
    exact logged.congr rfl rfl (fun _ h => h) valid.distinct

theorem inv_of_env (here : i < n)
    (inv : discipline.inv n s) (allowed : discipline.allowed i s request)
    (step : env i n s request reply t) : discipline.inv n t := by
  refine ⟨valid_of_env inv.1 allowed step, ?_⟩
  obtain ⟨new, is, own⟩ := log_of_env step
  intro event mem
  rw [is] at mem
  rcases mem_append.1 mem with mem | mem
  · rw [own event mem]
    exact here
  · exact inv.2 event mem

theorem elsewhere_of_release (j : Nat) (other : j ≠ i) : Elsewhere j s (s.release i) := by
  have kept : ∀ holder : Option Nat, holder = some j →
      (if holder = some i then none else holder) = some j := by
    rintro _ rfl
    rw [if_neg]
    rintro same
    exact other (Option.some.inj same)
  exact ⟨fun h => ⟨kept _ h, rfl⟩, fun h => ⟨kept _ h, rfl⟩, no_events _, fun _ h => h⟩

/-! ## Threads -/

theorem Elsewhere.mem_log (h : Elsewhere i s t) (mem : event ∈ s.log) : event ∈ t.log := by
  obtain ⟨new, is, -⟩ := h.log
  rw [is]
  exact mem_append_right _ mem

theorem Elsewhere.own_log (h : Elsewhere i s t) (mem : event ∈ t.log)
    (own : event.thread = i) : event ∈ s.log := by
  obtain ⟨new, is, others⟩ := h.log
  rw [is] at mem
  exact (mem_append.1 mem).resolve_left fun mem => others event mem own

theorem HasTaken.later {report} (h : HasTaken i id report s.log) (moved : Elsewhere i s t) :
    HasTaken i id report t.log := by
  obtain ⟨since, current, before, is, others⟩ := h
  obtain ⟨new, is', others'⟩ := moved.log
  refine ⟨new ++ since, current, before, by rw [is', is, append_assoc], fun event mem => ?_⟩
  exact (mem_append.1 mem).elim (others' event) (others event)

/-- The thread has begun its preflight and issued nothing. -/
structure Begun (i sequence : Nat) (generation : Generation) (s : State Bytes) : Prop where
  listed : (i, sequence, generation) ∈ begun s.log
  unissued : ∀ id report, .issued i id report ∉ s.log

theorem Begun.later {sequence} (h : Begun i sequence generation s)
    (moved : Elsewhere i s t) : Begun i sequence generation t := by
  refine ⟨?_, fun id report mem => h.unissued id report (moved.own_log mem rfl)⟩
  obtain ⟨new, is, -⟩ := moved.log
  rw [is, begun, filterMap_append]
  exact mem_append_right _ h.listed

/-- The thread holds the mutex, with these contents. -/
def Holding (i : Nat) (pending : PendingPreflights Bytes) (s : State Bytes) : Prop :=
  s.holder = some i ∧ s.pending = pending

theorem Holding.later (h : Holding i pending s) (moved : Elsewhere i s t) : Holding i pending t :=
  ⟨(moved.held h.1).1, (moved.held h.1).2.trans h.2⟩

section Threads

variable {β : Type} {next : Nat → Service Bytes β} {contents : PendingPreflights Bytes}
  {sequence : Nat} {generation : Generation} {report : PreflightReport Bytes} {id : String}

/-- As thread `i` the service keeps to the discipline, and keeps the permit if it has it. -/
abbrev Keeps (i : Nat) (service : Service Bytes β) (s : State Bytes) : Prop :=
  Assured previews discipline i (fun _ t => s.permit = some i → t.permit = some i) service.run s

theorem keeps_done (result : Except Failure β) : Keeps i (ExceptT.mk (pure result)) s :=
  fun _ _ moved _ _ held => (moved.permitted held).1

theorem keeps_ask_bind {next : Reply request → Service Bytes β} (h : ∀ t, Elsewhere i s t →
    Valid t → discipline.allowed i t request ∧ ∀ n reply u, env i n t request reply u →
    (t.permit = some i → u.permit = some i) ∧ Keeps i (next reply) u) :
    Keeps i (ask request >>= next) s := by
  intro n t moved here inv
  obtain ⟨allowed, later⟩ := h t moved inv.1
  refine ⟨allowed, fun reply u step => ?_⟩
  obtain ⟨kept, keeps⟩ := later n reply u step
  exact keeps.mono fun _ _ on held => on (kept (moved.permitted held).1)

theorem keeps_now_bind
    (h : ∀ time t, Elsewhere i s t → Keeps i (next time) t) : Keeps i (ask .now >>= next) s := by
  refine keeps_ask_bind fun t moved _ => ⟨trivial, ?_⟩
  rintro n time _ ⟨-, rfl⟩
  refine ⟨fun held => held, h time _ ?_⟩
  exact moved.trans ⟨fun h => ⟨h, rfl⟩, fun h => ⟨h, rfl⟩, no_events _, fun _ h => h⟩

theorem keeps_read_bind {next : Except RepositoryError Generation → Service Bytes β}
    (h : ∀ t, Elsewhere i s t → Keeps i (next t.generation) t) :
    Keeps i (ask .currentGenerationId >>= next) s := by
  refine keeps_ask_bind fun t moved _ => ⟨trivial, ?_⟩
  rintro n _ _ ⟨rfl, rfl⟩
  exact ⟨fun held => held, h _ moved⟩

theorem keeps_generation_bind {next : Generation → Service Bytes β}
    (h : ∀ generation t, Elsewhere i s t → t.generation = .ok generation →
    Keeps i (next generation) t) : Keeps i (currentGenerationId >>= next) s := by
  refine keeps_read_bind fun t moved => ?_
  cases is : t.generation with
  | ok generation => exact h generation t moved is
  | error e => exact keeps_done _

theorem keeps_lock_bind {next : PendingPreflights Bytes → Service Bytes β}
    (h : ∀ pending t u, Elsewhere i s t → u = { t with holder := some i } →
    Holding i pending u → Keeps i (next pending) u) : Keeps i (ask .lock >>= next) s := by
  refine keeps_ask_bind fun t moved _ => ⟨trivial, ?_⟩
  rintro n _ _ ⟨-, rfl, rfl⟩
  exact ⟨fun held => held, h _ t _ moved rfl ⟨rfl, rfl⟩⟩

theorem keeps_unlock_bind {mark} {next : Unit → Service Bytes β} (holds : s.holder = some i)
    (valid : ∀ t, Elsewhere i s t → Valid t → Valid (t.unlock i pending mark))
    (h : ∀ t, Elsewhere i s t → Keeps i (next ()) (t.unlock i pending mark)) :
    Keeps i (ask (.unlock pending mark) >>= next) s := by
  refine keeps_ask_bind fun t moved inv => ⟨⟨(moved.held holds).1, valid t moved inv⟩, ?_⟩
  rintro n reply _ rfl
  exact ⟨fun held => held, h t moved⟩

theorem keeps_refuse {pending : PendingPreflights Bytes} {failure}
    (holding : Holding i contents s) (trimmed : Trimmed contents pending) :
    Keeps i (refuse pending .nothing failure : Service Bytes β) s := by
  refine keeps_unlock_bind holding.1 (fun t moved valid => ?_) fun _ _ => keeps_done _
  apply valid.trimmed
  rw [(holding.later moved).2]
  exact trimmed

theorem begin_keeps {generation : Generation} (new : ∀ event ∈ s.log, event.thread ≠ i)
    (h : ∀ sequence t, Begun i sequence generation t → Keeps i (next sequence) t) :
    Keeps i (beginPendingRequest generation >>= next) s := by
  have unknown : ∀ t, Elsewhere i s t → ∀ id report, .issued i id report ∉ t.log :=
    fun t moved id report mem => new _ (moved.own_log mem rfl) rfl
  refine keeps_lock_bind fun pending t u moved is holding => ?_
  change Keeps i ((if pending.nextRequestSequence + 1 < 2 ^ 64 then _ else _) >>= next) u
  by_cases small : pending.nextRequestSequence + 1 < 2 ^ 64
  · rw [if_pos small]
    refine keeps_unlock_bind holding.1 (fun t' moved' valid => ?_) fun t' moved' => ?_
    · rw [← (holding.later moved').2]
      exact valid.began generation
    · apply h
      refine ⟨mem_cons_self .., fun id report mem => ?_⟩
      have mem := (mem_cons.1 mem).resolve_left nofun
      subst is
      exact unknown t moved id report (moved'.own_log mem rfl)
  · rw [if_neg small]
    exact keeps_refuse holding ⟨rfl, rfl, .refl _⟩

/-- What the thread has in hand when it stores its report. -/
structure Ready (i sequence : Nat) (generation : Generation) (report : PreflightReport Bytes)
    (id : String) (s : State Bytes) : Prop extends Begun i sequence generation s where
  ran : .ran i report ∈ s.log
  drawn : (i, id) ∈ s.drawn

theorem Ready.later (h : Ready i sequence generation report id s) (moved : Elsewhere i s t) :
    Ready i sequence generation report id t :=
  ⟨h.toBegun.later moved, moved.mem_log h.ran, moved.drawn _ h.drawn⟩

theorem insert_keeps {pending : PendingPreflights Bytes}
    (ready : Ready i sequence generation report id s) (holding : Holding i contents s)
    (trimmed : Trimmed contents pending) (active : pending.activeRequest = some sequence) :
    Keeps i (insertPending pending id report generation sequence) s := by
  refine keeps_now_bind fun createdAt t moved => ?_
  have ready := ready.later moved
  have holding := holding.later moved
  rw [if_neg (not_not.2 active)]
  have valid : ∀ u, Elsewhere i t u → Valid u → Valid (u.unlock i { pending with
      reports := Assoc.insert id ⟨createdAt, generation, sequence, report⟩ pending.reports }
      (.issued id report)) := by
    intro u moved valid
    have ready := ready.later moved
    have trimmed : Trimmed u.pending pending := (holding.later moved).2 ▸ trimmed
    exact valid.issued trimmed ready.listed active ready.ran ready.drawn ready.unissued
  refine keeps_read_bind fun u moved' => ?_
  have holding' := holding.later moved'
  have valid' := fun v moved => valid v (moved'.trans moved)
  cases u.generation with
  | error e => exact keeps_unlock_bind holding'.1 valid' fun _ _ => keeps_done _
  | ok current =>
    dsimp only
    split
    · refine keeps_refuse holding' ⟨trimmed.active, trimmed.next, ?_⟩
      exact (Assoc.remove_insert_sublist ..).trans trimmed.reports
    · exact keeps_unlock_bind holding'.1 valid' fun _ _ => keeps_done _

theorem store_keeps (begun_ : Begun i sequence generation s) (ran : .ran i report ∈ s.log) :
    Keeps i (storePending report generation sequence) s := by
  refine keeps_ask_bind fun t moved _ => ⟨trivial, ?_⟩
  rintro n previewId _ ⟨-, rfl⟩
  refine ⟨fun held => held, ?_⟩
  have ready : Ready i sequence generation report previewId
      { t with drawn := (i, previewId) :: t.drawn } :=
    ⟨⟨(begun_.later moved).listed, (begun_.later moved).unissued⟩, moved.mem_log ran,
      mem_cons_self ..⟩
  refine keeps_lock_bind fun contents u v moved is holding => ?_
  have ready := ready.later moved
  have ready : Ready i sequence generation report previewId v := by
    subst is
    exact ⟨⟨ready.listed, ready.unissued⟩, ready.ran, ready.drawn⟩
  refine keeps_now_bind fun now w moved' => ?_
  have holding := holding.later moved'
  have ready := ready.later moved'
  have trimmed := trimmed_removeExpired contents now
  dsimp only
  split
  · exact keeps_refuse holding trimmed
  · rename_i active
    refine keeps_read_bind fun x moved => ?_
    have holding := holding.later moved
    cases x.generation with
    | error e => exact keeps_refuse holding trimmed
    | ok current =>
      dsimp only
      split
      · exact keeps_refuse holding trimmed
      · exact insert_keeps (ready.later moved) holding trimmed (not_not.1 active)

theorem preflight_keeps (source : ProfileSource) (label : Option String)
    (new : ∀ event ∈ s.log, event.thread ≠ i) :
    Keeps i (preflight source label : Service Bytes String) s := by
  refine keeps_generation_bind fun generation t moved _ => ?_
  refine begin_keeps (fun event mem own => new event (moved.own_log mem own) own) ?_
  intro sequence u begun_
  refine keeps_ask_bind fun v moved _ => ⟨trivial, ?_⟩
  rintro n report _ rfl
  refine ⟨fun held => held, ?_⟩
  cases report with
  | none => exact keeps_done _
  | some report =>
    have begun_ := begun_.later moved
    refine store_keeps ⟨begun_.listed, fun id other mem => ?_⟩ (mem_cons_self ..)
    exact begun_.unissued id other ((mem_cons.1 mem).resolve_left nofun)

section
variable {next : PreflightReport Bytes → Service Bytes β}
  (h : ∀ report t, HasTaken i id report t.log → Keeps i (next report) t)
include h

theorem takeCandidate_keeps {candidate} (holding : Holding i contents s)
    (trimmed : Trimmed contents pending) (found : pending.reports.lookup id = some candidate)
    (held : s.permit = some i) (read : s.generation = .ok generation) :
    Keeps i (takeCandidate pending id generation candidate >>= next) s := by
  change Keeps i ((if _ then _ else _) >>= next) s
  split
  · exact keeps_refuse holding (trimmed.remove id)
  · rename_i fits
    refine keeps_read_bind fun t moved => ?_
    -- with the permit, the generation read at the start is the one at the take
    obtain ⟨held, same⟩ := moved.permitted held
    rw [same, read]
    change Keeps i ((if generation ≠ generation then _ else _) >>= next) t
    rw [if_neg (not_not.2 rfl)]
    have holding := holding.later moved
    refine keeps_unlock_bind holding.1 (fun u moved valid => ?_) fun _ _ =>
      h _ _ ⟨[], _, _, rfl, fun _ mem => absurd mem not_mem_nil⟩
    refine valid.taken ((holding.later moved).2 ▸ trimmed) (Assoc.mem_of_lookup_eq_some found) ?_
    rw [(moved.permitted held).2, same, read, not_not.1 (not_or.1 fits).2]

theorem take_keeps (held : s.permit = some i) : Keeps i (takePending id >>= next) s := by
  refine keeps_read_bind fun t moved => ?_
  cases read : t.generation with
  | error e => exact keeps_done _
  | ok generation =>
    have held := (moved.permitted held).1
    refine keeps_lock_bind fun contents u v moved is holding => ?_
    have current : v.permit = some i ∧ v.generation = .ok generation := by
      subst is
      exact ⟨(moved.permitted held).1, (moved.permitted held).2.trans read⟩
    refine keeps_now_bind fun now w moved => ?_
    have holding := holding.later moved
    have trimmed := trimmed_removeExpired contents now
    change Keeps i (takeFound (contents.removeExpired now) id generation
      ((contents.removeExpired now).reports.lookup id) >>= next) w
    cases found : (contents.removeExpired now).reports.lookup id with
    | none => exact keeps_refuse holding trimmed
    | some candidate =>
      exact takeCandidate_keeps h holding trimmed found (moved.permitted current.1).1
        ((moved.permitted current.1).2.trans current.2)

end

theorem Keeps.bind {γ : Type} {first} {next : β → Service Bytes γ} (h : Keeps i first s)
    (later : ∀ b t, (s.permit = some i → t.permit = some i) → Keeps i (next b) t) :
    Keeps i (first >>= next) s := by
  refine Assured.bind (Elsewhere.refl i) h fun result t kept => ?_
  cases result with
  | error e => exact (keeps_done _).mono fun _ _ on held => on (kept held)
  | ok b => exact (later b t kept).mono fun _ _ on held => on (kept held)

theorem Keeps.attempt {first : Service Bytes PUnit} (h : Keeps i first s) :
    Keeps i (tryCatch first fun _ => pure ⟨⟩) s := by
  refine Assured.bind (Elsewhere.refl i) h fun result t kept => ?_
  cases result with
  | error e => exact (keeps_done _).mono fun _ _ on held => on (kept held)
  | ok b => exact (keeps_done _).mono fun _ _ on held => on (kept held)

theorem edit_keeps : Keeps i (Mutation.edit.perform : Service Bytes PUnit) s := by
  refine keeps_ask_bind fun t moved _ => ⟨trivial, ?_⟩
  rintro n reply _ ⟨held, generation, rfl⟩
  exact ⟨fun held => held, keeps_done _⟩

theorem save_keeps {report : PreflightReport Bytes} (taken : HasTaken i id report s.log) :
    Keeps i (ask (.save id report) >>= fun _ => pure ⟨⟩ : Service Bytes PUnit) s := by
  refine keeps_ask_bind fun t moved _ => ⟨taken.later moved, ?_⟩
  rintro n reply _ ⟨held, generation, rfl⟩
  exact ⟨fun held => held, keeps_done _⟩

theorem perform_keeps (mutation : Mutation) (held : s.permit = some i) :
    Keeps i (mutation.perform : Service Bytes PUnit) s := by
  cases mutation with
  | edit => exact edit_keeps
  | savePreview id => exact take_keeps (fun _ _ taken => save_keeps taken) held

theorem mutations_keep (mutations : List Mutation) (held : s.permit = some i) :
    Keeps i (mutations.forM fun mutation => tryCatch mutation.perform fun _ => pure ⟨⟩ :
    Service Bytes PUnit) s := by
  induction mutations generalizing s with
  | nil => exact keeps_done _
  | cons mutation rest ih =>
    exact (perform_keeps mutation held).attempt.bind fun _ t kept => ih (kept held)

/-- With the permit gone the thread is at its end. -/
theorem mutate_assured (mutations : List Mutation) (s : State Bytes) :
    Assured previews discipline i (fun _ _ => True) (mutate mutations).run s := by
  intro n t moved here inv
  refine ⟨trivial, ?_⟩
  rintro acquired u (⟨rfl, -, rfl⟩ | ⟨rfl, rfl⟩)
  · change Assured previews discipline i _ ((mutations.forM _ >>= fun _ => _ : Service _ _).run) _
    refine Assured.bind (Elsewhere.refl i) (mutations_keep mutations rfl) fun result v kept => ?_
    cases result with
    | error e => exact fun _ _ _ _ _ => trivial
    | ok _ => exact fun _ _ _ _ _ => ⟨trivial, fun _ _ _ _ _ _ _ _ => trivial⟩
  · exact fun _ _ _ _ _ => trivial

end Threads

theorem thread_assured {β : Type} {service : Service Bytes β}
    (h : Assured previews discipline i (fun _ _ => True) service.run s) :
    Assured previews discipline i (fun _ _ => True) (thread service) s :=
  h.bind (Elsewhere.refl i) fun _ _ _ _ _ _ _ _ => trivial

theorem sound : (discipline : Discipline (Request Bytes) (State Bytes)).Sound previews
    (fun _ _ => True) where
  refl := Elsewhere.refl
  trans := Elsewhere.trans
  grow := fun inv => ⟨inv.1, fun event mem => Nat.lt_succ_of_lt (inv.2 event mem)⟩
  request := fun {i n _ _ _ _} here inv _ allowed step =>
    ⟨inv_of_env here inv allowed step, elsewhere_of_env (n := n) allowed step⟩
  leave := by
    rintro i n p s _ inv rfl
    exact ⟨⟨inv.1.congr rfl rfl (fun _ h => h) inv.1.distinct, inv.2⟩, elsewhere_of_release⟩
  launch := by
    rintro n _ s inv (⟨source, label⟩ | ⟨mutations⟩)
    · have new : ∀ event ∈ s.log, event.thread ≠ n := fun event mem => (inv.2 event mem).ne
      exact thread_assured ((preflight_keeps source label new).mono fun _ _ _ => trivial)
    · exact thread_assured (mutate_assured mutations s)
  fork := nofun

theorem valid_start (generation : Except RepositoryError Generation) :
    Valid (start generation : State Bytes) where
  lawful := by
    intro later event earlier split
    cases later <;> cases split
  single := Nat.zero_le _
  stands := nofun
  active := rfl
  ordered := .nil
  counted := nofun
  owned := nofun
  distinct := .nil
  takenIssued := nofun

/-- Preflights, saves and other mutations may run interleaved in any way. What is taken is deserved,
what is saved has been taken, and what is pending has not been taken. -/
theorem preview_used_once {generation : Except RepositoryError Generation}
    {pool : Pool (Request Bytes) Reply (State Bytes) Unit}
    (reach : Pool.Reach previews (fun _ _ => True) (Pool.start (start generation)) pool) :
    Lawful pool.state.log ∧ pool.state.pending.reports.length ≤ 1 ∧
      ∀ id entry, (id, entry) ∈ pool.state.pending.reports →
        ∀ event ∈ pool.state.log, ¬IsTaken id event := by
  have upheld := reach.upheld sound (Pool.upheld_start ⟨valid_start generation, nofun⟩)
  refine ⟨upheld.inv.1.lawful, upheld.inv.1.single, fun id entry pending => ?_⟩
  obtain ⟨thread, stands⟩ := upheld.inv.1.stands id entry pending
  exact stands.untaken

/-- A preflight issues a token, and a save takes the report and saves it. -/
theorem preview_used_once_sample : ∃ pool : Pool (Request Unit) Reply (State Unit) Unit,
      (∃ report, .saved 1 "token" report ∈ pool.state.log) ∧ Lawful pool.state.log ∧
        pool.state.pending.reports.length ≤ 1 ∧
          ∀ id entry, (id, entry) ∈ pool.state.pending.reports →
            ∀ event ∈ pool.state.log, ¬IsTaken id event := by
  let report : PreflightReport Unit :=
    ⟨⟨"", "", 1⟩, (), ⟨"", ""⟩, ⟨""⟩, .localFile "sample.yaml", (), "sample", false⟩
  let issued : State Unit := ⟨⟨some 1, 1, [("token", ⟨0, none, 1, report⟩)]⟩, none, none, .ok none,
    0, [(0, "token")], [.issued 0 "token" report, .ran 0 report, .began 0 1 none]⟩
  let saved : State Unit := { issued with
    pending := ⟨some 1, 1, []⟩
    permit := some 1
    generation := .ok (some "")
    log := .saved 1 "token" report :: .taken 1 "token" report (.ok none) :: issued.log }
  have first : Exec (previews.env 0 1) (thread (preflight report.source none)) (start (.ok none))
      (.done ()) issued :=
    .step ⟨rfl, rfl⟩ <| .step ⟨rfl, rfl, rfl⟩ <| .step (a := ()) rfl <|
    .step (a := some report) rfl <| .step ⟨by decide, rfl⟩ <|
    .step ⟨rfl, rfl, rfl⟩ <| .step ⟨Nat.zero_le _, rfl⟩ <| .step ⟨rfl, rfl⟩ <|
    .step ⟨Nat.zero_le _, rfl⟩ <| .step ⟨rfl, rfl⟩ <| .step (a := ()) rfl <|
    .stop _ _
  have second : ∃ q, Exec (previews.env 1 2) (thread (mutate [.savePreview "token"])) issued q
      saved :=
    ⟨_, .step (.inl ⟨rfl, rfl, rfl⟩) <| .step ⟨rfl, rfl⟩ <| .step ⟨rfl, rfl, rfl⟩ <|
    .step (a := (0 : Nat)) ⟨Nat.zero_le _, rfl⟩ <| .step ⟨rfl, rfl⟩ <| .step (a := ()) rfl <|
    .step (a := ()) ⟨rfl, _, rfl⟩ <| .stop _ _⟩
  obtain ⟨q, second⟩ := second
  let begins : Pool (Request Unit) Reply (State Unit) Unit := Pool.start (start (.ok none))
  have zero : begins.state = start (.ok none) ∧ begins.next = 0 := ⟨rfl, rfl⟩
  obtain ⟨pool, reach, between⟩ :=
    Pool.reach_launched (fun _ _ => rfl) (Launches.preflight report.source none) zero first
  obtain ⟨pool', reach', is, -⟩ :=
    Pool.reach_launched (fun _ _ => rfl) (Launches.mutate _) between second
  have used := preview_used_once (reach.trans reach')
  refine ⟨pool', ?_, used⟩
  rw [is]
  exact ⟨report, mem_cons_self ..⟩

end Mish.Profile.Preview
