import Mish.Profile.Operations

/-!
# Interrupted operations

A process may stop in front of any call of the writer, and any call may fail. The store comes
through that as long as it does not happen while the store is `Exposed`: between the making of
the first generation's directory and the first pointer, or between a saved profile's
appearance in the mirror and the pointer that publishes it.
-/

namespace Mish.Profile

open FileSystem Interaction

variable {Bytes : Type} {enc : Encoding Bytes}

/-- Harm is done if the operation that started in `s` ends here: the reader takes the store for
a corrupt one, or the mirror has got a profile that is not published. -/
def Exposed (enc : Encoding Bytes) (s d : Store Bytes) : Prop :=
  Unpointed d ∨ ∃ id, look s (profilePath id) = none ∧ (look d (profilePath id)).isSome ∧
    ∀ records, currentRecordsForWrite enc d = .ok records → ∀ record ∈ records, record.id ≠ id

/-- The operation runs from `s` up to `t`, where it has returned or the process has stopped. No
call fails, and the process does not stop, while the store is exposed. -/
def Interrupted (enc : Encoding Bytes) (s : Store Bytes) (o : Operation Bytes) (t : Store Bytes) :
    Prop :=
  ∃ rest, Exec (faulty Fresh fun d => ¬ Exposed enc s d) (o.program enc).run s rest t ∧
    (rest.result = none → ¬ Exposed enc s t)

/-- The stores that operations lead to, each of which may be interrupted. -/
inductive History (enc : Encoding Bytes) : Store Bytes → Prop where
  | fresh : History enc none
  | operation {s t} (o : Operation Bytes) : History enc s → o.Admissible enc s →
      Interrupted enc s o t → History enc t

/-- Run without a failure, the operation returns and its records are current. -/
def Succeeds (enc : Encoding Bytes) (s : Store Bytes) (o : Operation Bytes)
    (records : List (ProfileRecord Bytes)) : Prop :=
  Safe (faulty Fresh fun _ => False) (fun _ _ => True)
    (fun result t => result = .ok ⟨⟩ ∧ (o.publishes = true →
      ∃ id, readCurrentGeneration enc t = .ok (some ⟨id, o.outcome records⟩)))
    (o.program enc).run s

/-- What the operation leaves is read: either what was read before it or what it proposed. -/
def Settled (enc : Encoding Bytes) (s : Store Bytes) (o : Operation Bytes) (t : Store Bytes) :
    Prop :=
  ∃ generation, readCurrentGeneration enc s = .ok generation ∧
    (readCurrentGeneration enc t = .ok generation ∨
      (o.publishes = true ∧ ∃ records id, o.proposal enc s = .ok records ∧
        readCurrentGeneration enc t = .ok (some ⟨id, o.outcome records⟩)))

variable {s d t : Store Bytes} {o : Operation Bytes}

/-! ## One operation -/

theorem readCurrentGeneration_eq (d : Store Bytes) : readCurrentGeneration enc d =
    if look d currentGenerationPath = none ∧ look d generationsRoot = none then .ok none
    else do
      let pointer ← readGenerationPointer enc d
      let generation ← readGenerationAt enc (look d (generationPath pointer.generationId))
        pointer.generationId
      return some generation := by
  unfold readCurrentGeneration
  by_cases absent : look d currentGenerationPath = none ∧ look d generationsRoot = none
  · rw [if_pos absent, if_pos (.inr (by simpa using absent))]
    rfl
  · have root : d.isNone = false := by
      cases d with
      | none => exact absurd ⟨look_none _, look_none _⟩ absent
      | some node => rfl
    rw [if_neg absent, if_neg (by simpa [root] using absent)]

theorem error_bind {ε α β : Type} (e : ε) (next : α → Except ε β) :
    (Except.error e >>= next) = .error e := rfl

theorem Unseen.read (h : Unseen d t) :
    readCurrentGeneration enc t = readCurrentGeneration enc d := by
  have root : look t generationsRoot = none ↔ look d generationsRoot = none := by
    rw [← Option.not_isSome_iff_eq_none, ← Option.not_isSome_iff_eq_none, h.root]
  rw [readCurrentGeneration_eq, readCurrentGeneration_eq, h.pointer,
    readGenerationPointer_congr h.pointer]
  simp only [root]
  split
  · rfl
  · cases pointed : readGenerationPointer enc d with
    | error e => rw [error_bind, error_bind]
    | ok pointer =>
      have canonical := (readGenerationPointer_ok pointed).2
      rw [ok_bind, ok_bind, h.generations _ (not_transient_of_canonical canonical)]

theorem Unseen.exposed (h : Unseen d t) (exposed : Exposed enc s t) : Exposed enc s d := by
  refine exposed.imp h.unpointed_iff.1 ?_
  rintro ⟨id, new, exists_, unlisted⟩
  refine ⟨id, new, ?_, ?_⟩
  · rwa [← show look t (profilePath id) = look d (profilePath id) from
      h.mirror _ id.not_transient]
  · intro records current
    apply unlisted
    rw [currentRecordsForWrite, h.read]
    exact current

theorem not_unpointed_of_read {generation}
    (read : readCurrentGeneration enc s = .ok generation) : ¬ Unpointed s := by
  rintro ⟨absent, present⟩
  rcases readCurrentGeneration_ok read with ⟨-, -, rootless⟩ | ⟨pointer, found, pointed, -, -⟩
  · rw [rootless] at present
    cases present
  · have there := (readGenerationPointer_ok pointed).1
    rw [absent] at there
    cases there

variable {records : List (ProfileRecord Bytes)}

/-- A profile that the operation brought into the mirror is one it proposed. -/
theorem Operation.Mirrored.proposed {id}
    (mirrored : o.Mirrored enc s t) (proposal : o.proposal enc s = .ok records)
    (new : look s (profilePath id) = none) (exists_ : (look t (profilePath id)).isSome) :
    ∃ record ∈ o.outcome records, record.id = id := by
  have own : o.touched = some id := by
    by_contra other
    have same : look t (profilePath id) = look s (profilePath id) := by
      refine mirrored.1 _ id.not_transient ?_
      intro touched is same
      rw [is, ProfileId.value_injective same] at other
      exact other rfl
    rw [same, new] at exists_
    cases exists_
  cases o with
  | save record =>
    cases own
    obtain ⟨⟨⟩, -, proposal⟩ := bind_ok proposal
    obtain ⟨current, -, proposal⟩ := bind_ok proposal
    obtain ⟨⟨⟩, -, proposal⟩ := bind_ok proposal
    cases proposal
    exact ⟨record, mem_sortById.2 (by simp), rfl⟩
  | update record | replaceSource record =>
    cases own
    obtain ⟨⟨⟩, -, proposal⟩ := bind_ok proposal
    obtain ⟨current, -, proposal⟩ := bind_ok proposal
    obtain ⟨index, found, proposal⟩ := bind_ok proposal
    obtain ⟨⟨⟩, -, proposal⟩ := bind_ok proposal
    cases proposal
    exact ⟨record, mem_sortById.2 (List.mem_set (Operation.position_lt found) record), rfl⟩
  | delete id =>
    cases own
    rw [mirrored.2] at exists_
    cases exists_
  | _ => cases own

/-- An operation that returned leaves nothing exposed. -/
theorem Operation.Ends.not_exposed {result} (admissible : o.Admissible enc s)
    (ends : o.Ends enc (fun d => ¬ Exposed enc s d) s result t) : ¬ Exposed enc s t := by
  cases result with
  | error e =>
    obtain ⟨-, ⟨⟨d, safe, unseen⟩, -⟩ | ⟨pointed, mirror, -⟩⟩ := ends
    · exact fun exposed => safe (unseen.exposed exposed)
    · rintro (unpointed | ⟨id, new, exists_, -⟩)
      · exact pointed unpointed
      · rw [show look t (profilePath id) = _ from mirror _ id.not_transient] at exists_
        rw [show look s (mirrorPath id.value) = none from new] at exists_
        cases exists_
  | ok _ =>
    obtain ⟨-, mirrored, records, proposal, published, staged⟩ := ends
    cases kind : o.publishes with
    | true =>
      obtain ⟨id, read⟩ := published kind
      rintro (unpointed | ⟨profile, new, exists_, unlisted⟩)
      · exact not_unpointed_of_read read unpointed
      · obtain ⟨record, mem, is⟩ := mirrored.proposed proposal new exists_
        exact unlisted _ (by rw [currentRecordsForWrite, read]; rfl) record mem is
    | false =>
      cases o with
      | save | update | replaceSource | delete | publishRecords | publish => cases kind
      | stage records =>
        have touches := staged rfl
        rintro (⟨absent, -⟩ | ⟨profile, new, exists_, -⟩)
        · have present := admissible.1
          rw [← touches.pointer, absent] at present
          cases present
        · rw [show look t (profilePath profile) = _ from
            touches.mirror _ profile.not_transient (by simp)] at exists_
          rw [show look s (mirrorPath profile.value) = none from new] at exists_
          cases exists_

/-- Wherever an operation is interrupted, it has either published or only touched. -/
theorem Interrupted.cases (laid : Laid layout s) (pointed : ¬ Unpointed s)
    (admissible : o.Admissible enc s) (step : Interrupted enc s o t) :
    ¬ Exposed enc s t ∧ (Touches s o.touched t ∨
    (o.publishes = true ∧ Laid layout t ∧ ∃ records id, o.proposal enc s = .ok records ∧
    readCurrentGeneration enc t = .ok (some ⟨id, o.outcome records⟩))) := by
  obtain ⟨rest, exec, stopped⟩ := step
  have safe : Safe (faulty Fresh fun d => ¬ Exposed enc s d) _ _ (o.program enc).run s :=
    Operation.safe laid pointed admissible
  cases rest with
  | call request next => exact ⟨stopped rfl, .inl (safe.request_allowed exec)⟩
  | done result =>
    have ends : o.Ends enc _ s result t := safe.result exec
    refine ⟨ends.not_exposed admissible, ?_⟩
    cases result with
    | error e => exact .inl ends.1
    | ok _ =>
      obtain ⟨laid', -, records, proposal, published, staged⟩ := ends
      cases kind : o.publishes with
      | true =>
        obtain ⟨id, read⟩ := published kind
        exact .inr ⟨rfl, laid', records, id, proposal, read⟩
      | false =>
        cases o with
        | save | update | replaceSource | delete | publishRecords | publish => cases kind
        | stage records => exact .inl (staged rfl)

/-! ## Histories -/

/-- In every store that operations lead to, something is read. -/
theorem History.reads (history : History enc s) :
    Laid layout s ∧ ∃ generation, readCurrentGeneration enc s = .ok generation := by
  induction history with
  | fresh => exact ⟨laid_none, none, rfl⟩
  | operation o _ admissible step ih =>
    obtain ⟨laid, generation, read⟩ := ih
    obtain ⟨safe, touches | ⟨-, laid', records, id, -, now⟩⟩ :=
      step.cases laid (not_unpointed_of_read read) admissible
    · exact ⟨touches.laid, generation, touches.read read fun unpointed => safe (.inl unpointed)⟩
    · exact ⟨laid', _, now⟩

/-- An operation whose records may be published succeeds if nothing fails. -/
theorem succeeds_of_proposal (laid : Laid layout t)
    (pointed : ¬ Unpointed t) (admissible : o.Admissible enc t) (clear : o.Clear t)
    (proposal : o.proposal enc t = .ok records) : Succeeds enc t o records := by
  have safe : Safe (faulty Fresh fun _ => False) _ _ (o.program enc).run t :=
    Operation.safe laid pointed admissible
  refine (safe.weaken fun _ _ _ => trivial).mono ?_
  intro result u ends
  cases result with
  | error e =>
    obtain ⟨-, ⟨⟨_, impossible, -⟩, -⟩ | ⟨-, -, refused⟩⟩ := ends
    · exact impossible.elim
    · exact absurd ⟨clear, records, proposal⟩ refused
  | ok _ =>
    obtain ⟨-, -, same, proposal', published, -⟩ := ends
    rw [proposal] at proposal'
    cases proposal'
    exact ⟨rfl, published⟩

/-- Interrupted anywhere but where the store is exposed, an operation leaves either the records
that were current or those it proposed, and nothing in the way of a later operation. -/
theorem interrupted_operation_settled (history : History enc s) (admissible : o.Admissible enc s)
    (step : Interrupted enc s o t) : Settled enc s o t ∧
    ∀ (later : Operation Bytes) records, later.Admissible enc t → later.Clear s →
      later.proposal enc t = .ok records → Succeeds enc t later records := by
  obtain ⟨laid, generation, read⟩ := history.reads
  obtain ⟨laid', generation', read'⟩ := (History.operation o history admissible step).reads
  obtain ⟨safe, outcome⟩ := step.cases laid (not_unpointed_of_read read) admissible
  refine ⟨⟨generation, read, ?_⟩, ?_⟩
  · rcases outcome with touches | ⟨publishes, -, records, id, proposal, now⟩
    · exact .inl (touches.read read fun unpointed => safe (.inl unpointed))
    · exact .inr ⟨publishes, records, id, proposal, now⟩
  · intro later records admissible' clear proposal
    refine succeeds_of_proposal laid' (not_unpointed_of_read read') admissible' ?_ proposal
    cases later with
    | update | replaceSource | delete | publishRecords | stage | publish => trivial
    | save record =>
      -- a directory that is in the way would be that of a current profile
      obtain ⟨⟨⟩, -, proposal⟩ := bind_ok proposal
      obtain ⟨current, listed, proposal⟩ := bind_ok proposal
      obtain ⟨⟨⟩, absent, -⟩ := bind_ok proposal
      rw [failIf_ok] at absent
      by_contra exists_
      refine safe (.inr ⟨record.id, clear, Option.isSome_iff_ne_none.2 exists_, ?_⟩)
      intro records listed' other mem same
      rw [listed] at listed'
      cases listed'
      exact absent ⟨other, mem, same⟩

/-! ## Samples -/

instance (d : Store Bytes) (name : String) : Decidable (Fresh d name) :=
  inferInstanceAs (Decidable (_ ∧ _))

def zeroDigest : String := "0000000000000000000000000000000000000000000000000000000000000000"

/-- All bytes are alike, and nothing is too long. -/
def sampleEncoding : Encoding Unit where
  format := {
    parse := fun _ => some .null
    serialize := fun
      | .null => some ()
      | _ => none
    fingerprint := fun _ => zeroDigest
    parse_serialize := by
      intro document bytes serialized
      cases document with
      | null => rfl
      | _ => cases serialized }
  sha256 := id
  documentDigest := fun _ => zeroDigest
  size := fun _ => 0
  urlIsValid := fun _ => true
  urlIsRedacted := fun _ => true
  pointer_size := by simp

def sampleName : String := "00000000-0000-4000-8000-000000000000"

/-- A run of an operation, with the answers the calls get and the calls it has done. -/
def sampleRun (mayFail : List (Call (Contents Unit)) → Bool) (o : Operation Unit)
    (answers : List Answer) (s : Store Unit) :=
  replay (fun d name => decide (Fresh d name)) mayFail (o.program sampleEncoding).run answers (s, [])

theorem exec_sampleRun {tolerates : Store Unit → Prop} {mayFail} (o : Operation Unit)
    (answers : List Answer) (may : ∀ done d, mayFail done = true → tolerates d) (s : Store Unit) :
    Exec (faulty Fresh tolerates) (o.program sampleEncoding).run s (sampleRun mayFail o answers s).1
    (sampleRun mayFail o answers s).2.1 := by
  have run := exec_replay (fun (d : Store Unit) name (new : decide (Fresh d name) = true) =>
    of_decide_eq_true new) (fun done (tolerated : mayFail done = true) => tolerated)
    (o.program sampleEncoding).run answers (s, [])
  exact exec_faulty (fun _ _ => True) (fun _ _ _ _ _ _ => trivial) (fun done d _ => may done d) trivial run

/-- The first publication of all, of no profiles. -/
def firstPublication : Operation Unit := .publishRecords []

/-- The answers of a first publication up to its third call. -/
def stoppedAnswers : List Answer := [.done, .done, .named sampleName]

/-- The process stops in front of the third call of the first publication. From then on the
store is taken for a corrupt one. -/
theorem first_publication_stopped : ∃ rest t,
    Exec (faulty Fresh fun _ => True) (firstPublication.program sampleEncoding).run none rest t ∧
    rest.result = none ∧
    readCurrentGeneration sampleEncoding none = .ok none ∧
    readCurrentGeneration sampleEncoding t = .error (.corruptData .generationPointer) := by
  have stopped :
      (sampleRun (fun _ => false) firstPublication stoppedAnswers none).1.result = none ∧
      readCurrentGeneration sampleEncoding
        (sampleRun (fun _ => false) firstPublication stoppedAnswers none).2.1 =
        .error (.corruptData .generationPointer) := by decide +kernel
  exact ⟨_, _, exec_sampleRun firstPublication stoppedAnswers (fun _ _ _ => trivial) none,
    stopped.1, rfl, stopped.2⟩

def sampleId : ProfileId := ⟨sampleName, by decide⟩

/-- Profiles that have not been found valid yet. -/
def sampleRecordOf (id : ProfileId) : ProfileRecord Unit where
  metadata := {
    artifact := ⟨zeroDigest, zeroDigest, normalizedArtifactSchemaVersion⟩
    id
    label := "Sample"
    lastAttempt := none
    lastSuccess := none
    provenance := ⟨0, ⟨"sample.yaml", .localFile⟩, zeroDigest⟩
    refresh := .default
    revision := ⟨zeroDigest⟩
    runtimeProvenance := ⟨zeroDigest, zeroDigest⟩
    schemaVersion := profileSchemaVersion
    status := ⟨false, false, false, false, false, false⟩ }
  normalizedBytes := ()
  patches := .empty zeroDigest zeroDigest
  source := .localFile "/sample.yaml"
  sourceBytes := ()

def sampleRecord : ProfileRecord Unit := sampleRecordOf sampleId

theorem validateRecord_sample (id : ProfileId) :
    validateRecord sampleEncoding (sampleRecordOf id) = .ok () := by
  have same : validateRecord sampleEncoding (sampleRecordOf id) =
    validateRecord sampleEncoding sampleRecord := rfl
  rw [same]
  decide +kernel

theorem publishable_samples {ids : List ProfileId} (few : ids.length ≤ maxGenerationProfiles)
    (differ : ids.Nodup) : Publishable sampleEncoding (ids.map sampleRecordOf) := by
  refine ⟨by simpa using few, ?_, ?_, ?_, ?_, by simp [sampleEncoding]⟩
  · have perm := (List.mergeSort_perm (ids.map sampleRecordOf)
      fun left right => left.id.value ≤ right.id.value).map ProfileRecord.id
    rw [List.map_map, show ProfileRecord.id ∘ sampleRecordOf = id from rfl, List.map_id] at perm
    exact (perm.nodup_iff.2 differ).isChain
  all_goals
    rw [List.forall_mem_map]
    intro id _
  · exact validateRecord_sample id
  · change sampleEncoding.isRedacted ⟨"sample.yaml", .localFile⟩ = true
    decide +kernel
  · constructor <;> simp [sampleEncoding]

/-- The names that are drawn next. -/
def otherName : String := "00000000-0000-4000-8000-000000000001"

def thirdName : String := "00000000-0000-4000-8000-000000000002"

/-- The answers to all calls of a first save. -/
def savedAnswers : List Answer :=
  [.done, .done, .named sampleName] ++ List.replicate 11 .done ++
    .named otherName :: List.replicate 16 .done

/-- The answers of a deletion up to the removal of the directory that it has renamed. -/
def deletionAnswers : List Answer := [.named thirdName, .done, .done]

theorem admissible_sample : (Operation.save sampleRecord).Admissible sampleEncoding none := by
  intro records proposed
  have is : (Operation.save sampleRecord).proposal sampleEncoding none = .ok [sampleRecord] := by
    rw [Operation.proposal, sampleRecord, validateRecord_sample]
    rfl
  cases is.symm.trans proposed
  exact publishable_samples (by decide) (List.nodup_singleton sampleId)

/-- A stopped operation that has left no directory of its own profile. -/
theorem not_exposed_of_stopped {tolerates : Store Bytes → Prop} {rest generation id}
    (history : History enc s) (admissible : o.Admissible enc s)
    (read : readCurrentGeneration enc s = .ok (some generation)) (own : o.touched = some id)
    (exec : Exec (faulty Fresh tolerates) (o.program enc).run s rest t)
    (stopped : rest.result = none) (gone : look t (profilePath id) = none) :
    ¬ Exposed enc s t := by
  have safe : Safe (faulty Fresh tolerates) _ _ (o.program enc).run s :=
    Operation.safe history.reads.1 (not_unpointed_of_read read) admissible
  have touches : Touches s o.touched t := by
    cases rest with
    | done => cases stopped
    | call => exact safe.request_allowed exec
  rintro (⟨absent, -⟩ | ⟨other, new, exists_, -⟩)
  · rcases readCurrentGeneration_ok read with ⟨⟨⟩, -⟩ | ⟨pointer, found, pointed, -⟩
    have present := (readGenerationPointer_ok pointed).1
    rw [← touches.pointer, absent] at present
    cases present
  · by_cases same : other = id
    · rw [same, gone] at exists_
      cases exists_
    · have kept : look t (profilePath other) = look s (profilePath other) := by
        refine touches.mirror _ other.not_transient fun touched is equal => same ?_
        cases own.symm.trans is
        exact ProfileId.value_injective equal
      rw [kept, new] at exists_
      cases exists_

/-- A first profile is saved, and the process stops while it is deleted. -/
theorem interrupted_operation_settled_delete : ∃ s rest t,
    readCurrentGeneration sampleEncoding s = .ok (some ⟨otherName, [sampleRecord]⟩) ∧
    Exec (faulty Fresh fun d => ¬ Exposed sampleEncoding s d)
      ((Operation.delete sampleId).program sampleEncoding).run s rest t ∧
    rest.result = none ∧ look t (profilePath sampleId) = none ∧
    Settled sampleEncoding s (.delete sampleId) t ∧
    ∀ (later : Operation Unit) records, later.Admissible sampleEncoding t →
      later.Clear s → later.proposal sampleEncoding t = .ok records →
        Succeeds sampleEncoding t later records := by
  have saves := @exec_sampleRun (fun d => ¬ Exposed sampleEncoding none d) (fun _ => false)
    (.save sampleRecord) savedAnswers (fun _ _ may => absurd may Bool.false_ne_true) none
  have outcome : (sampleRun (fun _ => false) (.save sampleRecord) savedAnswers none).1.result =
        some (.ok ⟨⟩) ∧
      readCurrentGeneration sampleEncoding
        (sampleRun (fun _ => false) (.save sampleRecord) savedAnswers none).2.1 =
          .ok (some ⟨otherName, [sampleRecord]⟩) ∧
      (sampleRun (fun _ => false) (.delete sampleId) deletionAnswers
        (sampleRun (fun _ => false) (.save sampleRecord) savedAnswers none).2.1).1.result = none ∧
      look (sampleRun (fun _ => false) (.delete sampleId) deletionAnswers
        (sampleRun (fun _ => false) (.save sampleRecord) savedAnswers none).2.1).2.1
        (profilePath sampleId) = none := by decide +kernel
  generalize sampleRun (fun _ => false) (.save sampleRecord) savedAnswers none = saved
    at saves outcome
  obtain ⟨returned, read, stopped, renamed⟩ := outcome
  have history : History sampleEncoding saved.2.1 := by
    refine .operation _ .fresh admissible_sample ⟨_, saves, fun unfinished => ?_⟩
    cases unfinished.symm.trans returned
  have admissible : (Operation.delete sampleId).Admissible sampleEncoding saved.2.1 := by
    intro records proposed
    have is : (Operation.delete sampleId).proposal sampleEncoding saved.2.1 = .ok [] := by
      rw [Operation.proposal, currentRecordsForWrite, read]
      rfl
    cases is.symm.trans proposed
    exact publishable_samples (by decide) List.nodup_nil
  have deletes := @exec_sampleRun (fun d => ¬ Exposed sampleEncoding saved.2.1 d) (fun _ => false)
    (.delete sampleId) deletionAnswers (fun _ _ may => absurd may Bool.false_ne_true) saved.2.1
  have unexposed := not_exposed_of_stopped history admissible read rfl deletes stopped renamed
  exact ⟨_, _, _, read, deletes, stopped, renamed,
    interrupted_operation_settled history admissible ⟨_, deletes, fun _ => unexposed⟩⟩

end Mish.Profile
