import Mish.Profile.PatchCatalog
import Mish.Profile.Repository

/-!
# How the store lays out its files

`layout` says which paths of the store are directories. Everything the repository writes
follows it, so that no file ever stands in the way of a write.
-/

namespace Mish.Profile

open FileSystem Interaction

variable {Bytes : Type} {enc : Encoding Bytes} {record : ProfileRecord Bytes}

theorem failIf_bind {ε β : Type} {condition : Prop} [Decidable condition] {error} {next : Unit →
    Except ε β} (passes : ¬ condition) : (failIf condition error >>= next) = next () := by
  rw [failIf, if_neg passes, ok_bind]

/-! ## The layout -/

/-- The directories in the directory of a profile. -/
def profileLayout : Path → Bool
  | [] | ["source"] | ["source", "revisions"] | ["artifacts"] | ["patches"]
  | ["patches", "sets"] => true
  | _ => false

def generationLayout : Path → Bool
  | [] | ["profiles"] => true
  | "profiles" :: _ :: path => profileLayout path
  | _ => false

def layout : Path → Bool
  | [] | ["generations"] | ["profiles"] => true
  | "generations" :: _ :: path => generationLayout path
  | "profiles" :: _ :: path => profileLayout path
  | _ => false

/-- A place where the directory of a profile may stand. -/
structure RecordBase (base : Path) : Prop where
  clear : above layout base = true
  shape : ∀ q, layout (base ++ q) = profileLayout q

theorem recordBase_mirror (name : String) : RecordBase (mirrorPath name) where
  clear := rfl
  shape := fun q => by simp [mirrorPath, profilesRoot, layout]

theorem recordBase_generation {name} (profile : String) :
    RecordBase (generationPath name ++ ["profiles", profile]) where
  clear := rfl
  shape := fun q => by simp [generationPath, generationsRoot, layout, generationLayout]

/-! ## The directory of a profile -/

/-- The files of a record, with their places in the directory of the profile. -/
structure Holds (enc : Encoding Bytes) (profile : Disk (Contents Bytes))
    (record : ProfileRecord Bytes) : Prop where
  directory : IsDir profile []
  source : look profile ["source", "source.json"] = some (.file (.document (.source record.source)))
  revision : look profile ["source", "revisions", recordFile record.metadata.revision.id] =
    some (.file (.bytes record.sourceBytes))
  artifact : look profile ["artifacts", recordFile record.metadata.artifact.fingerprint] =
    some (.file (.bytes record.normalizedBytes))
  patchSet : look profile
      ["patches", "sets", patchFile (enc.hashBytes (.document (.patches record.patches)))] =
    some (.file (.document (.patches record.patches)))
  metadata : look profile ["metadata.json"] = some (.file (.document (.metadata record.metadata)))
  patchIndex : look profile ["patches", "index.json"] =
    some (.file (.document (.patchPointer ⟨enc.hashBytes (.document (.patches record.patches))⟩)))

/-- The files of a record are not too long to be read. -/
structure Readable (enc : Encoding Bytes) (record : ProfileRecord Bytes) : Prop where
  source : enc.size (.document (.source record.source)) ≤ maxPersistedFileBytes
  revision : enc.size (.bytes record.sourceBytes) ≤ maxPersistedFileBytes
  artifact : enc.size (.bytes record.normalizedBytes) ≤ maxPersistedFileBytes
  patchSet : enc.size (.document (.patches record.patches)) ≤ maxPersistedFileBytes
  metadata : enc.size (.document (.metadata record.metadata)) ≤ maxPersistedFileBytes
  patchIndex : enc.size (.document (.patchPointer
    ⟨enc.hashBytes (.document (.patches record.patches))⟩)) ≤ maxPersistedFileBytes

theorem readBytesBounded_file {contents maxBytes}
    (component : RepositoryComponent) (fits : enc.size contents ≤ maxBytes) :
    readBytesBounded enc (some (.file contents)) component maxBytes = .ok contents := by
  simp [readBytesBounded, Nat.not_lt.2 fits]

theorem readJsonBounded_file {α : Type} (select : Document → Option α) {document value maxBytes}
    (component : RepositoryComponent)
    (fits : enc.size (.document document) ≤ maxBytes) (is : select document = some value) :
    readJsonBounded enc select (some (.file (.document document))) component maxBytes =
    .ok value := by
  simp [readJsonBounded, readBytesBounded_file component fits, is]
  rfl

/-- What the checks of a record leave for the checks of its stored metadata. -/
theorem validateRecord_ok (valid : validateRecord enc record = .ok ()) :
    record.metadata.schemaVersion = profileSchemaVersion ∧ enc.sourceIsValid record.source = true ∧
    validatePersistedMetadata record.metadata record.id = .ok () := by
  obtain ⟨⟨⟩, schema, valid⟩ := bind_ok valid
  obtain ⟨⟨⟩, artifactSchema, valid⟩ := bind_ok valid
  obtain ⟨⟨⟩, canonical, valid⟩ := bind_ok valid
  obtain ⟨⟨⟩, bound, -⟩ := bind_ok valid
  simp only [failIf_ok, not_or, Decidable.not_not, Bool.or_eq_true, Bool.not_eq_true',
    Bool.not_eq_false] at schema artifactSchema canonical bound
  obtain ⟨⟨⟨revision, fingerprint⟩, revisionId⟩, source⟩ := canonical
  refine ⟨schema, source, ?_⟩
  simp [validatePersistedMetadata, failIf, schema, artifactSchema, revision, fingerprint,
    revisionId, bound.2.2.2, ProfileRecord.id]

theorem load_of_holds {profile}
    (holds : Holds enc profile record) (valid : validateRecord enc record = .ok ())
    (fits : Readable enc record) : loadFromProfilePath enc record.id profile = .ok record := by
  obtain ⟨schema, source, persisted⟩ := validateRecord_ok valid
  obtain ⟨entries, directory⟩ := holds.directory
  rw [look_nil] at directory
  have current : migrateLegacyMetadata record.metadata = record.metadata := by
    simp [migrateLegacyMetadata, schema, profileSchemaVersion]
  have patches : loadPatchSet enc profile record.metadata = .ok record.patches := by
    have index := readJsonBounded_file Document.asPatchPointer .patches fits.patchIndex rfl
    have set := readBytesBounded_file .patches fits.patchSet
    simp [loadPatchSet, holds.patchIndex, readJson, index, holds.patchSet, readBytes, set, failIf]
  have metadata := readJsonBounded_file Document.asMetadata .metadata fits.metadata rfl
  have descriptor := readJsonBounded_file Document.asSource .sourceDescriptor fits.source rfl
  have revision : readRaw enc (some (.file (.bytes record.sourceBytes))) .immutableRevision =
      .ok record.sourceBytes := by
    rw [readRaw, readBytes, readBytesBounded_file _ fits.revision]
    rfl
  have artifact : readRaw enc (some (.file (.bytes record.normalizedBytes))) .normalizedArtifact =
      .ok record.normalizedBytes := by
    rw [readRaw, readBytes, readBytesBounded_file _ fits.artifact]
    rfl
  have opened : ensureDirectory profile .metadata = .ok () := by rw [directory]; rfl
  unfold loadFromProfilePath
  simp only [opened, holds.metadata, readJson, metadata, current, persisted, holds.source,
    descriptor, source, holds.revision, revision, holds.artifact, artifact, patches, valid,
    ok_bind]
  simp [failIf]

/-! ## Writing a record -/

section Writing

variable {tolerates inv : Disk (Contents Bytes) → Prop} {d t : Disk (Contents Bytes)} {base : Path}
  {files : List (Path × Contents Bytes)}

theorem safe_settle_bind {α β : Type} {result} {next : α → Repository Bytes β} {post}
    (ok : ∀ a, result = .ok a → SafeOn Fresh tolerates inv post (next a) d)
    (error : ∀ e, result = .error e → post (.error e) d) :
    SafeOn Fresh tolerates inv post (settle result >>= next) d := by
  cases result with
  | ok a => exact ok a rfl
  | error e => exact error e rfl

/-- The files are written below the base, and nothing is changed outside of it. -/
structure Written (base : Path) (files : List (Path × Contents Bytes))
    (d t : Disk (Contents Bytes)) : Prop where
  outside : Outside base d t
  laid : Laid layout t
  has : ∀ file ∈ files, look t (base ++ file.1) = some (.file file.2)

theorem Written.write {path} (w : Written base files d t) (at_ : RecordBase base)
    (contents : Contents Bytes) (clear : above profileLayout path = true)
    (isFile : profileLayout path = false) (apart : ∀ file ∈ files, Apart path file.1) :
    ∃ u, (Call.write (base ++ path) contents).effect t = some u ∧
    Written base ((path, contents) :: files) d u := by
  have clear' : above layout (base ++ path) = true := by
    rw [above_append, at_.clear, funext at_.shape, clear]
    rfl
  obtain ⟨u, done, outside, laid, found⟩ :=
    effect_write contents w.laid clear' ((at_.shape path).trans isFile)
  refine ⟨u, done, w.outside.trans outside.above, laid, ?_⟩
  intro file mem
  rcases List.mem_cons.1 mem with rfl | old
  · exact found
  · rw [outside.same _ (apart_append_left.2 (apart file old))]
    exact w.has file old

theorem safe_write {path contents}
    (w : Written base files d t) (at_ : RecordBase base) (clear : above profileLayout path = true)
    (isFile : profileLayout path = false) (apart : ∀ file ∈ files, Apart path file.1)
    (keeps : ∀ u, Outside base d u → Laid layout u → inv u) : SafeOn Fresh tolerates inv
      (fun result u => match result with
        | .ok _ => Written base ((path, contents) :: files) d u
        | .error _ => Outside base d u ∧ Laid layout u ∧ tolerates u)
      (callWriter (.write (base ++ path) contents)) t := by
  obtain ⟨u, done, written⟩ := w.write at_ contents clear isFile apart
  apply safe_perform done (keeps t w.outside w.laid) written
  intro tolerated
  exact ⟨w.outside, w.laid, tolerated⟩

/-- Writing a record touches its directory only. Once it is done the directory holds the
record, unless a call failed or the metadata cannot be written. -/
theorem writeRecord_safe (record : ProfileRecord Bytes) (laid : Laid layout d)
    (at_ : RecordBase base) (keeps : ∀ u, Outside base d u → Laid layout u → inv u) :
    SafeOn Fresh tolerates inv
      (fun result u => Outside base d u ∧ Laid layout u ∧ match result with
        | .ok _ => Holds enc (look u base) record ∧
          enc.isRedacted record.metadata.provenance.source = true
        | .error _ => tolerates u ∨ enc.isRedacted record.metadata.provenance.source = false)
      (writeRecord enc base record) d := by
  have failed : ∀ u, Outside base d u ∧ Laid layout u ∧ tolerates u → Outside base d u ∧
      Laid layout u ∧ (tolerates u ∨ enc.isRedacted record.metadata.provenance.source = false) :=
    fun u h => ⟨h.1, h.2.1, .inl h.2.2⟩
  have start : Written base [] d d := ⟨.refl base d, laid, by simp⟩
  refine (safe_write start at_ rfl rfl (by simp) keeps).attempt ?_ fun _ => failed
  intro _ t₁ w₁
  refine safe_settle_bind ?_ ?_
  swap
  · intro e refused
    have plain : enc.isRedacted record.metadata.provenance.source = false := by
      by_contra redacted
      simp [failIf, redacted] at refused
    exact ⟨w₁.outside, w₁.laid, .inr plain⟩
  intro _ passed
  have redacted : enc.isRedacted record.metadata.provenance.source = true := by
    simpa using passed
  refine (safe_write w₁ at_ rfl rfl (by simp [apart_cons]) keeps).attempt ?_ fun _ => failed
  intro _ t₂ w₂
  refine (safe_write w₂ at_ rfl rfl (by simp [apart_cons]) keeps).attempt ?_ fun _ => failed
  intro _ t₃ w₃
  refine (safe_write w₃ at_ rfl rfl (by simp [apart_cons]) keeps).attempt ?_ fun _ => failed
  intro _ t₄ w₄
  refine (safe_write w₄ at_ rfl rfl (by simp [apart_cons]) keeps).attempt ?_ fun _ => failed
  intro _ t₅ w₅
  refine (safe_write w₅ at_ rfl rfl (by simp [apart_cons]) keeps).mono ?_
  intro result u done
  cases result with
  | error e => exact failed u done
  | ok _ =>
    refine ⟨done.outside, done.laid, ?_, redacted⟩
    have has := done.has
    simp only [List.forall_mem_cons, look_append] at has
    obtain ⟨patchIndex, metadata, patchSet, artifact, revision, source, -⟩ := has
    refine ⟨?_, source, revision, artifact, patchSet, metadata, patchIndex⟩
    exact isDir_of_look metadata

end Writing

end Mish.Profile
