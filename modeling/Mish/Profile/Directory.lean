import Mish.Profile.Operations

/-!
# Reconciliation of the profile directory

`reconcile_profile_directory` brings the repository up to the files that lie in a directory.
It is modelled as a program whose requests are what it asks of the directory, of the preflight
and of the repository.
-/

namespace Mish.Profile

open Interaction

variable {Bytes : Type}

/-! ## Names of files -/

/-- The name of an entry of a directory, which need not be UTF-8. -/
inductive FileName where
  | utf8 (name : String)
  | other (bytes : List UInt8) (invalid : ¬ (ByteArray.mk bytes.toArray).IsValidUTF8)
  deriving DecidableEq

/-- `Path::extension`: what follows the last dot, unless the name starts with that dot. -/
def extension {α : Type} [DecidableEq α] (dot : α) (name : List α) : Option (List α) :=
  match name.reverse.dropWhile (· ≠ dot) with
  | [] | [_] => none
  | _ => some (name.reverse.takeWhile (· ≠ dot)).reverse

def FileName.isYamlPath : FileName → Bool
  | .utf8 name =>
    let extension := extension '.' name.toList
    extension == some "yaml".toList || extension == some "yml".toList
  | .other bytes _ =>
    let extension := extension 0x2e bytes
    extension == some "yaml".toUTF8.toList || extension == some "yml".toUTF8.toList

def FileName.bytes : FileName → List UInt8
  | .utf8 name => name.toUTF8.toList
  | .other bytes _ => bytes

/-- `Path::file_name` of a path that is UTF-8. -/
def displayName (path : String) : String :=
  match ((pathComponents path).filter fun part => part ≠ "" ∧ part ≠ ".").getLast? with
  | none | some ".." => "Local profile"
  | some name => name

def profileFileName (label : String) (source : ProfileSubscriptionSummary) : String :=
  if source.sourceType = .localFile then source.display
  else
    let trimmed := trim label
    if ".yaml".toList.isSuffixOf trimmed.toList || ".yml".toList.isSuffixOf trimmed.toList then
      trimmed
    else trimmed ++ ".yaml"

/-! ## What is asked -/

inductive FileKind where
  | file | directory | symlink | other
  deriving DecidableEq

/-- `fs::symlink_metadata`, which does not follow links. -/
structure FileMetadata where
  kind : FileKind
  len : Nat

structure PreflightReport (Bytes : Type) where
  artifact : NormalizedArtifact
  normalizedBytes : Bytes
  provenanceReview : RuntimeProvenanceReview
  revision : ImmutableRevision
  source : ProfileSource
  sourceBytes : Bytes
  label : String
  hasWarnings : Bool

/-- Of the directory entries that `read_dir` names, some cannot be read. -/
inductive Query (Bytes : Type) where
  | tryAcquire
  | readCurrentGeneration
  | createDirAll
  | directoryMetadata
  | readDir
  | symlinkMetadata (name : FileName)
  | read (name : FileName)
  | preflight (label : String) (source : ProfileSource)
  | newId
  | now
  | edit (operation : Operation Bytes)
  /-- The order in which a hash map gives its entries. -/
  | iterate (records : List (String × ProfileRecord Bytes))

def Query.Reply : Query Bytes → Type
  | .tryAcquire | .createDirAll => Bool
  | .readCurrentGeneration => Except RepositoryError (Option (ProfileGeneration Bytes))
  | .directoryMetadata | .symlinkMetadata _ => Option FileMetadata
  | .readDir => Option (List (Option FileName))
  | .read _ => Option Bytes
  | .preflight _ _ => Option (PreflightReport Bytes)
  | .newId => ProfileId
  | .now => Timestamp
  | .edit _ => Except RepositoryError PUnit
  | .iterate _ => List (String × ProfileRecord Bytes)

inductive ProfileServiceError where
  | importError
  | previewNotFound
  | busy
  | repository (error : RepositoryError)

abbrev Reconcile (Bytes α : Type) :=
  ExceptT ProfileServiceError (Program (Query Bytes) Query.Reply) α

def ask (query : Query Bytes) : Reconcile Bytes query.Reply := ExceptT.lift (request query)

/-- `result?` -/
def check {α : Type} (result : Except RepositoryError α) : Reconcile Bytes α :=
  ExceptT.mk (pure (result.mapError .repository))

def edit (operation : Operation Bytes) : Reconcile Bytes PUnit := do
  let result : Except RepositoryError PUnit ← ask (.edit operation)
  check result

/-! ## The service -/

structure ProfileService (Bytes : Type) where
  enc : Encoding Bytes
  profileDirectory : String
  maxBytes : Nat
  /-- `SensitiveUrl::redacted` -/
  redacted : String → String

namespace ProfileService

variable (service : ProfileService Bytes) (observed : List (String × RevisionId))

def safeSummary : ProfileSource → ProfileSubscriptionSummary
  | .localFile path => ⟨displayName path, .localFile⟩
  | .https url => ⟨service.redacted url, .https⟩

def fileName (record : ProfileRecord Bytes) : String :=
  profileFileName record.metadata.label (service.safeSummary record.source)

/-- Of records with one file name the last is kept. -/
def recordsByFileName (records : List (ProfileRecord Bytes)) :
    List (String × ProfileRecord Bytes) :=
  records.foldl (fun map record => Assoc.insert (service.fileName record) record map) []

def intoRecord (report : PreflightReport Bytes) (id : ProfileId) (importedAt : Timestamp) :
    ProfileRecord Bytes where
  metadata := {
    artifact := report.artifact
    id
    label := report.label
    lastAttempt := some ⟨importedAt, .succeeded⟩
    lastSuccess := some ⟨report.artifact.fingerprint, report.revision.id, importedAt⟩
    provenance := ⟨importedAt, service.safeSummary report.source, report.revision.id⟩
    refresh := .default
    revision := report.revision
    runtimeProvenance := report.provenanceReview
    schemaVersion := profileSchemaVersion
    status := ⟨false, false, false, false, true, report.hasWarnings⟩ }
  normalizedBytes := report.normalizedBytes
  patches := .empty report.revision.id report.artifact.fingerprint
  source := report.source
  sourceBytes := report.sourceBytes

def bindAndApplyProfilePatches (normalizedSource : Bytes) (revision : RevisionId)
    (sourceFingerprint : Fingerprint) (patches : List ProfilePatch) :
    Except ProfilePatchError ProfilePatchSet := do
  let patchSet : ProfilePatchSet := ⟨sourceFingerprint, patches, profilePatchSchemaVersion,
    sourceFingerprint, revision⟩
  validatePatchSetShape patchSet
  let applied ← applyProfilePatches service.enc.format service.enc.sha256 normalizedSource revision
    sourceFingerprint patchSet
  return { patchSet with effectiveFingerprint := applied.effectiveFingerprint }

def markDirectoryProfileInvalid (record : ProfileRecord Bytes) : Reconcile Bytes PUnit := do
  let attemptedAt : Timestamp ← ask .now
  edit (.update { record with metadata := { record.metadata with
    lastAttempt := some ⟨attemptedAt, .failed⟩
    status := { record.metadata.status with
      error := true
      stale := true
      updating := false
      valid := record.metadata.lastSuccess.isSome } } })

/-- What becomes of a record when its file has been imported again. -/
def refreshed (current : ProfileRecord Bytes) (report : PreflightReport Bytes)
    (completedAt : Timestamp) : ProfileRecord Bytes :=
  let record := service.intoRecord report current.id completedAt
  let record := { record with metadata := { record.metadata with
    provenance := { record.metadata.provenance with
      importedAt := current.metadata.provenance.importedAt }
    status := { record.metadata.status with active := current.metadata.status.active } } }
  if current.source.sourceType = .https then
    { record with
      source := current.source
      metadata := { record.metadata with
        provenance := { record.metadata.provenance with
          source := service.safeSummary current.source }
        refresh := current.metadata.refresh } }
  else record

def replaceImported (current : ProfileRecord Bytes) (report : PreflightReport Bytes) :
    Reconcile Bytes PUnit := do
  let completedAt : Timestamp ← ask .now
  let record := service.refreshed current report completedAt
  match service.bindAndApplyProfilePatches record.normalizedBytes record.metadata.revision.id
      record.metadata.artifact.fingerprint current.patches.patches with
  | .ok patches =>
    let record := { record with patches }
    if record.source = current.source then edit (.update record)
    else edit (.replaceSource record)
  | .error _ => markDirectoryProfileInvalid current

/-- What a file leads to, and whether it leads to a change. -/
def importFile (fileName : String) (current : Option (ProfileRecord Bytes)) :
    Reconcile Bytes Bool := do
  let source : ProfileSource := .localFile (service.profileDirectory ++ "/" ++ fileName)
  if service.enc.sourceIsValid source then
    let report : Option (PreflightReport Bytes) ← ask (.preflight fileName source)
    match current, report with
    | none, some report =>
      let id : ProfileId ← ask .newId
      let importedAt : Timestamp ← ask .now
      edit (.save (service.intoRecord report id importedAt))
      return true
    | some current, some report =>
      service.replaceImported current report
      return true
    | some current, none =>
      markDirectoryProfileInvalid current
      return true
    | none, none => return false
  else return false

/-! ## The scan -/

/-- The records whose files have not been met, the revisions that have, and whether something
has changed. -/
structure Progress (Bytes : Type) where
  records : List (String × ProfileRecord Bytes)
  observed : List (String × RevisionId)
  changed : Bool

def reconcileFile (progress : Progress Bytes)
    (fileName : String) (sourceBytes : Bytes) : Reconcile Bytes (Progress Bytes) := do
  let sourceRevision := service.enc.hashBytes (.bytes sourceBytes)
  let current := progress.records.lookup fileName
  let records := Assoc.remove fileName progress.records
  let nextObserved := Assoc.insert fileName sourceRevision progress.observed
  if observed.lookup fileName = some sourceRevision ∨
      current.any (fun record => sourceRevision == record.metadata.revision.id &&
        !record.metadata.status.error) then
    return ⟨records, nextObserved, progress.changed⟩
  else
    let changed ← service.importFile fileName current
    return ⟨records, nextObserved, progress.changed || changed⟩

/-- A regular file that is not too long. -/
def fits : Option FileMetadata → Bool
  | some metadata => metadata.kind == .file && metadata.len ≤ service.maxBytes
  | none => false

def reconcilePath (progress : Progress Bytes)
    (path : FileName) : Reconcile Bytes (Progress Bytes) := do
  let metadata : Option FileMetadata ← ask (.symlinkMetadata path)
  if service.fits metadata then
    match path with
    | .other _ _ => return progress
    | .utf8 fileName =>
      let contents : Option Bytes ← ask (.read path)
      match contents with
      | none => return progress
      | some sourceBytes => service.reconcileFile observed progress fileName sourceBytes
  else return progress

/-- The YAML files that the directory lists, in order. An entry that is not read is dropped. -/
def yamlPaths (listing : List (Option FileName)) : List FileName :=
  ((listing.filterMap id).filter FileName.isYamlPath).mergeSort fun left right =>
    left.bytes ≤ right.bytes

def directoryIsSafe : Option FileMetadata → Except RepositoryError Unit
  | none => .error .readFailed
  | some metadata => failIf (metadata.kind ≠ .directory) .unsafeStoragePath

def scanDirectory : Reconcile Bytes (List FileName) := do
  let created : Bool ← ask .createDirAll
  check (failIf (!created) .atomicWriteFailed)
  let metadata : Option FileMetadata ← ask .directoryMetadata
  check (directoryIsSafe metadata)
  let listing : Option (List (Option FileName)) ← ask .readDir
  check ((listing.map yamlPaths).elim (.error .readFailed) .ok)

def currentRecords : Reconcile Bytes (List (ProfileRecord Bytes)) := do
  let generation : Except RepositoryError (Option (ProfileGeneration Bytes)) ←
    ask .readCurrentGeneration
  let generation ← check generation
  return (generation.map ProfileGeneration.profiles).getD []

/-- What becomes of a record whose file has not been met. -/
def reconcileMissing (progress : List (String × RevisionId) × Bool)
    (entry : String × ProfileRecord Bytes) :
    Reconcile Bytes (List (String × RevisionId) × Bool) := do
  let (fileName, record) := entry
  let status := record.metadata.status
  if status.active then
    if !status.error || !status.stale then
      edit (.update { record with metadata := { record.metadata with
        status := { status with error := true, stale := true } } })
      return (Assoc.remove fileName progress.1, true)
    else return (Assoc.remove fileName progress.1, progress.2)
  else
    edit (.delete record.id)
    return (Assoc.remove fileName progress.1, true)

/-- The result says whether something has changed; with it goes what is observed from now
on. -/
def reconcileProfileDirectory : Reconcile Bytes (List (String × RevisionId) × Bool) := do
  let free : Bool ← ask .tryAcquire
  ExceptT.mk (pure (failIf (!free) .busy))
  let records ← currentRecords
  let paths ← scanDirectory
  let progress ← paths.foldlM (service.reconcilePath observed)
    ⟨service.recordsByFileName records, [], false⟩
  let missing : List (String × ProfileRecord Bytes) ← ask (.iterate progress.records)
  missing.foldlM reconcileMissing (progress.observed, progress.changed)

end ProfileService

end Mish.Profile
