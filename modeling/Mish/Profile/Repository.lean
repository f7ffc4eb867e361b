import Mathlib.Data.List.Sort
import Mathlib.Data.String.Basic
import Mish.FileSystem.Writer
import Mish.Profile.Record

/-!
# The profile repository

The store on disk has two halves. A *mirror* keeps one directory for each profile; a
*generation* is a directory with all profiles of one moment, and the pointer `current.json`
names the one that is published. Readers take the node that stands at a path where the
source takes the path. Everything that changes the disk goes through the calls of the atomic
writer, so a program here can be stopped in front of any of them, and each of them may fail.
-/

namespace Mish.Profile

open FileSystem

variable {Bytes : Type}

def generationsRoot : Path := ["generations"]

def currentGenerationPath : Path := ["current.json"]

def profilesRoot : Path := ["profiles"]

def stagingName (id : String) : String := ".staging-" ++ id

def deletingName (id : String) : String := ".deleting-" ++ id

def generationPath (name : String) : Path := generationsRoot ++ [name]

def mirrorPath (name : String) : Path := profilesRoot ++ [name]

def profilePath (id : ProfileId) : Path := mirrorPath id.value

def recordFile (fingerprint : String) : String := fingerprint ++ ".yaml"

def patchFile (fingerprint : String) : String := fingerprint ++ ".json"

/-- The name is neither in use nor the rest of a name in use. -/
def Fresh (d : Disk (Contents Bytes)) (name : String) : Prop :=
  isCanonicalUuid name = true ∧
    ∀ root ∈ [generationsRoot, profilesRoot], ∀ used ∈ [name, stagingName name, deletingName name],
      look d (root ++ [used]) = none

/-! ## Reading -/

section Reading

variable (enc : Encoding Bytes) (d node : Disk (Contents Bytes)) (component : RepositoryComponent)

def readBytesBounded (maxBytes : Nat) : Except RepositoryError (Contents Bytes) :=
  match node with
  | none => .error (.corruptData component)
  | some (.directory _) => .error .unsafeStoragePath
  | some (.file contents) =>
    if maxBytes < enc.size contents then .error (.corruptData component) else .ok contents

/-- A document of the kind that is asked for. -/
def readJsonBounded {α : Type} (select : Document → Option α) (node : Disk (Contents Bytes))
    (component : RepositoryComponent) (maxBytes : Nat) : Except RepositoryError α := do
  match ← readBytesBounded enc node component maxBytes with
  | .bytes _ => throw (.corruptData component)
  | .document document =>
    match select document with
    | none => throw (.corruptData component)
    | some value => return value

def readBytes : Except RepositoryError (Contents Bytes) :=
  readBytesBounded enc node component maxPersistedFileBytes

def readJson {α : Type} (select : Document → Option α) (node : Disk (Contents Bytes))
    (component : RepositoryComponent) : Except RepositoryError α :=
  readJsonBounded enc select node component maxPersistedFileBytes

/-- The files of a revision and of an artifact never hold a document. -/
def readRaw : Except RepositoryError Bytes := do
  match ← readBytes enc node component with
  | .bytes bytes => return bytes
  | .document _ => throw (.corruptData component)

def Document.asMetadata : Document → Option ProfileMetadata
  | .metadata value => some value
  | _ => none

def Document.asSource : Document → Option ProfileSource
  | .source value => some value
  | _ => none

def Document.asPatches : Document → Option ProfilePatchSet
  | .patches value => some value
  | _ => none

def Document.asPatchPointer : Document → Option PatchSetPointer
  | .patchPointer value => some value
  | _ => none

def Document.asManifest : Document → Option GenerationManifest
  | .manifest value => some value
  | _ => none

def Document.asPointer : Document → Option GenerationPointer
  | .pointer value => some value
  | _ => none

def ensureDirectory : Except RepositoryError Unit :=
  match node with
  | some (.directory _) => .ok ()
  | _ => .error (.corruptData component)

def migrateLegacyMetadata (metadata : ProfileMetadata) : ProfileMetadata :=
  if metadata.schemaVersion ≠ 1 then metadata
  else { metadata with
    runtimeProvenance :=
      migratedRuntimeProvenance metadata.revision.id metadata.artifact.fingerprint
    schemaVersion := profileSchemaVersion }

def validatePersistedMetadata (metadata : ProfileMetadata) (expectedId : ProfileId) :
    Except RepositoryError Unit := do
  failIf (metadata.schemaVersion ≠ profileSchemaVersion)
    (.unsupportedSchema profileSchemaVersion metadata.schemaVersion)
  failIf (metadata.id ≠ expectedId) (.corruptData .metadata)
  failIf (metadata.artifact.schemaVersion ≠ normalizedArtifactSchemaVersion)
    (.unsupportedSchema normalizedArtifactSchemaVersion metadata.artifact.schemaVersion)
  failIf (!isSha256Hex metadata.revision.id || !isSha256Hex metadata.artifact.fingerprint ||
      !isSha256Hex metadata.artifact.revisionId)
    (.corruptData .metadata)
  failIf (!metadata.runtimeProvenance.isBoundTo metadata.revision.id metadata.artifact.fingerprint)
    .integrityMismatch

def loadPatchSet (profile : Disk (Contents Bytes)) (metadata : ProfileMetadata) :
    Except RepositoryError ProfilePatchSet := do
  if (look profile ["patches", "index.json"]).isSome then
    let pointer ← readJson enc Document.asPatchPointer (look profile ["patches", "index.json"])
      .patches
    let contents ← readBytes enc (look profile ["patches", "sets", patchFile pointer.fingerprint])
      .patches
    failIf (enc.hashBytes contents ≠ pointer.fingerprint) .integrityMismatch
    match contents with
    | .document (.patches patches) => return patches
    | _ => throw (.corruptData .patches)
  else if (look profile ["patches", "patches.json"]).isSome then
    readJson enc Document.asPatches (look profile ["patches", "patches.json"]) .patches
  else
    return .empty metadata.revision.id metadata.artifact.fingerprint

def loadFromProfilePath (id : ProfileId) (profile : Disk (Contents Bytes)) :
    Except RepositoryError (ProfileRecord Bytes) := do
  ensureDirectory profile .metadata
  let metadata ← readJson enc Document.asMetadata (look profile ["metadata.json"]) .metadata
  let metadata := migrateLegacyMetadata metadata
  validatePersistedMetadata metadata id
  let source ← readJson enc Document.asSource (look profile ["source", "source.json"])
    .sourceDescriptor
  failIf (!enc.sourceIsValid source) (.corruptData .sourceDescriptor)
  let sourceBytes ← readRaw enc
    (look profile ["source", "revisions", recordFile metadata.revision.id]) .immutableRevision
  let normalizedBytes ← readRaw enc
    (look profile ["artifacts", recordFile metadata.artifact.fingerprint]) .normalizedArtifact
  let patches ← loadPatchSet enc profile metadata
  let record : ProfileRecord Bytes := ⟨metadata, normalizedBytes, patches, source, sourceBytes⟩
  validateRecord enc record
  return record

def validateGenerationId (id : ProfileGenerationId) (component : RepositoryComponent) :
    Except RepositoryError Unit :=
  failIf (!isCanonicalUuid id) (.corruptData component)

/-- The ids of profiles are canonical by their type. -/
def validateGenerationManifest (generation : Disk (Contents Bytes))
    (expectedId : ProfileGenerationId) : Except RepositoryError Unit := do
  let manifest ← readJsonBounded enc Document.asManifest (look generation ["manifest.json"])
    .generationManifest maxGenerationManifestBytes
  failIf (manifest.schemaVersion ≠ profileGenerationSchemaVersion)
    (.unsupportedSchema profileGenerationSchemaVersion manifest.schemaVersion)
  failIf (manifest.generationId ≠ expectedId ∨ maxGenerationProfiles < manifest.profileIds.length ∨
      ¬ (manifest.profileIds.map ProfileId.value).IsChain (· < ·))
    (.corruptData .generationManifest)
  validateGenerationId manifest.generationId .generationManifest
  ensureDirectory (look generation ["profiles"]) .generationManifest

/-- The names in a directory, each once. -/
def entryNames : List String :=
  match node with
  | some (.directory entries) => (entries.map Prod.fst).dedup
  | _ => []

/-- The failures are all the same one, so that their order does not matter. -/
def validateGenerationEntries (profiles : Disk (Contents Bytes)) (expected : List ProfileId) :
    Except RepositoryError Unit :=
  let actual := entryNames profiles
  failIf (maxGenerationProfiles < actual.length ∨
      (∃ name ∈ actual, isCanonicalUuid name = false ∨ ¬ IsDir profiles [name]) ∨
      actual.mergeSort (· ≤ ·) ≠ expected.map ProfileId.value)
    (.corruptData .generationManifest)

structure ProfileGeneration (Bytes : Type) where
  id : ProfileGenerationId
  profiles : List (ProfileRecord Bytes)
  deriving DecidableEq

def readGenerationAt (generation : Disk (Contents Bytes)) (id : ProfileGenerationId) :
    Except RepositoryError (ProfileGeneration Bytes) := do
  ensureDirectory generation .generationManifest
  validateGenerationManifest enc generation id
  let manifest ← readJsonBounded enc Document.asManifest (look generation ["manifest.json"])
    .generationManifest maxGenerationManifestBytes
  ensureDirectory (look generation ["profiles"]) .generationManifest
  validateGenerationEntries (look generation ["profiles"]) manifest.profileIds
  let profiles ← manifest.profileIds.mapM fun profileId =>
    loadFromProfilePath enc profileId (look generation ["profiles", profileId.value])
  return ⟨id, profiles⟩

def readGenerationPointer : Except RepositoryError GenerationPointer := do
  failIf (look d currentGenerationPath).isNone (.corruptData .generationPointer)
  let pointer ← readJsonBounded enc Document.asPointer (look d currentGenerationPath)
    .generationPointer maxGenerationManifestBytes
  failIf (pointer.schemaVersion ≠ profileGenerationSchemaVersion)
    (.unsupportedSchema profileGenerationSchemaVersion pointer.schemaVersion)
  validateGenerationId pointer.generationId .generationPointer
  return pointer

/-- Nothing is written between the two readings of the pointer, so that the second is left
out. -/
def readCurrentGeneration : Except RepositoryError (Option (ProfileGeneration Bytes)) := do
  if d.isNone ∨ ((look d currentGenerationPath).isNone ∧ (look d generationsRoot).isNone) then
    return none
  else
    let pointer ← readGenerationPointer enc d
    let generation ← readGenerationAt enc (look d (generationPath pointer.generationId))
      pointer.generationId
    return some generation

def currentRecordsForWrite : Except RepositoryError (List (ProfileRecord Bytes)) := do
  let generation ← readCurrentGeneration enc d
  return (generation.map ProfileGeneration.profiles).getD []

/-- Entries in the making or in the going are not listed. -/
def isTransient (name : String) : Bool :=
  ".staging-".toList.isPrefixOf name.toList || ".deleting-".toList.isPrefixOf name.toList

/-- The metadata in one entry of the mirror. -/
def listEntry (profiles : Disk (Contents Bytes)) (name : String) :
    Except RepositoryError ProfileMetadata := do
  match ProfileId.parse name with
  | none => throw (.corruptData .metadata)
  | some id =>
    let metadata ← readJson enc Document.asMetadata (look profiles [name, "metadata.json"])
      .metadata
    let metadata := migrateLegacyMetadata metadata
    validatePersistedMetadata metadata id
    return metadata

def listMetadata : Except RepositoryError (List ProfileMetadata) := do
  match look d profilesRoot with
  | none => return []
  | some (.file _) => throw .readFailed
  | some (.directory entries) =>
    let names := (entryNames (some (.directory entries))).filter fun name => !isTransient name
    let profiles ← names.mapM (listEntry enc (look d profilesRoot))
    return profiles.mergeSort fun left right => left.id.value ≤ right.id.value

def load (id : ProfileId) (d : Disk (Contents Bytes)) :
    Except RepositoryError (ProfileRecord Bytes) :=
  if (look d (profilePath id)).isNone then .error .notFound
  else loadFromProfilePath enc id (look d (profilePath id))

end Reading

/-! ## Writing -/

abbrev Repository (Bytes α : Type) := ExceptT RepositoryError (Action (Contents Bytes)) α

/-- A result that does not depend on the disk. -/
def settle {α : Type} (result : Except RepositoryError α) : Repository Bytes α :=
  ExceptT.mk (pure result)

/-- A call of the writer, whose failure is an `AtomicWriteFailed`. -/
def callWriter (call : Call (Contents Bytes)) : Repository Bytes PUnit :=
  perform .atomicWriteFailed call

def createPrivateDir (path : Path) : Repository Bytes PUnit := callWriter (.createPrivateDir path)

def writeDocument (path : Path) (document : Document) : Repository Bytes PUnit :=
  callWriter (.write path (.document document))

def writeBytes (path : Path) (bytes : Bytes) : Repository Bytes PUnit :=
  callWriter (.write path (.bytes bytes))

def syncDirectory (path : Path) : Repository Bytes PUnit := callWriter (.syncDirectory path)

def rename (source target : Path) : Repository Bytes PUnit := callWriter (.rename source target)

/-- `let _ = self.writer.remove_dir_all(path)` -/
def discardDirectory (path : Path) : Repository Bytes PUnit :=
  tryCatch (callWriter (.removeDirAll path)) fun _ => pure ⟨⟩

section Writing

variable (enc : Encoding Bytes) (path : Path) (record : ProfileRecord Bytes)
  (records : List (ProfileRecord Bytes))

/-- The metadata is written as text before any of the files is. -/
def writeRevisionArtifactAndMetadata :
    Repository Bytes PUnit := do
  let metadata := record.metadata
  settle (failIf (!enc.isRedacted metadata.provenance.source) (.corruptData .metadata))
  let patchFingerprint := enc.hashBytes (.document (.patches record.patches))
  writeBytes (path ++ ["source", "revisions", recordFile metadata.revision.id]) record.sourceBytes
  writeBytes (path ++ ["artifacts", recordFile metadata.artifact.fingerprint])
    record.normalizedBytes
  writeDocument (path ++ ["patches", "sets", patchFile patchFingerprint]) (.patches record.patches)
  writeDocument (path ++ ["metadata.json"]) (.metadata metadata)
  writeDocument (path ++ ["patches", "index.json"]) (.patchPointer ⟨patchFingerprint⟩)

def writeRecord : Repository Bytes PUnit := do
  writeDocument (path ++ ["source", "source.json"]) (.source record.source)
  writeRevisionArtifactAndMetadata enc path record

def prepareRoot : Repository Bytes PUnit := do
  createPrivateDir []
  createPrivateDir profilesRoot

def prepareGenerationRoot : Repository Bytes PUnit := do
  createPrivateDir []
  createPrivateDir generationsRoot

structure StagedProfileGeneration where
  id : ProfileGenerationId

def sortById : List (ProfileRecord Bytes) :=
  records.mergeSort fun left right => left.id.value ≤ right.id.value

/-- The part of staging that is undone when it fails. -/
def fillStaging (id : ProfileGenerationId) (ordered : List (ProfileRecord Bytes)) :
    Repository Bytes PUnit := do
  let staging := generationPath (stagingName id)
  createPrivateDir staging
  createPrivateDir (staging ++ ["profiles"])
  ordered.forM fun record => writeRecord enc (staging ++ ["profiles", record.id.value]) record
  writeDocument (staging ++ ["manifest.json"])
    (.manifest ⟨id, ordered.map ProfileRecord.id, profileGenerationSchemaVersion⟩)
  syncDirectory (staging ++ ["profiles"])
  syncDirectory staging

def stageGeneration : Repository Bytes StagedProfileGeneration := do
  prepareGenerationRoot
  settle (failIf (maxGenerationProfiles < records.length) (.corruptData .generationManifest))
  let ordered := sortById records
  settle (failIf (¬ (ordered.map ProfileRecord.id).IsChain (· ≠ ·))
    (.corruptData .generationManifest))
  settle (ordered.forM (validateRecord enc))
  let id ← newName
  tryCatch (fillStaging enc id ordered) fun error => do
    discardDirectory (generationPath (stagingName id))
    throw error
  return ⟨id⟩

def publishGeneration (staged : StagedProfileGeneration) :
    Repository Bytes ProfileGenerationId := do
  prepareGenerationRoot
  let d ← inspect
  let staging := look d (generationPath (stagingName staged.id))
  settle (ensureDirectory staging .generationManifest)
  settle (failIf (look d (generationPath staged.id)).isSome .atomicWriteFailed)
  let _ ← settle (readGenerationAt enc staging staged.id)
  rename (generationPath (stagingName staged.id)) (generationPath staged.id)
  syncDirectory generationsRoot
  writeDocument currentGenerationPath (.pointer ⟨staged.id, profileGenerationSchemaVersion⟩)
  return staged.id

def publishRecords : Repository Bytes PUnit := do
  let staged ← stageGeneration enc records
  let _ ← publishGeneration enc staged

/-- A new directory of the mirror gets its name once it is complete. -/
def writeNewMirror : Repository Bytes PUnit := do
  let id ← newName
  let staging := mirrorPath (stagingName id)
  createPrivateDir staging
  tryCatch (writeRecord enc staging record) fun error => do
    discardDirectory staging
    throw error
  rename staging path
  syncDirectory profilesRoot

def save : Repository Bytes PUnit := do
  settle (validateRecord enc record)
  let current ← settle (currentRecordsForWrite enc (← inspect))
  settle (failIf (∃ existing ∈ current, existing.id = record.id) .alreadyExists)
  prepareRoot
  settle (failIf (look (← inspect) (profilePath record.id)).isSome .alreadyExists)
  writeNewMirror enc (profilePath record.id) record
  publishRecords enc (current ++ [record])

def writeProfileMirror : Repository Bytes PUnit := do
  if (look (← inspect) path).isSome then writeRecord enc path record
  else writeNewMirror enc path record

/-- The place of a profile in a list of records. -/
def position (id : ProfileId) : Except RepositoryError Nat :=
  match records.findIdx? (·.id = id) with
  | none => .error .notFound
  | some index => .ok index

/-- `update` and `replace_source`: the former takes no new source. -/
def replaceRecord (sameSource : Bool) (record : ProfileRecord Bytes) : Repository Bytes PUnit := do
  settle (validateRecord enc record)
  let current ← settle (currentRecordsForWrite enc (← inspect))
  let index ← settle (position current record.id)
  settle (failIf (sameSource ∧ (current[index]?).map ProfileRecord.source ≠ some record.source)
    .integrityMismatch)
  prepareRoot
  writeProfileMirror enc (profilePath record.id) record
  publishRecords enc (current.set index record)

def update : Repository Bytes PUnit := replaceRecord enc true record

def replaceSource : Repository Bytes PUnit :=
  replaceRecord enc false record

/-- The mirror's directory is renamed away, and then removed. -/
def dropMirror : Repository Bytes PUnit := do
  let id ← newName
  let deleting := mirrorPath (deletingName id)
  rename path deleting
  syncDirectory profilesRoot
  callWriter (.removeDirAll deleting)
  syncDirectory profilesRoot

/-- There may be no directory to drop. -/
def dropMirrorOf (d : Disk (Contents Bytes)) (id : ProfileId) : Repository Bytes PUnit :=
  if (look d (profilePath id)).isSome then dropMirror (profilePath id) else pure ⟨⟩

def delete (id : ProfileId) : Repository Bytes PUnit := do
  let d ← inspect
  let current ← settle (currentRecordsForWrite enc d)
  let index ← settle (position current id)
  dropMirrorOf d id
  publishRecords enc (current.eraseIdx index)

end Writing

end Mish.Profile
