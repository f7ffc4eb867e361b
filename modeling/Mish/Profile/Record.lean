import Mish.Profile.Patch

/-!
# Profile records

What the store keeps of a profile, and when a record is one (`validateRecord`). How records
are written as text is left to an `Encoding`: a file holds either bytes or a document.
-/

namespace Mish.Profile

def profileSchemaVersion : Nat := 2
def normalizedArtifactSchemaVersion : Nat := 1
def profileSubscriptionSummaryMaxDisplayBytes : Nat := 255

abbrev Timestamp := Nat

inductive ProfileSourceType where
  | localFile | https
  deriving DecidableEq

inductive ProfileSource where
  | localFile (path : String)
  | https (url : String)
  deriving DecidableEq

def ProfileSource.sourceType : ProfileSource → ProfileSourceType
  | .localFile _ => .localFile
  | .https _ => .https

structure ProfileSubscriptionSummary where
  display : String
  sourceType : ProfileSourceType
  deriving DecidableEq

structure Provenance where
  importedAt : Timestamp
  source : ProfileSubscriptionSummary
  sourceRevision : RevisionId
  deriving DecidableEq

structure ImmutableRevision where
  id : RevisionId
  deriving DecidableEq

structure NormalizedArtifact where
  fingerprint : Fingerprint
  revisionId : RevisionId
  schemaVersion : Nat
  deriving DecidableEq

structure RuntimeProvenanceReview where
  artifactFingerprint : Fingerprint
  sourceRevision : RevisionId
  deriving DecidableEq

def RuntimeProvenanceReview.isBoundTo (review : RuntimeProvenanceReview) (revision : RevisionId)
    (fingerprint : Fingerprint) : Bool :=
  review.sourceRevision == revision && review.artifactFingerprint == fingerprint

def migratedRuntimeProvenance (revision : RevisionId) (fingerprint : Fingerprint) :
    RuntimeProvenanceReview where
  artifactFingerprint := fingerprint
  sourceRevision := revision

inductive AttemptOutcome where
  | succeeded | failed
  deriving DecidableEq

structure ProfileAttempt where
  attemptedAt : Timestamp
  outcome : AttemptOutcome
  deriving DecidableEq

structure ProfileSuccess where
  fingerprint : Fingerprint
  revisionId : RevisionId
  succeededAt : Timestamp
  deriving DecidableEq

inductive ProfileRefreshPolicy where
  | off | sixHours | twelveHours | daily | weekly
  deriving DecidableEq

structure ProfileRefreshState where
  consecutiveFailures : Nat
  (lastFailureAt lastSuccessAt nextRunAt : Option Timestamp)
  policy : ProfileRefreshPolicy
  deriving DecidableEq

def ProfileRefreshState.default : ProfileRefreshState where
  consecutiveFailures := 0
  lastFailureAt := none
  lastSuccessAt := none
  nextRunAt := none
  policy := .off

structure ProfileStatus where
  (active error stale updating valid warning : Bool)
  deriving DecidableEq

structure ProfileMetadata where
  artifact : NormalizedArtifact
  id : ProfileId
  label : String
  lastAttempt : Option ProfileAttempt
  lastSuccess : Option ProfileSuccess
  provenance : Provenance
  refresh : ProfileRefreshState
  revision : ImmutableRevision
  runtimeProvenance : RuntimeProvenanceReview
  schemaVersion : Nat
  status : ProfileStatus
  deriving DecidableEq

structure ProfileRecord (Bytes : Type) where
  metadata : ProfileMetadata
  normalizedBytes : Bytes
  patches : ProfilePatchSet
  source : ProfileSource
  sourceBytes : Bytes
  deriving DecidableEq

def ProfileRecord.id {Bytes : Type} (record : ProfileRecord Bytes) : ProfileId := record.metadata.id

def ProfilePatchSet.empty (sourceRevision : RevisionId) (sourceFingerprint : Fingerprint) :
    ProfilePatchSet where
  effectiveFingerprint := sourceFingerprint
  patches := []
  schemaVersion := profilePatchSchemaVersion
  sourceFingerprint := sourceFingerprint
  sourceRevision := sourceRevision

/-! ## Files -/

abbrev ProfileGenerationId := String

structure GenerationPointer where
  generationId : ProfileGenerationId
  schemaVersion : Nat
  deriving DecidableEq

structure GenerationManifest where
  generationId : ProfileGenerationId
  profileIds : List ProfileId
  schemaVersion : Nat

structure PatchSetPointer where
  fingerprint : Fingerprint

/-- The documents the store writes as JSON. -/
inductive Document where
  | source (source : ProfileSource)
  | metadata (metadata : ProfileMetadata)
  | patches (patches : ProfilePatchSet)
  | patchPointer (pointer : PatchSetPointer)
  | manifest (manifest : GenerationManifest)
  | pointer (pointer : GenerationPointer)

inductive Contents (Bytes : Type) where
  | bytes (bytes : Bytes)
  | document (document : Document)

def profileGenerationSchemaVersion : Nat := 1
def maxGenerationProfiles : Nat := 1024
def maxGenerationManifestBytes : Nat := 128 * 1024
def maxPersistedFileBytes : Nat := 8 * 1024 * 1024

/-- How documents become text: its digest and its length; with what the parser of URLs says
of a source and of the summary of one. -/
structure Encoding (Bytes : Type) where
  format : Format Bytes
  sha256 : String → String
  documentDigest : Document → Fingerprint
  size : Contents Bytes → Nat
  (urlIsValid urlIsRedacted : String → Bool)
  /-- The text of a pointer is as long as its UUID and a few words. -/
  pointer_size : ∀ id, isCanonicalUuid id = true →
    size (.document (.pointer ⟨id, profileGenerationSchemaVersion⟩)) ≤ maxGenerationManifestBytes

variable {Bytes : Type} (enc : Encoding Bytes)

/-- `hash_bytes` of what a file holds -/
def Encoding.hashBytes : Contents Bytes → Fingerprint
  | .bytes bytes => enc.format.fingerprint bytes
  | .document document => enc.documentDigest document

def isSha256Hex (value : String) : Bool :=
  value.toList.length == 64 &&
    value.toList.all fun c => ('0' ≤ c && c ≤ '9') || ('a' ≤ c && c ≤ 'f')

def pathComponents (path : String) : List String := (path.toList.splitOn '/').map String.ofList

/-- An absolute path without `..` in it, or a URL that is accepted. -/
def Encoding.sourceIsValid : ProfileSource → Bool
  | .localFile path => path.toList.head? == some '/' && !(pathComponents path).contains ".."
  | .https url => enc.urlIsValid url

/-- A summary that is not redacted cannot be written, nor the metadata it is part of. -/
def Encoding.isRedacted (summary : ProfileSubscriptionSummary) : Bool :=
  if summary.display.isEmpty ||
    profileSubscriptionSummaryMaxDisplayBytes < summary.display.utf8ByteSize ||
    hasControl summary.display
  then false
  else match summary.sourceType with
    | .localFile =>
      !summary.display.toList.any (['/', '\\', ':', '?', '#'].contains ·) &&
        !summary.display.toList.tails.any ("..".toList.isPrefixOf ·)
    | .https => enc.urlIsRedacted summary.display

/-- `if condition { return Err(error) }` -/
def failIf {ε : Type} (condition : Prop) [Decidable condition] (error : ε) : Except ε Unit :=
  if condition then .error error else .ok ()

@[simp] theorem failIf_ok {ε : Type} {condition : Prop} [Decidable condition] {error : ε}
    {nothing} : failIf condition error = .ok nothing ↔ ¬ condition := by
  unfold failIf
  split <;> simp_all

/-- The check of the id is part of its type. -/
def validateRecord (record : ProfileRecord Bytes) : Except RepositoryError Unit := do
  let metadata := record.metadata
  let artifact := metadata.artifact
  let revision := metadata.revision.id
  failIf (metadata.schemaVersion ≠ profileSchemaVersion)
    (.unsupportedSchema profileSchemaVersion metadata.schemaVersion)
  failIf (artifact.schemaVersion ≠ normalizedArtifactSchemaVersion)
    (.unsupportedSchema normalizedArtifactSchemaVersion artifact.schemaVersion)
  failIf (!isSha256Hex revision || !isSha256Hex artifact.fingerprint ||
      !isSha256Hex artifact.revisionId || !enc.sourceIsValid record.source)
    .integrityMismatch
  failIf (enc.hashBytes (.bytes record.sourceBytes) ≠ revision ∨
      enc.hashBytes (.bytes record.normalizedBytes) ≠ artifact.fingerprint ∨
      artifact.revisionId ≠ revision ∨
      !metadata.runtimeProvenance.isBoundTo revision artifact.fingerprint)
    .integrityMismatch
  failIf (record.patches.schemaVersion ≠ profilePatchSchemaVersion)
    (.unsupportedSchema profilePatchSchemaVersion record.patches.schemaVersion)
  failIf (!isSha256Hex record.patches.sourceRevision ||
      !isSha256Hex record.patches.sourceFingerprint ||
      !isSha256Hex record.patches.effectiveFingerprint)
    .integrityMismatch
  failIf (!(validatePatchSetShape record.patches).isOk) (.corruptData .patches)
  failIf (metadata.status.valid &&
      (!record.patches.isBoundTo revision artifact.fingerprint ||
        !(applyProfilePatches enc.format enc.sha256 record.normalizedBytes revision
          artifact.fingerprint record.patches).isOk))
    .integrityMismatch

end Mish.Profile
