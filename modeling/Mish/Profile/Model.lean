import Mathlib.Data.List.Basic

/-!
# Profiles

What the profile store and its register share: profile ids, and the errors of the
repository.
-/

namespace Mish.Profile

/-- The texts `Uuid` writes: 32 lower-case hexadecimal digits in groups of 8, 4, 4,
4 and 12. -/
def isCanonicalUuid (value : String) : Bool :=
  value.toList.length == 36 && value.toList.zipIdx.all fun (c, i) =>
    if i ∈ [8, 13, 18, 23] then c == '-'
    else ('0' ≤ c && c ≤ '9') || ('a' ≤ c && c ≤ 'f')

/-- A profile's id. -/
structure ProfileId where
  value : String
  canonical : isCanonicalUuid value = true
  deriving DecidableEq

/-- `Uuid::parse_str` takes other spellings too, but the text has to be the one
that `Uuid` writes. -/
def ProfileId.parse (value : String) : Option ProfileId :=
  if canonical : isCanonicalUuid value = true then some ⟨value, canonical⟩ else none

theorem ProfileId.parse_isSome {value} :
    (ProfileId.parse value).isSome ↔ isCanonicalUuid value = true := by
  unfold ProfileId.parse
  split <;> simp_all

inductive RepositoryComponent where
  | metadata | sourceDescriptor | immutableRevision | normalizedArtifact | patches
  | generationPointer | generationManifest
  deriving DecidableEq

inductive RepositoryError where
  | notFound
  | alreadyExists
  | unsafeStoragePath
  | unsupportedSchema (expected found : Nat)
  | corruptData (component : RepositoryComponent)
  | integrityMismatch
  | readFailed
  | atomicWriteFailed
  | staleGeneration
  deriving DecidableEq

end Mish.Profile
