import Mish.StateMachine.Kernel

/-!
# Update candidates

What the updater knows about a release, and what it publishes. The SHA-256 digest is a
parameter wherever it is used.
-/

namespace Mish.Updater

inductive UpdateChannel where
  | alpha | stable
  deriving DecidableEq

inductive UpdatePhase where
  | idle | checking | available | downloading | verifying | ready | preparingMaintenance
  | installingIntent | relaunching | recovering | completed | failed | cancelled
  deriving DecidableEq

structure UpdateProgress where
  (downloadedBytes totalBytes : Nat)
  deriving DecidableEq

inductive UpdaterError where
  | artifactDigestMismatch | artifactIdentityMismatch | artifactSignatureInvalid
  | artifactSignatureMismatch | artifactSizeMismatch | channelMismatch | downgradeRejected
  | equalVersionRejected | invalidArtifactUrl | invalidMetadata | invalidPublicKey
  | invalidSourceIdentity | malformedInstalledVersion | malformedUpdateVersion | metadataReplay
  | metadataSignatureInvalid | missingArtifactSignature | missingMetadataSignature
  | versionDigestConflict | wrongChannelVersion
  deriving DecidableEq

def UpdaterError.code : UpdaterError → String
  | .artifactDigestMismatch => "artifact-digest-mismatch"
  | .artifactIdentityMismatch => "artifact-identity-mismatch"
  | .artifactSignatureInvalid => "artifact-signature-invalid"
  | .artifactSignatureMismatch => "artifact-signature-mismatch"
  | .artifactSizeMismatch => "artifact-size-mismatch"
  | .channelMismatch => "channel-mismatch"
  | .downgradeRejected => "downgrade-rejected"
  | .equalVersionRejected => "equal-version-rejected"
  | .invalidArtifactUrl => "invalid-artifact-url"
  | .invalidMetadata => "invalid-metadata"
  | .invalidPublicKey => "invalid-public-key"
  | .invalidSourceIdentity => "invalid-source-identity"
  | .malformedInstalledVersion => "malformed-installed-version"
  | .malformedUpdateVersion => "malformed-update-version"
  | .metadataReplay => "metadata-replay"
  | .metadataSignatureInvalid => "metadata-signature-invalid"
  | .missingArtifactSignature => "missing-artifact-signature"
  | .missingMetadataSignature => "missing-metadata-signature"
  | .versionDigestConflict => "version-digest-conflict"
  | .wrongChannelVersion => "wrong-channel-version"

inductive UpdateOperationError where
  | busy
  | cancelled
  | invalidOperationKey
  | invalidResponse
  | network
  | notConfigured
  | operationMismatch
  | oversizedMetadata
  | oversizedPayload
  | rangeMismatch
  | redirectRejected
  | storeIo
  | storeUnsafe
  | timeout
  | verification (error : UpdaterError)
  deriving DecidableEq

def UpdateOperationError.code : UpdateOperationError → String
  | .busy => "busy"
  | .cancelled => "cancelled"
  | .invalidOperationKey => "invalid-operation-key"
  | .invalidResponse => "invalid-response"
  | .network => "network"
  | .notConfigured => "not-configured"
  | .operationMismatch => "operation-mismatch"
  | .oversizedMetadata => "oversized-metadata"
  | .oversizedPayload => "oversized-payload"
  | .rangeMismatch => "range-mismatch"
  | .redirectRejected => "redirect-rejected"
  | .storeIo => "store-io"
  | .storeUnsafe => "store-unsafe"
  | .timeout => "timeout"
  | .verification error => error.code

structure VerifiedMetadata where
  (artifactName artifactSha256 artifactSignature : String)
  artifactSize : Nat
  artifactUrl : String
  channel : UpdateChannel
  channelSwitch : Bool
  metadataSha256 : String
  skippedVersion : Bool
  (sourceSha version : String)
  deriving DecidableEq

structure UpdateCandidateIdentity where
  (artifactName artifactSha256 artifactSignatureSha256 : String)
  artifactSize : Nat
  channel : UpdateChannel
  (metadataSha256 sourceSha version : String)
  deriving DecidableEq

def UpdateCandidateIdentity.fromVerified (digest : String → String) (metadata : VerifiedMetadata) :
    UpdateCandidateIdentity where
  artifactName := metadata.artifactName
  artifactSha256 := metadata.artifactSha256
  artifactSignatureSha256 := digest metadata.artifactSignature
  artifactSize := metadata.artifactSize
  channel := metadata.channel
  metadataSha256 := metadata.metadataSha256
  sourceSha := metadata.sourceSha
  version := metadata.version

structure AuthenticatedReleaseAsset where
  id : Nat
  name : String
  deriving DecidableEq

structure AuthenticatedReleaseRecord where
  assets : List AuthenticatedReleaseAsset
  channel : UpdateChannel
  id : Nat
  (publishedAt tag version : String)
  deriving DecidableEq

structure AvailableCandidate where
  metadata : VerifiedMetadata
  metadataBytes : List UInt8
  metadataSignature : String
  release : AuthenticatedReleaseRecord
  deriving DecidableEq

def AvailableCandidate.identity (digest : String → String) (candidate : AvailableCandidate) :
    UpdateCandidateIdentity :=
  .fromVerified digest candidate.metadata

structure PartialInfo where
  size : Nat
  etag : Option String

def PartialInfo.default : PartialInfo := ⟨0, none⟩

structure UpdaterSnapshot where
  authorityId : String
  revision : Nat
  configured : Bool
  phase : UpdatePhase
  operationId : Option String
  channel : Option UpdateChannel
  candidate : Option UpdateCandidateIdentity
  progress : Option UpdateProgress
  resumable : Bool
  terminalReason : Option String
  deriving DecidableEq

/-- `saturating_add(1)` on a `u64`. -/
def saturatingSucc (n : Nat) : Nat := min (n + 1) StateMachine.maxU64

/-- `code` of `ContinuationTaskFailure` and of `CheckTaskFailure`. -/
def taskFailureCode : StateMachine.TaskFailure → String
  | .aborted => "effect-aborted"
  | .completionConflict => "effect-completion-conflict"
  | .panicked => "effect-panicked"

end Mish.Updater
