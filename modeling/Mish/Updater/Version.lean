import Mathlib.Data.Nat.Basic
import Mathlib.Order.Compare
import Mathlib.Order.Lattice
import Mish.Updater.Candidate

/-!
# What has been accepted

The record of accepted metadata. It compares versions, whose format and order are parameters.
-/

namespace Mish.Updater

/-- `parse_version` and the order of what it reads, on the texts that are versions. The source
panics on any other text that it compares. -/
class Versions where
  Version : Type
  order : LinearOrder Version
  parseVersion : String → Version

instance [Versions] : LinearOrder Versions.Version := Versions.order

namespace ByLength

/-- Versions that are told apart by their length. -/
scoped instance lengths : Versions := ⟨Nat, inferInstance, String.length⟩

end ByLength

def acceptedMetadataLimit : Nat := 32

structure AcceptedMetadata where
  schemaVersion : Nat
  digests : List String
  (alphaHighWater stableHighWater : Option String)

def storeSchemaVersion : Nat := 1

namespace AcceptedMetadata
open Versions

def empty : AcceptedMetadata := ⟨storeSchemaVersion, [], none, none⟩

def highWater (accepted : AcceptedMetadata) : UpdateChannel → Option String
  | .alpha => accepted.alphaHighWater
  | .stable => accepted.stableHighWater

variable [Versions] (accepted : AcceptedMetadata)

def compare (metadata : VerifiedMetadata) : Option Ordering :=
  (accepted.highWater metadata.channel).map fun highWater =>
    cmp (parseVersion metadata.version) (parseVersion highWater)

def requireNewer (metadata : VerifiedMetadata) : Except UpdateOperationError Unit :=
  match accepted.compare metadata with
  | some .lt => throw (.verification .downgradeRejected)
  | some .eq => throw (.verification .equalVersionRejected)
  | some .gt | none => return ()

def record (metadata : VerifiedMetadata) : AcceptedMetadata :=
  let digests := accepted.digests.filter (· ≠ metadata.metadataSha256) ++ [metadata.metadataSha256]
  let kept := { accepted with digests := digests.drop (digests.length - acceptedMetadataLimit) }
  match accepted.compare metadata with
  | some .lt | some .eq => kept
  | some .gt | none =>
    match metadata.channel with
    | .alpha => { kept with alphaHighWater := some metadata.version }
    | .stable => { kept with stableHighWater := some metadata.version }

/-! ## No way back -/

def Above (metadata : VerifiedMetadata) : Prop :=
  ∀ text ∈ accepted.highWater metadata.channel, parseVersion text < parseVersion metadata.version

variable {accepted} {metadata old : VerifiedMetadata}

theorem compare_spec : accepted.compare metadata ∈ [none, some .gt] ↔ accepted.Above metadata := by
  have all (o : Option String) (f : String → Ordering) :
      o.map f ∈ [none, some .gt] ↔ ∀ t ∈ o, f t = .gt := by cases o <;> simp
  exact (all ..).trans (forall₂_congr fun _ _ => cmp_eq_gt_iff ..)

theorem requireNewer_ok : accepted.requireNewer metadata = .ok () ↔ accepted.Above metadata := by
  rw [← compare_spec, requireNewer]
  split <;> simp [*] <;> rfl

theorem highWater_record {channel} : (accepted.record old).highWater channel =
    if old.channel = channel ∧ accepted.compare old ∈ [none, some .gt] then some old.version
    else accepted.highWater channel := by
  unfold record
  split <;> cases c : old.channel <;> cases channel <;> simp [*, highWater]

theorem above_record : (accepted.record old).Above metadata ↔ accepted.Above metadata ∧
    (old.channel = metadata.channel →
    parseVersion old.version < parseVersion metadata.version) := by
  simp only [Above, highWater_record, compare_spec]
  -- whether `old` raises the high water
  split <;> grind

/-- `require_newer` passes just what is above all that was recorded on its channel. -/
theorem newer_iff_above_all (records : List VerifiedMetadata) :
    (records.foldl record accepted).requireNewer metadata = .ok () ↔
    accepted.requireNewer metadata = .ok () ∧ ∀ old ∈ records, old.channel = metadata.channel →
    parseVersion old.version < parseVersion metadata.version := by
  simp only [requireNewer_ok]
  induction records generalizing accepted with
  | nil => simp
  | cons old records ih => simp [ih, above_record, and_assoc]

end AcceptedMetadata

end Mish.Updater
