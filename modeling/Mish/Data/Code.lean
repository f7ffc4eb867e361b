import Mathlib.Algebra.Group.Nat.Defs
import Mathlib.Data.List.Basic

/-!
# Codes

Encodings that can be written one after another without a separator: integers and arrays of a fixed
size, and texts with their length in front.
-/

namespace Mish

section
variable {α β : Type}

/-- What follows an encoded value does not matter for reading it. -/
def IsCode (f : α → List β) : Prop :=
  ∀ a b r s, f a ++ r = f b ++ s ↔ a = b ∧ r = s

theorem isCode_of_length {f : α → List β} {n : Nat} (length : ∀ a, (f a).length = n)
    (injective : ∀ a b, f a = f b → a = b) : IsCode f := by
  intro a b r s
  constructor
  · intro same
    obtain ⟨heads, tails⟩ := List.append_inj same ((length a).trans (length b).symm)
    exact ⟨injective a b heads, tails⟩
  · rintro ⟨rfl, rfl⟩
    rfl

theorem IsCode.injective {f : α → List β} (code : IsCode f) : Function.Injective f :=
  fun a b same => ((code a b [] []).1 (congrArg (· ++ []) same)).1

end

/-- The last `width` bytes of a number, the highest first. -/
def bigEndian : Nat → Nat → List UInt8
  | 0, _ => []
  | width + 1, n => bigEndian width (n / 256) ++ [UInt8.ofNat n]

@[simp] theorem length_bigEndian (width n : Nat) : (bigEndian width n).length = width := by
  induction width generalizing n with
  | zero => rfl
  | succ width ih => simp [bigEndian, ih]

theorem bigEndian_injective {width m n : Nat} (left : m < 256 ^ width) (right : n < 256 ^ width)
    (same : bigEndian width m = bigEndian width n) : m = n := by
  induction width generalizing m n with
  | zero => omega
  | succ width ih =>
    obtain ⟨high, low⟩ := List.append_inj' same rfl
    have low : m % 256 = n % 256 := by
      have := congrArg UInt8.toNat (List.singleton_inj.1 low)
      simpa using this
    rw [Nat.pow_succ] at left right
    have := ih (by omega) (by omega) high
    omega

/-! ## Integers and texts -/

def encodeU16 (value : UInt16) : List UInt8 := bigEndian 2 value.toNat
def encodeU32 (value : UInt32) : List UInt8 := bigEndian 4 value.toNat
def encodeU64 (value : UInt64) : List UInt8 := bigEndian 8 value.toNat

theorem isCode_u16 : IsCode encodeU16 := by
  refine isCode_of_length (fun _ => length_bigEndian ..) fun a b same => ?_
  exact UInt16.toNat_inj.1 (bigEndian_injective a.toNat_lt b.toNat_lt same)

theorem isCode_u32 : IsCode encodeU32 := by
  refine isCode_of_length (fun _ => length_bigEndian ..) fun a b same => ?_
  exact UInt32.toNat_inj.1 (bigEndian_injective a.toNat_lt b.toNat_lt same)

theorem isCode_u64 : IsCode encodeU64 := by
  refine isCode_of_length (fun _ => length_bigEndian ..) fun a b same => ?_
  exact UInt64.toNat_inj.1 (bigEndian_injective a.toNat_lt b.toNat_lt same)

theorem isCode_vector {n : Nat} : IsCode (Vector.toList : Vector UInt8 n → List UInt8) :=
  isCode_of_length (fun v => v.length_toList) fun _ _ => Vector.toList_inj.1

def utf8 (value : String) : List UInt8 := value.toByteArray.data.toList

/-- A text with the number of its bytes in front. -/
def encodeString (value : String) : List UInt8 :=
  encodeU32 (.ofNat (utf8 value).length) ++ utf8 value

theorem encodeString_append {a b : String} (left : (utf8 a).length < 2 ^ 32)
    (right : (utf8 b).length < 2 ^ 32) (r s : List UInt8) :
    encodeString a ++ r = encodeString b ++ s ↔ a = b ∧ r = s := by
  constructor
  · intro same
    simp only [encodeString, List.append_assoc, isCode_u32 _ _ _ _] at same
    obtain ⟨lengths, same⟩ := same
    have lengths : (utf8 a).length = (utf8 b).length := by
      have := congrArg UInt32.toNat lengths
      rwa [UInt32.toNat_ofNat_of_lt' left, UInt32.toNat_ofNat_of_lt' right] at this
    obtain ⟨texts, rests⟩ := List.append_inj same lengths
    refine ⟨String.toByteArray_inj.1 (ByteArray.ext (Array.toList_inj.1 texts)), rests⟩
  · rintro ⟨rfl, rfl⟩
    rfl

end Mish
