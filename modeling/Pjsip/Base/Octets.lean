import Mathlib.Data.List.Basic
import Mathlib.Data.Nat.Bitwise

/-!
# Octets and big-endian fields

A packet is a list of octets. A field of two or four octets has its most significant
octet first; writing a field and reading it are inverse to each other.
-/

namespace Pjsip.Base

/-- Exactly `n` octets. -/
abbrev Octets (n : Nat) := { bytes : List UInt8 // bytes.length = n }

/-- The same octet `n` times. -/
def Octets.fill (n : Nat) (c : UInt8) : Octets n := ⟨List.replicate n c, List.length_replicate⟩

/-- The octets of a 16-bit value, most significant first. -/
def put16 (value : UInt16) : List UInt8 :=
  [((value &&& 0xFF00) >>> 8).toUInt8, (value &&& 0x00FF).toUInt8]

def value16 : List UInt8 → UInt16
  | [b0, b1] => (b0.toUInt16 <<< 8) ||| b1.toUInt16
  | _ => 0

/-- The octets of a 32-bit value, most significant first. -/
def put32 (value : UInt32) : List UInt8 :=
  [((value &&& 0xFF000000) >>> 24).toUInt8, ((value &&& 0x00FF0000) >>> 16).toUInt8,
    ((value &&& 0x0000FF00) >>> 8).toUInt8, (value &&& 0x000000FF).toUInt8]

def value32 : List UInt8 → UInt32
  | [b0, b1, b2, b3] =>
    (b0.toUInt32 <<< 24) ||| (b1.toUInt32 <<< 16) ||| (b2.toUInt32 <<< 8) ||| b3.toUInt32
  | _ => 0

/-- `(n + 3) & ~3` -/
def align4 (n : Nat) : Nat := (n + 3) / 4 * 4

def xorOctets (bytes mask : List UInt8) : List UInt8 := List.zipWith (· ^^^ ·) bytes mask

@[simp] theorem put16_length (value : UInt16) : (put16 value).length = 2 := rfl

@[simp] theorem put32_length (value : UInt32) : (put32 value).length = 4 := rfl

/-! ## Single octets -/

theorem forall_octet {P : UInt8 → Prop} (all : ∀ n : Fin 256, P (UInt8.ofNat n)) (c : UInt8) :
    P c := by
  have same : UInt8.ofNat (⟨c.toNat, c.toNat_lt⟩ : Fin 256) = c := UInt8.ofNat_toNat
  exact same ▸ all ⟨c.toNat, c.toNat_lt⟩

theorem bit_iff (octet : UInt8) {k : Nat} (small : k < 8) :
    octet &&& UInt8.ofNat (2 ^ k) ≠ 0 ↔ octet.toNat / 2 ^ k % 2 = 1 := by
  have inside : 2 ^ k < 2 ^ 8 := Nat.pow_lt_pow_right (by decide) small
  have mask : (octet &&& UInt8.ofNat (2 ^ k)).toNat = (octet.toNat.testBit k).toNat * 2 ^ k := by
    rw [UInt8.toNat_and, UInt8.toNat_ofNat', Nat.mod_eq_of_lt inside, Nat.and_two_pow]
  rw [ne_eq, ← UInt8.toNat_inj, mask, Nat.testBit_eq_decide_div_mod_eq]
  by_cases bit : octet.toNat / 2 ^ k % 2 = 1 <;> simp [bit]

/-! ## Fields as numbers -/

private theorem toNat_octet (n k : Nat) : (n &&& 255 <<< k) >>> k % 256 = n / 2 ^ k % 256 := by
  rw [Nat.shiftRight_and_distrib, Nat.shiftLeft_shiftRight,
    Nat.and_two_pow_sub_one_eq_mod _ 8, Nat.shiftRight_eq_div_pow]
  omega

private theorem or_low {high low : Nat} (k : Nat) (small : low < 2 ^ k) :
    high <<< k ||| low = high * 2 ^ k + low := by
  rw [← Nat.shiftLeft_add_eq_or_of_lt small, Nat.shiftLeft_eq]

theorem toNat_value16 (b0 b1 : UInt8) : (value16 [b0, b1]).toNat = b0.toNat * 256 + b1.toNat := by
  have b0small := b0.toNat_lt
  show ((b0.toUInt16 <<< 8) ||| b1.toUInt16).toNat = _
  show b0.toNat <<< 8 % 2 ^ 16 ||| b1.toNat = _
  rw [Nat.mod_eq_of_lt (by rw [Nat.shiftLeft_eq]; omega), or_low 8 b1.toNat_lt]
  omega

theorem toNat_value32 (b0 b1 b2 b3 : UInt8) : (value32 [b0, b1, b2, b3]).toNat
      = ((b0.toNat * 256 + b1.toNat) * 256 + b2.toNat) * 256 + b3.toNat := by
  have b0small := b0.toNat_lt
  have b1small := b1.toNat_lt
  have b2small := b2.toNat_lt
  have b3small := b3.toNat_lt
  show ((b0.toUInt32 <<< 24) ||| (b1.toUInt32 <<< 16) ||| (b2.toUInt32 <<< 8)
    ||| b3.toUInt32).toNat = _
  simp only [UInt32.toNat_or, UInt32.toNat_shiftLeft, UInt8.toNat_toUInt32]
  show b0.toNat <<< 24 % 2 ^ 32 ||| b1.toNat <<< 16 % 2 ^ 32 ||| b2.toNat <<< 8 % 2 ^ 32
    ||| b3.toNat = _
  have high : b0.toNat <<< 24 % 2 ^ 32 ||| b1.toNat <<< 16 % 2 ^ 32
      = (b0.toNat * 256 + b1.toNat) <<< 16 := by
    rw [Nat.mod_eq_of_lt (by rw [Nat.shiftLeft_eq]; omega),
      Nat.mod_eq_of_lt (by rw [Nat.shiftLeft_eq]; omega),
      or_low 24 (by rw [Nat.shiftLeft_eq]; omega), Nat.shiftLeft_eq, Nat.shiftLeft_eq]
    omega
  have low : b2.toNat <<< 8 % 2 ^ 32 ||| b3.toNat = b2.toNat * 256 + b3.toNat := by
    rw [Nat.mod_eq_of_lt (by rw [Nat.shiftLeft_eq]; omega), or_low 8 b3small]
    omega
  rw [Nat.or_assoc, high, low, or_low 16 (by omega)]
  omega

/-! ## Writing and reading -/

@[simp] theorem value16_put16 (value : UInt16) : value16 (put16 value) = value := by
  have small := value.toNat_lt
  have high := toNat_octet value.toNat 8
  have low := toNat_octet value.toNat 0
  apply UInt16.toNat_inj.1
  show (value16 [_, _]).toNat = _
  rw [toNat_value16, UInt16.toNat_toUInt8, UInt16.toNat_shiftRight, UInt16.toNat_and,
    UInt16.toNat_toUInt8, UInt16.toNat_and]
  show (value.toNat &&& 255 <<< 8) >>> 8 % 256 * 256 + (value.toNat &&& 255 <<< 0) >>> 0 % 256 = _
  omega

@[simp] theorem value32_put32 (value : UInt32) : value32 (put32 value) = value := by
  have small := value.toNat_lt
  have o0 := toNat_octet value.toNat 24
  have o1 := toNat_octet value.toNat 16
  have o2 := toNat_octet value.toNat 8
  have o3 := toNat_octet value.toNat 0
  apply UInt32.toNat_inj.1
  show (value32 [_, _, _, _]).toNat = _
  rw [toNat_value32]
  simp only [UInt32.toNat_toUInt8, UInt32.toNat_shiftRight, UInt32.toNat_and]
  show (((value.toNat &&& 255 <<< 24) >>> 24 % 256 * 256
      + (value.toNat &&& 255 <<< 16) >>> 16 % 256) * 256
      + (value.toNat &&& 255 <<< 8) >>> 8 % 256) * 256
      + (value.toNat &&& 255 <<< 0) >>> 0 % 256 = _
  omega

theorem put16_value16 (bytes : Octets 2) : put16 (value16 bytes.1) = bytes.1 := by
  obtain ⟨bytes, two⟩ := bytes
  obtain ⟨b0, b1, rfl⟩ := List.length_eq_two.1 two
  have number := toNat_value16 b0 b1
  have b0small := b0.toNat_lt
  have b1small := b1.toNat_lt
  have high := toNat_octet (value16 [b0, b1]).toNat 8
  have low := toNat_octet (value16 [b0, b1]).toNat 0
  show [_, _] = [b0, b1]
  congr 1
  · apply UInt8.toNat_inj.1
    show ((value16 [b0, b1]).toNat &&& 255 <<< 8) >>> 8 % 256 = _
    omega
  · congr 1
    apply UInt8.toNat_inj.1
    show ((value16 [b0, b1]).toNat &&& 255 <<< 0) >>> 0 % 256 = _
    omega

/-! ## Masks -/

@[simp] theorem xorOctets_length (bytes mask : List UInt8) :
    (xorOctets bytes mask).length = min bytes.length mask.length :=
  List.length_zipWith

theorem xorOctets_cancel {bytes mask : List UInt8} (covers : bytes.length ≤ mask.length) :
    xorOctets (xorOctets bytes mask) mask = bytes := by
  induction bytes generalizing mask with
  | nil => rfl
  | cons b rest ih =>
    cases mask with
    | nil => simp at covers
    | cons m mask =>
      simp only [List.length_cons, Nat.add_le_add_iff_right] at covers
      show (b ^^^ m ^^^ m) :: xorOctets (xorOctets rest mask) mask = b :: rest
      rw [ih covers, UInt8.xor_assoc, UInt8.xor_self, UInt8.xor_zero]

end Pjsip.Base
