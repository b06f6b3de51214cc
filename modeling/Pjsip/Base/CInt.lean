import Mathlib.Data.Int.Basic
import Mathlib.Algebra.Order.Ring.Int

/-!
# Conversions between the C integer types

Values are mathematical integers; these are the points where C reduces them.
-/

namespace Pjsip.Base

def u16 (x : Int) : Nat := (x % 2 ^ 16).toNat

def u32 (x : Int) : Nat := (x % 2 ^ 32).toNat

/-- Conversion to a 32-bit signed type, and what is left of a sum of such values. -/
def i32 (x : Int) : Int := x.bmod (2 ^ 32)

def IsInt (x : Int) : Prop := -2 ^ 31 ≤ x ∧ x < 2 ^ 31

instance (x : Int) : Decidable (IsInt x) := inferInstanceAs (Decidable (_ ∧ _))

theorem u32_of_bounds {x : Int} (low : 0 ≤ x) (high : x < 2 ^ 32) : u32 x = x.toNat := by
  rw [u32, Int.emod_eq_of_lt low high]

theorem i32_of_bounds {x : Int} (low : -2 ^ 31 ≤ x) (high : x < 2 ^ 31) : i32 x = x := by
  apply Int.bmod_eq_of_le <;> omega

theorem i32_range (x : Int) : -2 ^ 31 ≤ i32 x ∧ i32 x < 2 ^ 31 := by
  constructor
  · exact Int.le_bmod (by decide)
  · exact Int.bmod_lt (by decide)

theorem i32_self {x : Int} (int : IsInt x) : i32 x = x := i32_of_bounds int.1 int.2

theorem i32_eq (x : Int) : i32 x = x - 2 ^ 32 * ((x + 2 ^ 31) / 2 ^ 32) := by
  have range := i32_range x
  obtain ⟨k, moved⟩ : (2 ^ 32 : Int) ∣ x - i32 x := Int.dvd_self_sub_bmod
  omega

theorem i32_sub_add {x : Int} (int : IsInt x) (y : Int) : i32 (i32 (x - y) + y) = x := by
  obtain ⟨low, high⟩ := int
  rw [i32_eq, i32_eq (x - y)]
  omega

theorem i32_sub_of_add {x y d : Int} (sum : i32 (y + d) = x) (int : IsInt d) : i32 (x - y) = d := by
  obtain ⟨low, high⟩ := int
  rw [← sum, i32_eq, i32_eq (y + d)]
  omega

theorem i32_add (x y : Int) : i32 (i32 x + y) = i32 (x + y) := by
  rw [i32_eq, i32_eq x, i32_eq (x + y)]
  omega

theorem i32_nearer {x y : Int} {n : Nat} (le : n ≤ i32 (x - y)) :
    i32 (x - i32 (y + n)) = i32 (x - y) - n := by
  have range := i32_range (x - y)
  rw [i32_eq (x - y)] at range le ⊢
  rw [i32_eq, i32_eq (y + n)]
  omega

end Pjsip.Base

/-!
# Serial numbers

A count that only its residue modulo `2 ^ 16` is sent of. The difference of two
residues tells how far apart the counts are, as long as the window on both sides of
the last count is smaller than the modulus.
-/

namespace Pjsip.Base

/-- How far the residue `seq` is ahead of the residue `last`, as a 16-bit difference. -/
def serialDelta (seq last : Nat) : Nat := u16 ((seq : Int) - last)

variable {n largest : Nat}

theorem serialDelta_ahead (least : largest ≤ n) (near : n < largest + 2 ^ 16) :
    serialDelta (n % 2 ^ 16) (largest % 2 ^ 16) = n - largest := by
  unfold serialDelta u16
  omega

theorem serialDelta_behind (below : n < largest) (near : largest < n + 2 ^ 16) :
    serialDelta (n % 2 ^ 16) (largest % 2 ^ 16) = 2 ^ 16 - (largest - n) := by
  unfold serialDelta u16
  omega

theorem serial_wraps (least : largest ≤ n) (near : n < largest + 2 ^ 16) :
    n / 2 ^ 16 = largest / 2 ^ 16 + (if n % 2 ^ 16 < largest % 2 ^ 16 then 1 else 0) := by
  split <;> omega

end Pjsip.Base
