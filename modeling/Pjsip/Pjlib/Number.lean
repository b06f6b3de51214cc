import Pjsip.Errno
import Mathlib.Data.List.TakeWhile
import Mathlib.Algebra.Group.Nat.Defs

/-!
# Numbers in text

The checked conversions look for an overflow before each multiplication and each addition. Their
loops count in an `unsigned`, also where a string may be longer than an `unsigned` counts.
-/

namespace Pjsip.Pjlib.Number

/-- The widths of `unsigned long` and of `pj_uint_t`. -/
inductive Width where
  | w32 | w64
  deriving DecidableEq, Repr

def Width.bits : Width → Nat
  | .w32 => 32
  | .w64 => 64

/-- `PJ_MAXULONG`, `PJ_MAXUINT` -/
def Width.maxUnsigned (w : Width) : Nat := 2 ^ w.bits - 1

/-- `PJ_MAXLONG` -/
def Width.maxLong (w : Width) : Nat := 2 ^ (w.bits - 1) - 1

/-- `PJ_MINLONG` -/
def Width.minLong (w : Width) : Int := -(w.maxLong : Int) - 1

/-- The bases that a conversion takes. -/
def Base : Type := { base : Nat // 2 ≤ base ∧ base ≤ 10 ∨ base = 16 }

/-! ## Reading -/

/-- `pj_isspace`, in the C locale. -/
def pjIsspace (c : UInt8) : Bool := c = 32 || (9 ≤ c && c ≤ 13)

/-- `pj_isxdigit`, in the C locale. -/
def pjIsxdigit (c : UInt8) : Bool :=
  (48 ≤ c && c ≤ 57) || (65 ≤ c && c ≤ 70) || (97 ≤ c && c ≤ 102)

/-- `pj_hex_digit_to_val` -/
def hexDigitToVal (c : UInt8) : UInt8 :=
  if c ≤ 57 then (c - 48) &&& 0x0F
  else if c ≤ 70 then (c - 65 + 10) &&& 0x0F
  else (c - 97 + 10) &&& 0x0F

/-- `pj_strltrim` -/
def strltrim (str : List UInt8) : List UInt8 := str.dropWhile pjIsspace

/-- The loop over the characters; `max` is the largest value of the type. -/
def digitLoop (max base : Nat) (isDigit : UInt8 → Bool) (toVal : UInt8 → Nat) (value : Nat) :
    List UInt8 → PjStatus × Nat
  | [] => (.success, value)
  | c :: rest =>
    if ¬ isDigit c then (.success, value)
    else if value > max / base then (.etoobig, max)
    else
      let value := value * base % (max + 1)
      if max - value < toVal c then (.etoobig, max)
      else digitLoop max base isDigit toVal ((value + toVal c) % (max + 1)) rest

/-- The body of `pj_strtoul3` and of `pj_strtoul4`, which differ in the type of the value. A value
that is left alone is `none`. A character over 127 is no digit, be `char` signed or not. -/
def strtoul (max : Nat) (str : List UInt8) (base : Nat) : PjStatus × Option Nat :=
  let s := strltrim str
  if s.length = 0 ∨ s.headD 0 < 48 ∨ (base ≤ 10 ∧ (s.headD 0).toNat > 48 - 1 + base) ∨
      (base = 16 ∧ ¬ pjIsxdigit (s.headD 0)) then (.einval, none)
  else
    -- `i < (unsigned)s.slen`
    let counted := s.take (s.length % 2 ^ 32)
    if base ≤ 10 then
      (digitLoop max base (fun c => ¬ (c < 48 ∨ c.toNat > 48 - 1 + base))
        (fun c => (c - 48).toNat) 0 counted).map id some
    else if base = 16 then
      (digitLoop max base pjIsxdigit (fun c => (hexDigitToVal c).toNat) 0 counted).map id some
    else (.einval, some 0)

/-- `pj_strtoul3` -/
def pjStrtoul3 (long : Width) (str : List UInt8) (base : Nat) : PjStatus × Option Nat :=
  strtoul long.maxUnsigned str base

/-- `pj_strtoul4` -/
def pjStrtoul4 (uint : Width) (str : List UInt8) (base : Nat) : PjStatus × Option Nat :=
  strtoul uint.maxUnsigned str base

/-- The sign in `pj_strtol2`: whether it is a minus, and what follows. -/
def splitSign (s : List UInt8) : Bool × List UInt8 :=
  if s.headD 0 = 43 ∨ s.headD 0 = 45 then (s.headD 0 = 45, s.tail) else (false, s)

/-- `pj_strtol2` -/
def pjStrtol2 (long : Width) (str : List UInt8) : PjStatus × Option Int :=
  let s := strltrim str
  if s.length = 0 then (.einval, none)
  else
    let (isNegative, s) := splitSign s
    let (rc, value) := pjStrtoul3 long s 10
    let retval := value.getD 0
    if rc = .einval then (rc, none)
    else if rc ≠ .success then
      if isNegative then (.etoosmall, some long.minLong) else (.etoobig, some long.maxLong)
    else if retval > long.maxLong ∧ ¬ isNegative then (.etoobig, some long.maxLong)
    else if retval > long.maxLong + 1 ∧ isNegative then (.etoosmall, some long.minLong)
    else if isNegative ∧ retval = long.maxLong + 1 then (.success, some long.minLong)
    else (.success, some (if isNegative then -(retval : Int) else retval))

/-! ## Writing -/

/-- The first loop of `pj_utoa_pad`: the digits, the last one first. -/
def utoaDigits (val : Nat) : List UInt8 :=
  (UInt8.ofNat (val % 10) + 48) :: if val / 10 > 0 then utoaDigits (val / 10) else []

/-- `pj_utoa_pad`. The last loop exchanges the characters from both ends. -/
def pjUtoaPad (val : Nat) (minDig : Int32) (pad : UInt8) : List UInt8 :=
  let digits := utoaDigits val
  (digits ++ List.replicate (minDig.toInt - digits.length).toNat pad).reverse

/-! ## Numerals -/

/-- The value of a character as a digit. -/
def digit (c : UInt8) : Option Nat :=
  if 48 ≤ c ∧ c ≤ 57 then some (c.toNat - 48)
  else if 65 ≤ c ∧ c ≤ 70 then some (c.toNat - 65 + 10)
  else if 97 ≤ c ∧ c ≤ 102 then some (c.toNat - 97 + 10)
  else none

def isDigitOf (base : Nat) (c : UInt8) : Bool := (digit c).any (· < base)

def shiftIn (base value : Nat) (c : UInt8) : Nat := value * base + (digit c).getD 0

def numeral (base : Nat) (run : List UInt8) : Nat := run.foldl (shiftIn base) 0

/-- The digits that a string starts with, behind its white space. -/
def digitRun (base : Nat) (str : List UInt8) : List UInt8 :=
  (strltrim str).takeWhile (isDigitOf base)

/-- The value of a row of digits, or the largest one there is. -/
def clipped (max base : Nat) (run : List UInt8) : PjStatus × Option Nat :=
  if numeral base run ≤ max then (.success, some (numeral base run)) else (.etoobig, some max)

/-- What a checked conversion is to answer. -/
def checked (max base : Nat) (str : List UInt8) : PjStatus × Option Nat :=
  if digitRun base str = [] then (.einval, none) else clipped max base (digitRun base str)

/-- A signed value, or the bound it is beyond. -/
def clippedSigned (long : Width) (value : Int) : PjStatus × Option Int :=
  if value < long.minLong then (.etoosmall, some long.minLong)
  else if long.maxLong < value then (.etoobig, some long.maxLong)
  else (.success, some value)

/-- What the checked signed conversion is to answer. -/
def checkedSigned (long : Width) (str : List UInt8) : PjStatus × Option Int :=
  let sign := splitSign (strltrim str)
  let run := digitRun 10 sign.2
  if run = [] then (.einval, none)
  else clippedSigned long (if sign.1 then -(numeral 10 run : Int) else numeral 10 run)

/-- As many characters as the loop counts: the length of the string behind its white space, in an
`unsigned`. -/
def counted (str : List UInt8) : Nat := (strltrim str).length % 2 ^ 32

/-- The loop counts to the end of the digits, or there is nothing to add up, or what it counts is
beyond the bound already. -/
def Counted (bound base : Nat) (str : List UInt8) : Prop :=
  (digitRun base str).length ≤ counted str ∨ (∀ c ∈ digitRun base str, c = 48) ∨
    bound < numeral base ((digitRun base str).take (counted str))

/-- The same of the digits behind a sign. -/
def CountedSigned (long : Width) (str : List UInt8) : Prop :=
  let sign := splitSign (strltrim str)
  Counted (long.maxLong + if sign.1 then 1 else 0) 10 sign.2

/-! ## Digits -/

variable {c : UInt8}

theorem isDigitOf_iff {base : Nat} : isDigitOf base c = true ↔
      (48 ≤ c.toNat ∧ c.toNat ≤ 57 ∧ c.toNat - 48 < base) ∨
      (65 ≤ c.toNat ∧ c.toNat ≤ 70 ∧ c.toNat - 65 + 10 < base) ∨
      (97 ≤ c.toNat ∧ c.toNat ≤ 102 ∧ c.toNat - 97 + 10 < base) := by
  simp only [isDigitOf, digit, UInt8.le_iff_toNat_le, UInt8.reduceToNat]
  split_ifs <;>
    simp only [Option.any_some, Option.any_none, decide_eq_true_iff, Bool.false_eq_true,
      false_iff] <;> omega

theorem isDigitOf_small {base : Nat} (small : base ≤ 10) (c : UInt8) :
    isDigitOf base c = decide (¬ (c < 48 ∨ c.toNat > 48 - 1 + base)) := by
  rw [Bool.eq_iff_iff, isDigitOf_iff, decide_eq_true_iff]
  simp only [UInt8.lt_iff_toNat_lt, UInt8.reduceToNat]
  -- a letter is worth ten at least
  omega

theorem isDigitOf_sixteen (c : UInt8) : isDigitOf 16 c = pjIsxdigit c := by
  rw [Bool.eq_iff_iff, isDigitOf_iff]
  simp only [pjIsxdigit, UInt8.le_iff_toNat_le, UInt8.reduceToNat, Bool.or_eq_true,
    Bool.and_eq_true, decide_eq_true_iff]
  omega

theorem digit_small {base : Nat} (small : base ≤ 10) (one : isDigitOf base c = true) :
    (c - 48).toNat = (digit c).getD 0 := by
  rw [isDigitOf_iff] at one
  have low : (48 : UInt8) ≤ c := UInt8.le_iff_toNat_le.2 (by simp only [UInt8.reduceToNat]; omega)
  have high : c ≤ 57 := UInt8.le_iff_toNat_le.2 (by simp only [UInt8.reduceToNat]; omega)
  rw [digit, if_pos ⟨low, high⟩, UInt8.toNat_sub_of_le _ _ low]
  rfl

theorem low_nibble {d : UInt8} (small : d.toNat < 16) : (d &&& 0x0F).toNat = d.toNat :=
  (Nat.and_two_pow_sub_one_eq_mod d.toNat 4).trans (Nat.mod_eq_of_lt small)

theorem digit_sixteen (one : isDigitOf 16 c = true) :
    (hexDigitToVal c).toNat = (digit c).getD 0 := by
  have less : ∀ k : UInt8, k.toNat ≤ c.toNat → (c - k).toNat = c.toNat - k.toNat :=
    fun k below => UInt8.toNat_sub_of_le _ _ (UInt8.le_iff_toNat_le.2 below)
  have ten : ∀ d : UInt8, d.toNat < 6 → (d + 10).toNat = d.toNat + 10 := by
    intro d small
    show (d.toNat + 10) % 2 ^ 8 = _
    omega
  simp only [hexDigitToVal, digit, UInt8.le_iff_toNat_le, UInt8.reduceToNat]
  rcases isDigitOf_iff.1 one with ⟨low, high, -⟩ | ⟨low, high, -⟩ | ⟨low, high, -⟩
  · have value : (c - 48).toNat = c.toNat - 48 := less 48 low
    rw [if_pos high, if_pos ⟨low, high⟩, low_nibble (by omega), value]
    rfl
  · have value : (c - 65).toNat = c.toNat - 65 := less 65 low
    have sum := ten (c - 65) (by omega)
    rw [if_neg (by omega), if_pos high, if_neg (by omega), if_pos ⟨low, high⟩,
      low_nibble (by omega), sum, value]
    rfl
  · have value : (c - 97).toNat = c.toNat - 97 := less 97 low
    have sum := ten (c - 97) (by omega)
    rw [if_neg (by omega), if_neg (by omega), if_neg (by omega), if_neg (by omega),
      if_pos ⟨low, high⟩, low_nibble (by omega), sum, value]
    rfl

/-! ## Rows of digits -/

section Rows

variable {base : Nat} (run : List UInt8)

theorem le_foldl (positive : 0 < base) (value : Nat) : value ≤ run.foldl (shiftIn base) value := by
  induction run generalizing value with
  | nil => exact Nat.le_refl value
  | cons c run ih =>
    calc value ≤ value * base := Nat.le_mul_of_pos_right value positive
      _ ≤ shiftIn base value c := Nat.le_add_right _ _
      _ ≤ (c :: run).foldl (shiftIn base) value := ih _

theorem foldl_eq_self (two : 2 ≤ base) (value : Nat) : run.foldl (shiftIn base) value = value ↔
      run = [] ∨ (value = 0 ∧ ∀ c ∈ run, (digit c).getD 0 = 0) := by
  induction run generalizing value with
  | nil => simp
  | cons c run ih =>
    have grown := le_foldl run (by omega : 0 < base) (shiftIn base value c)
    have double : value * 2 ≤ value * base := Nat.mul_le_mul_left value two
    simp only [List.foldl_cons, List.forall_mem_cons, reduceCtorEq, false_or]
    constructor
    · intro same
      rw [same] at grown
      simp only [shiftIn] at grown
      have zero : value = 0 := by omega
      have nought : (digit c).getD 0 = 0 := by omega
      have step : shiftIn base value c = value := by
        rw [shiftIn, zero, nought, Nat.zero_mul]
      rw [step] at same
      refine ⟨zero, nought, ?_⟩
      rcases (ih value).1 same with rfl | ⟨-, rest⟩
      · simp
      · exact rest
    · rintro ⟨rfl, nought, rest⟩
      have step : shiftIn base 0 c = 0 := by rw [shiftIn, nought, Nat.zero_mul]
      rw [step]
      exact (ih 0).2 (.inr ⟨rfl, rest⟩)

theorem numeral_append (front back : List UInt8) :
    numeral base (front ++ back) = back.foldl (shiftIn base) (numeral base front) :=
  List.foldl_append

theorem numeral_take_le (positive : 0 < base) (n : Nat) :
    numeral base (run.take n) ≤ numeral base run := by
  calc numeral base (run.take n)
      ≤ (run.drop n).foldl (shiftIn base) (numeral base (run.take n)) := le_foldl _ positive _
    _ = numeral base run := by rw [← numeral_append, List.take_append_drop]

theorem numeral_take (two : 2 ≤ base) (n : Nat) : numeral base (run.take n) = numeral base run ↔
      run.length ≤ n ∨ ∀ c ∈ run, (digit c).getD 0 = 0 := by
  have whole : numeral base run =
      (run.drop n).foldl (shiftIn base) (numeral base (run.take n)) := by
    rw [← numeral_append, List.take_append_drop]
  have zeros : numeral base (run.take n) = 0 ↔
      run.take n = [] ∨ ∀ c ∈ run.take n, (digit c).getD 0 = 0 := by
    rw [numeral, foldl_eq_self _ two]
    simp
  rw [eq_comm, whole, foldl_eq_self _ two, List.drop_eq_nil_iff, zeros]
  refine or_congr_right ⟨?_, ?_⟩
  · rintro ⟨front, back⟩ c member
    rw [← List.take_append_drop n run, List.mem_append] at member
    rcases member with inside | behind
    · rcases front with short | front
      · simp [short] at inside
      · exact front c inside
    · exact back c behind
  · intro all
    exact ⟨.inr fun c inside => all c (List.mem_of_mem_take inside),
      fun c behind => all c (List.mem_of_mem_drop behind)⟩

end Rows

/-! ## The conversions -/

/-- The loop keeps the value of the digits so far as long as it fits, and neither of its two checks
lets the arithmetic wrap. -/
theorem digitLoop_eq {max base : Nat} {toVal : UInt8 → Nat} (positive : 0 < base)
    (value : Nat) (fits : value ≤ max) (str : List UInt8)
    (agree : ∀ c, isDigitOf base c → toVal c = (digit c).getD 0) :
    digitLoop max base (isDigitOf base) toVal value str =
      if (str.takeWhile (isDigitOf base)).foldl (shiftIn base) value ≤ max then
        (.success, (str.takeWhile (isDigitOf base)).foldl (shiftIn base) value)
      else (.etoobig, max) := by
  induction str generalizing value with
  | nil => simp [digitLoop, fits]
  | cons c str ih =>
    by_cases one : isDigitOf base c = true
    · have grown := le_foldl (str.takeWhile (isDigitOf base)) positive
        (shiftIn base value c)
      rw [digitLoop, if_neg (by simp [one]), List.takeWhile_cons_of_pos one, List.foldl_cons]
      have worth : shiftIn base value c = value * base + (digit c).getD 0 := rfl
      by_cases big : value > max / base
      · have past : max < value * base := (Nat.div_lt_iff_lt_mul positive).1 big
        rw [if_pos big, if_neg (by omega)]
      · have room : value * base ≤ max := (Nat.le_div_iff_mul_le positive).1 (by omega)
        rw [if_neg big, Nat.mod_eq_of_lt (by omega : value * base < max + 1), agree c one]
        by_cases past : max - value * base < (digit c).getD 0
        · rw [if_pos past, if_neg (by omega)]
        · rw [if_neg past, Nat.mod_eq_of_lt (by omega)]
          exact ih _ (by omega)
    · rw [digitLoop, if_pos one, List.takeWhile_cons_of_neg one]
      simp [fits]

variable {str : List UInt8}

theorem digitRun_eq_nil {base : Nat} : digitRun base str = [] ↔
      (strltrim str).length = 0 ∨ isDigitOf base ((strltrim str).headD 0) = false := by
  rw [digitRun]
  cases strltrim str with
  | nil => simp
  | cons c rest =>
    cases one : isDigitOf base c <;> simp [one]

/-- The tests at the head of a conversion: there is no digit to begin with. -/
theorem refused_iff (base : Base) (s : List UInt8) :
    (s.length = 0 ∨ s.headD 0 < 48 ∨ (base.1 ≤ 10 ∧ (s.headD 0).toNat > 48 - 1 + base.1) ∨
      (base.1 = 16 ∧ ¬ pjIsxdigit (s.headD 0))) ↔
      s.length = 0 ∨ isDigitOf base.1 (s.headD 0) = false := by
  refine or_congr_right ?_
  obtain ⟨base, small | rfl⟩ := base
  · rw [isDigitOf_small small.2, decide_eq_false_iff_not, not_not]
    have other : base ≠ 16 := by omega
    simp [small.2, other]
  · rw [isDigitOf_sixteen]
    have low : s.headD 0 < 48 → pjIsxdigit (s.headD 0) = false := by
      intro below
      have code : (s.headD 0).toNat < 48 := UInt8.lt_iff_toNat_lt.1 below
      rw [← Bool.not_eq_true, pjIsxdigit]
      simp only [UInt8.le_iff_toNat_le, UInt8.reduceToNat, Bool.or_eq_true, Bool.and_eq_true,
        decide_eq_true_iff]
      omega
    simpa using low

theorem strtoul_eq (max : Nat) (base : Base) (str : List UInt8) : strtoul max str base.1 =
      if digitRun base.1 str = [] then (.einval, none)
      else clipped max base.1 ((digitRun base.1 str).take (counted str)) := by
  have start := refused_iff base (strltrim str)
  rw [← digitRun_eq_nil] at start
  simp only [strtoul, start]
  refine if_congr Iff.rfl rfl ?_
  rw [digitRun, List.take_takeWhile, counted, clipped, numeral]
  obtain ⟨base, small | rfl⟩ := base
  · have digits : (fun c : UInt8 => decide (¬ (c < 48 ∨ c.toNat > 48 - 1 + base))) =
        isDigitOf base := funext fun c => (isDigitOf_small small.2 c).symm
    rw [if_pos small.2, digits, digitLoop_eq (by omega) 0 (Nat.zero_le max) _
      fun c => digit_small small.2]
    split <;> rfl
  · rw [if_neg (by decide), if_pos rfl, ← funext isDigitOf_sixteen,
      digitLoop_eq (by decide) 0 (Nat.zero_le max) _ fun c => digit_sixteen]
    split <;> rfl

theorem maxUnsigned_eq (w : Width) : w.maxUnsigned = 2 * w.maxLong + 1 := by
  cases w <;> rfl

theorem pjStrtol2_eq (long : Width) (str : List UInt8) {negative : Bool} {rest : List UInt8}
    (sign : splitSign (strltrim str) = (negative, rest)) :
    pjStrtol2 long str = if digitRun 10 rest = [] then (.einval, none)
      else clippedSigned long
        (if negative then -(numeral 10 ((digitRun 10 rest).take (counted rest)) : Int)
        else numeral 10 ((digitRun 10 rest).take (counted rest))) := by
  by_cases empty : (strltrim str).length = 0
  · rw [List.length_eq_zero_iff.1 empty] at sign
    cases sign
    rw [pjStrtol2, if_pos empty]
    rfl
  · have ten := strtoul_eq long.maxUnsigned ⟨10, by decide⟩ rest
    have double := maxUnsigned_eq long
    simp only [pjStrtol2, if_neg empty, sign, pjStrtoul3, ten]
    by_cases noDigits : digitRun 10 rest = []
    · simp [noDigits]
    · simp only [if_neg noDigits, clipped, clippedSigned, Width.minLong]
      generalize numeral 10 ((digitRun 10 rest).take (counted rest)) = value
      by_cases fits : value ≤ long.maxUnsigned
      · rw [if_pos fits]
        cases negative
        · have above : ¬ (value : Int) < -(long.maxLong : Int) - 1 := by omega
          simp [above]
        · have below : ¬ (long.maxLong : Int) < -(value : Int) := by omega
          by_cases most : value = long.maxLong + 1
          · have bound : -((long.maxLong : Int) + 1) = -(long.maxLong : Int) - 1 := by omega
            have least : ¬ (long.maxLong : Int) < -(long.maxLong : Int) - 1 := by omega
            simp [most, bound, least]
          · by_cases past : long.maxLong + 1 < value
            · have beyond : -(value : Int) < -(long.maxLong : Int) - 1 := by omega
              simp [past, beyond]
            · have within : ¬ -(value : Int) < -(long.maxLong : Int) - 1 := by omega
              simp [past, within, most, below]
      · rw [if_neg fits]
        cases negative
        · have above : ¬ (value : Int) < -(long.maxLong : Int) - 1 := by omega
          have past : long.maxLong < value := by omega
          simp [above, past]
        · have beyond : -(value : Int) < -(long.maxLong : Int) - 1 := by omega
          simp [beyond]

/-! ## What the loops count -/

theorem digit_eq_zero {base : Nat} (one : isDigitOf base c = true) :
    (digit c).getD 0 = 0 ↔ c = 48 := by
  rw [isDigitOf_iff] at one
  simp only [digit, UInt8.le_iff_toNat_le, ← UInt8.toNat_inj, UInt8.reduceToNat]
  split_ifs <;> simp only [Option.getD_some, Option.getD_none] <;> omega

theorem counted_iff (bound : Nat) (base : Base) (str : List UInt8) : Counted bound base.1 str ↔
      numeral base.1 ((digitRun base.1 str).take (counted str)) =
          numeral base.1 (digitRun base.1 str) ∨
        bound < numeral base.1 ((digitRun base.1 str).take (counted str)) := by
  have two : 2 ≤ base.1 := by
    have := base.2
    omega
  have zeros : (∀ c ∈ digitRun base.1 str, (digit c).getD 0 = 0) ↔
      ∀ c ∈ digitRun base.1 str, c = 48 :=
    forall₂_congr fun c member => digit_eq_zero (List.mem_takeWhile_imp member)
  rw [Counted, numeral_take _ two, zeros, or_assoc]

/-- The conversions to `unsigned long` and to `pj_uint_t` answer as they are to exactly where the
loop counts enough. -/
theorem strtoul_iff (max : Nat) (base : Base) (str : List UInt8) :
    strtoul max str base.1 = checked max base.1 str ↔ Counted max base.1 str := by
  rw [strtoul_eq, checked]
  by_cases noDigits : digitRun base.1 str = []
  · simp [noDigits, Counted]
  · have two : 0 < base.1 := by
      have := base.2
      omega
    have less := numeral_take_le (digitRun base.1 str) two (counted str)
    rw [if_neg noDigits, if_neg noDigits, counted_iff, clipped, clipped]
    split
    · split
      · simp only [Prod.mk.injEq, Option.some.injEq, true_and]
        omega
      · simp only [Prod.mk.injEq, reduceCtorEq, false_and, false_iff]
        omega
    · rw [if_neg (by omega)]
      simp only [true_iff]
      omega

theorem clippedSigned_inj (long : Width) {a b : Int} : clippedSigned long a = clippedSigned long b ↔
      a = b ∨ (a < long.minLong ∧ b < long.minLong) ∨ (long.maxLong < a ∧ long.maxLong < b) := by
  have order : long.minLong ≤ long.maxLong := by
    rw [Width.minLong]
    omega
  rw [clippedSigned, clippedSigned]
  -- each of the two is below, above or between the bounds
  split_ifs <;> simp only [Prod.mk.injEq, Option.some.injEq, reduceCtorEq, false_and, true_and,
    true_iff, false_iff] <;> omega

theorem pjStrtol2_iff (long : Width) (str : List UInt8) :
    pjStrtol2 long str = checkedSigned long str ↔ CountedSigned long str := by
  obtain ⟨negative, rest, sign⟩ : ∃ negative rest, splitSign (strltrim str) = (negative, rest) :=
    ⟨_, _, rfl⟩
  simp only [pjStrtol2_eq long str sign, checkedSigned, CountedSigned, sign]
  rw [counted_iff _ ⟨10, by decide⟩]
  have less := numeral_take_le (digitRun 10 rest) (by decide : 0 < 10) (counted rest)
  by_cases noDigits : digitRun 10 rest = []
  · simp [noDigits]
  · simp only [if_neg noDigits]
    generalize numeral 10 ((digitRun 10 rest).take (counted rest)) = v at less ⊢
    generalize numeral 10 (digitRun 10 rest) = whole at less ⊢
    rw [clippedSigned_inj]
    cases negative
    · simp only [Width.minLong, Bool.false_eq_true, if_false]
      omega
    · simp only [Width.minLong, if_true]
      omega

/-! ## What is written reads back -/

theorem isDigitOf_written (d : Nat) (small : d < 10) :
    isDigitOf 10 (UInt8.ofNat d + 48) = true ∧ (digit (UInt8.ofNat d + 48)).getD 0 = d := by
  have code : (UInt8.ofNat d + 48).toNat = d + 48 := by
    show (d % 2 ^ 8 + 48) % 2 ^ 8 = _
    omega
  have range : (48 : UInt8) ≤ UInt8.ofNat d + 48 ∧ UInt8.ofNat d + 48 ≤ 57 := by
    rw [UInt8.le_iff_toNat_le, UInt8.le_iff_toNat_le, code]
    show 48 ≤ d + 48 ∧ d + 48 ≤ 57
    omega
  have value : digit (UInt8.ofNat d + 48) = some d := by
    rw [digit, if_pos range, code, Nat.add_sub_cancel]
  rw [isDigitOf, value]
  simp [small]

theorem utoaDigits_spec (val : Nat) :
    (∀ c ∈ utoaDigits val, isDigitOf 10 c = true) ∧ numeral 10 (utoaDigits val).reverse = val := by
  induction val using Nat.strongRecOn with
  | ind val ih =>
    obtain ⟨one, value⟩ := isDigitOf_written (val % 10) (Nat.mod_lt _ (by decide))
    rw [utoaDigits]
    by_cases more : val / 10 > 0
    · obtain ⟨all, rest⟩ := ih (val / 10) (by omega)
      rw [if_pos more, List.forall_mem_cons, List.reverse_cons, numeral_append, rest]
      refine ⟨⟨one, all⟩, ?_⟩
      rw [List.foldl_cons, List.foldl_nil, shiftIn, value]
      omega
    · rw [if_neg more, List.reverse_singleton, numeral, List.foldl_cons, List.foldl_nil, shiftIn,
        value]
      refine ⟨by simpa using one, ?_⟩
      omega

theorem utoaDigits_length {k val : Nat} (below : val < 10 ^ (k + 1)) :
    (utoaDigits val).length ≤ k + 1 := by
  induction k generalizing val with
  | zero =>
    have one : ¬ val / 10 > 0 := by omega
    rw [utoaDigits, if_neg one]
    exact Nat.le_refl 1
  | succ k ih =>
    rw [utoaDigits]
    split
    · have rest : val / 10 < 10 ^ (k + 1) := by
        omega
      exact Nat.succ_le_succ (ih rest)
    · exact Nat.le_add_left 1 _

theorem digitRun_of_digits {base : Nat}
    (all : ∀ c ∈ str, isDigitOf base c = true) : strltrim str = str ∧ digitRun base str = str := by
  have trimmed : strltrim str = str := by
    cases str with
    | nil => rfl
    | cons c rest =>
      have one : isDigitOf base c = true := all c (by simp)
      have black : pjIsspace c = false := by
        rw [isDigitOf_iff] at one
        rw [← Bool.not_eq_true, pjIsspace]
        simp only [UInt8.le_iff_toNat_le, ← UInt8.toNat_inj, UInt8.reduceToNat,
          Bool.or_eq_true, Bool.and_eq_true, decide_eq_true_iff]
        omega
      rw [strltrim, List.dropWhile_cons_of_neg (by simp [black])]
  rw [digitRun, trimmed]
  exact ⟨rfl, List.takeWhile_eq_self_iff.2 all⟩

/-- Zeros in front of a number, as many as an `int` asks for, and the number again. -/
theorem pjStrtoul3_utoa (long : Width) (v : Fin (2 ^ long.bits)) (minDig : Int32) :
    pjStrtoul3 long (pjUtoaPad v minDig 48) 10 = (.success, some v.1) := by
  obtain ⟨all, value⟩ := utoaDigits_spec v.1
  have text : pjUtoaPad v minDig 48 =
      List.replicate (minDig.toInt - (utoaDigits v.1).length).toNat 48 ++
        (utoaDigits v.1).reverse := by
    rw [pjUtoaPad, List.reverse_append, List.reverse_replicate]
  have digits : ∀ c ∈ pjUtoaPad v minDig 48, isDigitOf 10 c = true := by
    intro c member
    rw [text, List.mem_append, List.mem_reverse] at member
    rcases member with pad | digit
    · rw [List.eq_of_mem_replicate pad]
      rfl
    · exact all c digit
  have same : numeral 10 (pjUtoaPad v minDig 48) = v.1 := by
    have zeros : ∀ n, numeral 10 (List.replicate n 48) = 0 := by
      intro n
      refine (foldl_eq_self _ (by decide) 0).2 (.inr ⟨rfl, fun c member => ?_⟩)
      rw [List.eq_of_mem_replicate member]
      rfl
    rw [text, numeral_append, zeros]
    exact value
  have short : (pjUtoaPad v minDig 48).length < 2 ^ 32 := by
    have few : (utoaDigits v.1).length ≤ 20 := by
      refine utoaDigits_length (Nat.lt_of_lt_of_le v.2 ?_)
      cases long <;> decide
    have asked := minDig.toInt_lt
    rw [text, List.length_append, List.length_replicate, List.length_reverse]
    omega
  obtain ⟨trimmed, run⟩ := digitRun_of_digits digits
  have enough : Counted long.maxUnsigned 10 (pjUtoaPad v minDig 48) := by
    refine .inl ?_
    rw [run, counted, trimmed, Nat.mod_eq_of_lt short]
  have nonempty : pjUtoaPad v minDig 48 ≠ [] := by
    rw [text, utoaDigits]
    simp
  rw [pjStrtoul3, (strtoul_iff _ ⟨10, by decide⟩ _).2 enough, checked, run, if_neg nonempty, clipped,
    same, if_pos]
  rw [Width.maxUnsigned]
  omega

/-! ## The checked conversions -/

/-- The conversions are exact where their loops count enough, and only there. A number that
`pj_utoa_pad` has written is always read back. -/
theorem number_iff (long uint : Width) (base : Base) (str : List UInt8) :
    (pjStrtoul3 long str base.1 = checked long.maxUnsigned base.1 str ↔
        Counted long.maxUnsigned base.1 str) ∧
      (pjStrtoul4 uint str base.1 = checked uint.maxUnsigned base.1 str ↔
        Counted uint.maxUnsigned base.1 str) ∧
      (pjStrtol2 long str = checkedSigned long str ↔ CountedSigned long str) ∧
      ∀ (v : Fin (2 ^ long.bits)) (minDig : Int32),
        pjStrtoul3 long (pjUtoaPad v minDig 48) 10 = (.success, some v.1) :=
  ⟨strtoul_iff _ base str, strtoul_iff _ base str, pjStrtol2_iff long str, pjStrtoul3_utoa long⟩

theorem run_of_padded (n : Nat) : digitRun 10 (49 :: List.replicate n 32) = [49] ∧
      counted (49 :: List.replicate n 32) = (n + 1) % 2 ^ 32 := by
  have one : isDigitOf 10 49 = true := rfl
  have blank : isDigitOf 10 32 = false := rfl
  have black : ¬ pjIsspace 49 = true := by decide
  have trimmed : strltrim (49 :: List.replicate n 32) = 49 :: List.replicate n 32 :=
    List.dropWhile_cons_of_neg black
  rw [digitRun, counted, trimmed, List.takeWhile_cons_of_pos one, List.takeWhile_replicate, blank,
    List.length_cons, List.length_replicate]
  exact ⟨rfl, rfl⟩

/-- A one and as many spaces as make the length wrap to nothing: the answer is zero. -/
theorem number_wraps :
    pjStrtoul3 .w64 (49 :: List.replicate (2 ^ 32 - 1) 32) 10 = (.success, some 0) ∧
      checked Width.w64.maxUnsigned 10 (49 :: List.replicate (2 ^ 32 - 1) 32) =
        (.success, some 1) := by
  obtain ⟨run, length⟩ := run_of_padded (2 ^ 32 - 1)
  have read := strtoul_eq Width.w64.maxUnsigned ⟨10, by decide⟩
    (49 :: List.replicate (2 ^ 32 - 1) 32)
  simp only [run, length] at read
  refine ⟨read.trans ?_, ?_⟩
  · rfl
  · rw [checked, run]
    rfl

end Pjsip.Pjlib.Number
