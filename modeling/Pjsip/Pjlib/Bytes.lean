import Pjsip.Base.CInt
import Mathlib.Data.List.TakeWhile
import Mathlib.Data.List.TakeDrop

/-!
# Strings of bytes

Strings from the network are lists of bytes and may hold a NUL, which the comparisons of the
C library take for the end of both strings.
-/

namespace Pjsip.Pjlib

/-- `pj_tolower`, in the C locale. -/
def pjTolower (c : UInt8) : UInt8 := if 65 ≤ c ∧ c ≤ 90 then c + 32 else c

/-- `pj_ansi_strnicmp`, as far as the shorter string goes: a NUL in both ends it. -/
def ansiStrnicmp : List UInt8 → List UInt8 → Int
  | a :: as, b :: bs =>
    let diff : Int := (pjTolower a).toNat - (pjTolower b).toNat
    if diff ≠ 0 then diff else if a = 0 then 0 else ansiStrnicmp as bs
  | _, _ => 0

/-- `pj_stricmp` -/
def stricmp (str1 str2 : List UInt8) : Int :=
  if str1.length = 0 then if str2.length = 0 then 0 else -1
  else if str2.length = 0 then 1
  else
    let res := ansiStrnicmp str1 str2
    if res = 0 then
      if str1.length < str2.length then -1 else if str1.length = str2.length then 0 else 1
    else res

/-- `pj_strnicmp` -/
def strnicmpBytes (str1 str2 : List UInt8) (len : Nat) : Int :=
  stricmp (str1.take len) (str2.take len)

def ascii (text : List Char) : List UInt8 := text.map Char.toUInt8

/-- The part of a string that a comparison without case sees. -/
def visible (bytes : List UInt8) : List UInt8 := (bytes.takeWhile (· ≠ 0)).map pjTolower

theorem pjTolower_eq_zero {c : UInt8} : pjTolower c = 0 ↔ c = 0 := by
  rw [pjTolower]
  split
  · next upper =>
    constructor
    · intro zero
      have sum : (c + 32).toNat = 0 := by rw [zero]; rfl
      rw [UInt8.toNat_add] at sum
      have high : c.toNat ≤ 90 := UInt8.le_iff_toNat_le.1 upper.2
      have : (32 : UInt8).toNat = 32 := rfl
      omega
    · rintro rfl
      exact absurd upper.1 (by decide)
  · rfl

variable {a b tag tag' : List UInt8}

theorem ansiStrnicmp_eq_zero (lengths : a.length = b.length) :
    ansiStrnicmp a b = 0 ↔ visible a = visible b := by
  induction a generalizing b with
  | nil =>
    have : b = [] := List.length_eq_zero_iff.1 lengths.symm
    subst this
    exact iff_of_true rfl rfl
  | cons c a ih =>
    cases b with
    | nil => cases lengths
    | cons d b =>
      have rest := ih (Nat.succ.inj lengths)
      simp only [ansiStrnicmp]
      by_cases first : pjTolower c = pjTolower d
      · have zeros : c = 0 ↔ d = 0 := by
          rw [← pjTolower_eq_zero, first, pjTolower_eq_zero]
        rw [if_neg (by simp [first])]
        by_cases zero : c = 0
        · simp [visible, zero, zeros.1 zero]
        · have other : d ≠ 0 := fun h => zero (zeros.2 h)
          rw [if_neg zero, rest]
          simp [visible, zero, other, first]
      · have apart : ((pjTolower c).toNat : Int) - (pjTolower d).toNat ≠ 0 := by
          intro same
          exact first (UInt8.toNat_inj.1 (by omega))
        rw [if_pos apart]
        refine iff_of_false apart fun same => ?_
        by_cases zero : c = 0 <;> by_cases other : d = 0
        · exact first (by rw [zero, other])
        all_goals simp [visible, zero, other, first] at same

theorem visible_lower (same : a.map pjTolower = b.map pjTolower) : visible a = visible b := by
  induction a generalizing b with
  | nil =>
    rw [List.map_nil, eq_comm, List.map_eq_nil_iff] at same
    rw [same]
  | cons c a ih =>
    cases b with
    | nil => cases same
    | cons d b =>
      obtain ⟨first, rest⟩ := List.cons.inj same
      have zeros : c = 0 ↔ d = 0 := by
        rw [← pjTolower_eq_zero, first, pjTolower_eq_zero]
      have later := ih rest
      by_cases zero : c = 0
      · simp [visible, zero, zeros.1 zero]
      · have other : d ≠ 0 := fun h => zero (zeros.2 h)
        simpa [visible, zero, other, first] using later

/-! ## Texts without case -/

/-- Equal, ignoring case. -/
def SameText (a b : List UInt8) : Prop := a.map pjTolower = b.map pjTolower

instance (a b : List UInt8) : Decidable (SameText a b) := inferInstanceAs (Decidable (_ = _))

theorem SameText.symm (same : SameText a b) : SameText b a := Eq.symm same

theorem SameText.trans {c : List UInt8} (first : SameText a b) (second : SameText b c) :
    SameText a c := Eq.trans first second

theorem SameText.length (same : SameText a b) : a.length = b.length := by
  simpa using congrArg List.length same

theorem visible_token (token : 0 ∉ a) : visible a = a.map pjTolower := by
  unfold visible
  rw [List.takeWhile_eq_self_iff.2]
  intro c mem
  have other : c ≠ 0 := fun zero => token (zero ▸ mem)
  simpa using other

theorem sameText_of_visible (token : 0 ∉ a) (lengths : a.length = b.length)
    (same : visible a = visible b) : SameText a b := by
  have whole : (b.takeWhile (· ≠ 0)).length = b.length := by
    have seen := congrArg List.length same
    rw [visible_token token, List.length_map, visible, List.length_map] at seen
    omega
  have all : b.takeWhile (· ≠ 0) = b := (List.takeWhile_sublist _).eq_of_length whole
  rw [visible_token token, visible, all] at same
  exact same

theorem stricmp_visible : stricmp a b = 0 ↔ a.length = b.length ∧ visible a = visible b := by
  by_cases lengths : a.length = b.length
  · rw [← ansiStrnicmp_eq_zero lengths]
    refine Iff.trans ?_ (and_iff_right lengths).symm
    cases a with
    | nil =>
      have empty : b = [] := List.length_eq_zero_iff.1 lengths.symm
      subst empty
      exact iff_of_true rfl rfl
    | cons c a =>
      have longer : b.length ≠ 0 := by
        rw [← lengths]
        nofun
      simp [stricmp, lengths, longer]
  · refine iff_of_false (fun zero => ?_) fun same => lengths same.1
    unfold stricmp at zero
    split at zero
    · split at zero
      · omega
      · cases zero
    · split at zero
      · cases zero
      · dsimp only at zero
        split at zero
        · split at zero
          · cases zero
          · cases zero
        · next other => exact other zero

theorem stricmp_eq_zero (token : 0 ∉ a) : stricmp a b = 0 ↔ SameText a b := by
  rw [stricmp_visible]
  constructor
  · exact fun ⟨lengths, same⟩ => sameText_of_visible token lengths same
  · exact fun same => ⟨same.length, visible_lower same⟩

/-! ## Tags -/

/-- The two tags are one for `pj_stricmp`. -/
def sameTag (tag tag' : List UInt8) : Bool := stricmp tag tag' = 0

theorem sameTag_iff :
    sameTag tag tag' = true ↔ tag.length = tag'.length ∧ visible tag = visible tag' := by
  rw [sameTag, decide_eq_true_eq, stricmp_visible]

@[simp] theorem sameTag_refl (tag : List UInt8) : sameTag tag tag = true :=
  sameTag_iff.2 ⟨rfl, rfl⟩

theorem sameTag_congr {other : List UInt8} (same : sameTag tag tag' = true) :
    sameTag tag other = sameTag tag' other := by
  obtain ⟨lengths, seen⟩ := sameTag_iff.1 same
  rw [Bool.eq_iff_iff, sameTag_iff, sameTag_iff, lengths, seen]

theorem sameTag_comm (tag tag' : List UInt8) : sameTag tag tag' = sameTag tag' tag := by
  rw [Bool.eq_iff_iff, sameTag_iff, sameTag_iff]
  exact and_congr eq_comm eq_comm

theorem sameTag_nil (tagged : tag ≠ []) : sameTag [] tag = false := by
  rw [Bool.eq_false_iff]
  intro same
  exact tagged (List.length_eq_zero_iff.1 (sameTag_iff.1 same).1.symm)

theorem ne_nil_of_sameTag (same : sameTag tag tag' = true) (tagged : tag' ≠ []) : tag ≠ [] := by
  rintro rfl
  rw [sameTag_nil tagged] at same
  cases same

end Pjsip.Pjlib

/-!
# Strings (`pj_str_t`)

A string is the list of its bytes; its length is never negative and it is not
expected to end in a zero. `pj_strcmp` is compared with 0 only, which is equality.
-/

namespace Pjsip.Pjlib

open Pjsip.Base

/-- `pj_str_t` -/
abbrev PjStr := List Char

def pjIsdigit (c : Char) : Bool := c.isDigit

/-- The white space of `pj_isspace`. -/
def pjIsspace (c : Char) : Bool := c = ' ' || (9 ≤ c.toNat && c.toNat ≤ 13)

/-- `pj_isdigit(*str->ptr)`; what an empty string points at is no digit. -/
def startsWithDigit : PjStr → Bool
  | [] => false
  | c :: _ => pjIsdigit c

def digitVal (c : Char) : Nat := c.toNat - '0'.toNat

/-- The loop of `pj_strtoul` and `pj_strtoul2` in base 10, in an `unsigned long` of 64
bits: the value, and what stands after the digits. -/
def strtoulLoop (value : Nat) : PjStr → Nat × PjStr
  | [] => (value, [])
  | c :: rest =>
    if pjIsdigit c then strtoulLoop ((value * 10 + digitVal c) % 2 ^ 64) rest
    else (value, c :: rest)

def pjStrtoul (str : PjStr) : Nat := (strtoulLoop 0 str).1

def pjStrtoul2 (str : PjStr) : Nat × PjStr := strtoulLoop 0 str

/-- The loop of `pj_strtoul3`: `none` when the value gets too big. -/
def strtoul3Loop (value : Nat) : PjStr → Option Nat
  | [] => some value
  | c :: rest =>
    if pjIsdigit c then
      if value * 10 + digitVal c < 2 ^ 64 then strtoul3Loop (value * 10 + digitVal c) rest
      else none
    else some value

/-- `pj_strtoul3` in base 10: `none` for any of its errors. -/
def pjStrtoul3 (str : PjStr) : Option Nat :=
  let s := str.dropWhile pjIsspace
  if startsWithDigit s then strtoul3Loop 0 s else none

/-- `pj_utoa` -/
def pjUtoa (val : Nat) : PjStr := Nat.toDigits 10 val

/-- `pj_ansi_strnicmp`, as far as the shorter string goes. -/
def strnicmp : PjStr → PjStr → Int
  | a :: as, b :: bs =>
    let diff : Int := a.toLower.toNat - b.toLower.toNat
    if diff = 0 then strnicmp as bs else diff
  | _, _ => 0

def pjStricmp (str1 str2 : PjStr) : Int :=
  if str1.length = 0 then if str2.length = 0 then 0 else -1
  else if str2.length = 0 then 1
  else
    let res := strnicmp str1 str2
    if res = 0 then
      if str1.length < str2.length then -1 else if str1.length = str2.length then 0 else 1
    else res

/-- `pj_strnicmp` -/
def pjStrnicmp (str1 str2 : PjStr) (len : Nat) : Int := pjStricmp (str1.take len) (str2.take len)

end Pjsip.Pjlib
