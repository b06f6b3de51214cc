import Mathlib.Data.List.DropRight
import Mathlib.Tactic.IntervalCases
import Pjsip.Errno

/-!
# Base64 (`base64.c`)

Three octets are written as four characters, for either alphabet. The decoder gathers characters
four at a time and passes over what is not in the alphabet. When a text ends in such a character,
it is gathered after all, and stands for a digit that has not been sent.
-/

namespace Pjsip.PjlibUtil.Base64

open Pjsip.Pjlib

/-! ## The model -/

/-- `PJ_BASE256_TO_BASE64_LEN` -/
def base256ToBase64Len (len : Nat) : Nat := len * 4 / 3 + 3

/-- `PJ_BASE64_TO_BASE256_LEN` -/
def base64ToBase256Len (len : Nat) : Nat := len * 3 / 4

/-- `INV`, as an `int` -/
def inv : UInt32 := -1

/-- `PADDING` -/
def padding : UInt8 := 61

/-- `base64_char` -/
def base64Char : List UInt8 :=
  "ABCDEFGHIJKLMNOPQRSTUVWXYZabcdefghijklmnopqrstuvwxyz0123456789+/".toList.map
    fun c => UInt8.ofNat c.toNat

/-- `base64url_char` -/
def base64urlChar : List UInt8 :=
  "ABCDEFGHIJKLMNOPQRSTUVWXYZabcdefghijklmnopqrstuvwxyz0123456789-_".toList.map
    fun c => UInt8.ofNat c.toNat

/-- The character of a digit below 64. -/
def digitChar (url : Bool) (digit : UInt8) : UInt8 :=
  (if url then base64urlChar else base64Char).getD digit.toNat 0

/-- `base256_char` -/
def base256Char (c : UInt8) (url : Bool) : UInt32 :=
  if 65 ≤ c ∧ c ≤ 90 then (c - 65).toUInt32
  else if 97 ≤ c ∧ c ≤ 122 then (c - 97 + 26).toUInt32
  else if 48 ≤ c ∧ c ≤ 57 then (c - 48 + 52).toUInt32
  else if (url = false ∧ c = 43) ∨ (url = true ∧ c = 45) then 62
  else if (url = false ∧ c = 47) ∨ (url = true ∧ c = 95) then 63
  else inv

/-- `base256to64` -/
def base256to64 (c1 c2 c3 : UInt8) (pad : Nat) (url : Bool) : List UInt8 :=
  let b64 := digitChar url
  b64 (c1 >>> 2) :: b64 (((c1 &&& 0x3) <<< 4) ||| ((c2 &&& 0xF0) >>> 4)) :: match pad with
    | 0 => [b64 (((c2 &&& 0xF) <<< 2) ||| ((c3 &&& 0xC0) >>> 6)), b64 (c3 &&& 0x3F)]
    | 1 => [b64 (((c2 &&& 0xF) <<< 2) ||| ((c3 &&& 0xC0) >>> 6)), padding]
    | _ => [padding, padding]

/-- The loop of `b64_encode`. -/
def encodeLoop (url : Bool) : List UInt8 → List UInt8
  | [] => []
  | [c1] => base256to64 c1 0 0 2 url
  | [c1, c2] => base256to64 c1 c2 0 1 url
  | c1 :: c2 :: c3 :: rest => base256to64 c1 c2 c3 0 url ++ encodeLoop url rest

/-- `b64_encode`, into a buffer of `outLen` characters. -/
def b64Encode (input : List UInt8) (outLen : Nat) (url : Bool) : Except PjStatus (List UInt8) :=
  if outLen < base256ToBase64Len input.length then .error .etoosmall
  else .ok (encodeLoop url input)

/-- The inner loop of `b64_decode`: what it leaves in `c[k]` when it begins at character `c`, and
the characters behind. -/
def nextDigit (url : Bool) (c : UInt8) : List UInt8 → UInt32 × List UInt8
  | [] => (base256Char c url, [])
  | d :: rest =>
    if base256Char c url = inv then nextDigit url d rest else (base256Char c url, d :: rest)

/-- Filling up `c`, with `k` places that are left of it. -/
def fillUp (url : Bool) : (k : Nat) → List UInt8 → List UInt32 × List UInt8
  | 0, s => ([], s)
  | _ + 1, [] => ([], [])
  | k + 1, c :: s =>
    let digit := nextDigit url c s
    let more := fillUp url k digit.2
    (digit.1 :: more.1, more.2)

def octet1 (c0 c1 : UInt32) : UInt8 := ((c0 <<< 2) ||| ((c1 &&& 0x30) >>> 4)).toUInt8

def octet2 (c1 c2 : UInt32) : UInt8 := (((c1 &&& 0x0F) <<< 4) ||| ((c2 &&& 0x3C) >>> 2)).toUInt8

def octet3 (c2 c3 : UInt32) : UInt8 := (((c2 &&& 0x03) <<< 6) ||| (c3 &&& 0x3F)).toUInt8

/-- The loop of `b64_decode`, which goes round no more often than there are characters: the octets
that are stored. -/
def decodeLoop (url : Bool) : (fuel : Nat) → List UInt8 → List UInt8
  | _, [] => []
  | 0, _ :: _ => []
  | fuel + 1, s =>
    match fillUp url 4 s with
    | ([c0, c1, c2, c3], s) =>
      octet1 c0 c1 :: octet2 c1 c2 :: octet3 c2 c3 :: decodeLoop url fuel s
    | ([c0, c1, c2], _) => [octet1 c0 c1, octet2 c1 c2]
    | ([c0, c1], _) => [octet1 c0 c1]
    | _ => []

def unpadded (s : List UInt8) : List UInt8 := s.rdropWhile (· = padding)

/-- `b64_decode`, into a buffer of `outLen` octets. -/
def b64Decode (input : List UInt8) (outLen : Nat) (url : Bool) : Except PjStatus (List UInt8) :=
  let s := unpadded input
  if outLen < base64ToBase256Len s.length then .error .etoosmall
  else .ok (decodeLoop url s.length s)

/-! ## Digits -/

def InAlphabet (url : Bool) (c : UInt8) : Prop := base256Char c url ≠ inv

instance (url : Bool) (c : UInt8) : Decidable (InAlphabet url c) :=
  inferInstanceAs (Decidable (_ ≠ _))

theorem padding_not_inAlphabet (url : Bool) : ¬ InAlphabet url padding := by
  cases url <;> decide

/-- The octets that digits stand for; a digit that is left over is none. -/
def octetsOf : List UInt32 → List UInt8
  | c0 :: c1 :: c2 :: c3 :: rest => octet1 c0 c1 :: octet2 c1 c2 :: octet3 c2 c3 :: octetsOf rest
  | [c0, c1, c2] => [octet1 c0 c1, octet2 c1 c2]
  | [c0, c1] => [octet1 c0 c1]
  | _ => []

theorem octetsOf_length (digits : List UInt32) :
    (octetsOf digits).length = digits.length / 4 * 3 + (digits.length % 4 - 1) := by
  fun_induction octetsOf digits with
  | case1 c0 c1 c2 c3 rest ih =>
    simp only [List.length_cons, ih]
    omega
  | case2 => simp
  | case3 => simp
  | case4 digits no4 no3 no2 =>
    match digits with
    | [] => simp
    | [_] => simp
    | [a, b] => exact absurd rfl (no2 a b)
    | [a, b, c] => exact absurd rfl (no3 a b c)
    | a :: b :: c :: d :: rest => exact absurd rfl (no4 a b c d rest)

/-- What the decoder gathers: the digits of the characters in the alphabet, and what the last
character stands for whatever it is. -/
def gathered (url : Bool) : List UInt8 → List UInt32
  | [] => []
  | [c] => [base256Char c url]
  | c :: d :: rest =>
    if base256Char c url = inv then gathered url (d :: rest)
    else base256Char c url :: gathered url (d :: rest)

section Gathering

variable {url : Bool}

theorem gathered_length (url : Bool) (s : List UInt8) : (gathered url s).length ≤ s.length := by
  fun_induction gathered url s with
  | case1 => rfl
  | case2 => rfl
  | case3 c d rest bad ih =>
    simp only [List.length_cons] at ih ⊢
    omega
  | case4 c d rest good ih =>
    simp only [List.length_cons] at ih ⊢
    omega

theorem gathered_nextDigit (c : UInt8) (s : List UInt8) :
    gathered url (c :: s) = (nextDigit url c s).1 :: gathered url (nextDigit url c s).2 := by
  induction s generalizing c with
  | nil => rfl
  | cons d rest ih =>
    rw [gathered, nextDigit]
    by_cases bad : base256Char c url = inv
    · rw [if_pos bad, if_pos bad]
      exact ih d
    · rw [if_neg bad, if_neg bad]

theorem nextDigit_length (url : Bool) (c : UInt8) (s : List UInt8) :
    (nextDigit url c s).2.length ≤ s.length := by
  induction s generalizing c with
  | nil => rfl
  | cons d rest ih =>
    unfold nextDigit
    split
    · exact Nat.le_succ_of_le (ih d)
    · exact Nat.le_refl _

/-- Filling up takes the first digits that are gathered, unless there are no more. -/
theorem fillUp_gathered (url : Bool) (k : Nat) (s : List UInt8) :
    gathered url s = (fillUp url k s).1 ++ gathered url (fillUp url k s).2
      ∧ (fillUp url k s).1.length ≤ k
      ∧ ((fillUp url k s).1.length < k → (fillUp url k s).2 = [])
      ∧ (fillUp url k s).2.length + (fillUp url k s).1.length ≤ s.length := by
  induction k generalizing s with
  | zero => exact ⟨rfl, Nat.le_refl _, nofun, Nat.le_refl _⟩
  | succ k ih =>
    cases s with
    | nil => exact ⟨rfl, Nat.zero_le _, fun _ => rfl, Nat.le_refl _⟩
    | cons c s =>
      obtain ⟨same, few, done, inside⟩ := ih (nextDigit url c s).2
      have shorter := nextDigit_length url c s
      refine ⟨?_, Nat.succ_le_succ few, fun less => done (Nat.lt_of_succ_lt_succ less), ?_⟩
      · rw [gathered_nextDigit, same]
        rfl
      · show (fillUp url k (nextDigit url c s).2).2.length
          + ((fillUp url k (nextDigit url c s).2).1.length + 1) ≤ s.length + 1
        omega

theorem decodeLoop_eq (fuel : Nat) (s : List UInt8) (enough : s.length ≤ fuel) :
    decodeLoop url fuel s = octetsOf (gathered url s) := by
  induction fuel generalizing s with
  | zero =>
    cases s with
    | nil => rfl
    | cons c s => simp at enough
  | succ fuel ih =>
    cases s with
    | nil => rfl
    | cons c s =>
      obtain ⟨same, few, done, inside⟩ := fillUp_gathered url 4 (c :: s)
      unfold decodeLoop
      generalize fillUp url 4 (c :: s) = filled at same few done inside
      obtain ⟨digits, left⟩ := filled
      dsimp only at same few done inside
      rw [same]
      match digits with
      | [] =>
        cases done (by simp)
        rfl
      | [c0] =>
        cases done (by simp)
        rfl
      | [c0, c1] =>
        cases done (by simp)
        rfl
      | [c0, c1, c2] =>
        cases done (by simp)
        rfl
      | [c0, c1, c2, c3] =>
        simp only [List.length_cons, List.length_nil] at inside enough
        simp only [List.cons_append, List.nil_append, octetsOf]
        rw [ih left (by omega)]
      | _ :: _ :: _ :: _ :: _ :: _ =>
        simp only [List.length_cons] at few
        omega

end Gathering

/-! ## The octets of an encoding -/

theorem base256Char_digitChar (url : Bool) (digit : UInt8) (small : digit < 64) :
    base256Char (digitChar url digit) url = digit.toUInt32 := by
  have all : ∀ (url : Bool) (n : Fin 64),
      base256Char (digitChar url (UInt8.ofNat n)) url = (UInt8.ofNat n).toUInt32 := by
    decide +kernel
  have same := all url ⟨digit.toNat, UInt8.lt_iff_toNat_lt.1 small⟩
  rwa [UInt8.ofNat_toNat] at same

/-- The second digit, and the third. -/
def digit2 (c1 c2 : UInt8) : UInt8 := ((c1 &&& 0x3) <<< 4) ||| ((c2 &&& 0xF0) >>> 4)

def digit3 (c2 c3 : UInt8) : UInt8 := ((c2 &&& 0xF) <<< 2) ||| ((c3 &&& 0xC0) >>> 6)

/-- The digits that are written for octets. -/
def digits : List UInt8 → List UInt8
  | [] => []
  | [c1] => [c1 >>> 2, digit2 c1 0]
  | [c1, c2] => [c1 >>> 2, digit2 c1 c2, digit3 c2 0]
  | c1 :: c2 :: c3 :: rest =>
    (c1 >>> 2) :: digit2 c1 c2 :: digit3 c2 c3 :: (c3 &&& 0x3F) :: digits rest

/-! The octets come back, bit by bit. -/

theorem octet1_digits (c1 c2 : UInt8) :
    octet1 (c1 >>> 2).toUInt32 (digit2 c1 c2).toUInt32 = c1 := by
  rw [← UInt8.toBitVec_inj, octet1, digit2, UInt32.toBitVec_toUInt8]
  ext i small
  interval_cases i <;> simp [-UInt8.toUInt32_shiftLeft]

theorem octet2_digits (c1 c2 c3 : UInt8) :
    octet2 (digit2 c1 c2).toUInt32 (digit3 c2 c3).toUInt32 = c2 := by
  rw [← UInt8.toBitVec_inj, octet2, digit2, digit3, UInt32.toBitVec_toUInt8]
  ext i small
  interval_cases i <;> simp [-UInt8.toUInt32_shiftLeft]

theorem octet3_digits (c2 c3 : UInt8) :
    octet3 (digit3 c2 c3).toUInt32 (c3 &&& 0x3F).toUInt32 = c3 := by
  rw [← UInt8.toBitVec_inj, octet3, digit3, UInt32.toBitVec_toUInt8]
  ext i small
  interval_cases i <;> simp [-UInt8.toUInt32_shiftLeft]

theorem octetsOf_digits (x : List UInt8) : octetsOf ((digits x).map UInt8.toUInt32) = x := by
  fun_induction digits x with
  | case1 => rfl
  | case2 c1 =>
    show [_] = _
    rw [octet1_digits]
  | case3 c1 c2 =>
    show [_, _] = _
    rw [octet1_digits, octet2_digits]
  | case4 c1 c2 c3 rest ih =>
    show _ :: _ :: _ :: octetsOf _ = _
    rw [octet1_digits, octet2_digits, octet3_digits, ih]

theorem digit_small (c d : UInt8) :
    c >>> 2 < 64 ∧ digit2 c d < 64 ∧ digit3 c d < 64 ∧ c &&& 0x3F < 64 := by
  have three := Nat.and_lt_two_pow c.toNat (show 3 < 2 ^ 2 by decide)
  have fifteen := Nat.and_lt_two_pow c.toNat (show 15 < 2 ^ 4 by decide)
  have high := Nat.and_lt_two_pow d.toNat (show 240 < 2 ^ 8 by decide)
  have highest := Nat.and_lt_two_pow d.toNat (show 192 < 2 ^ 8 by decide)
  have octet := c.toNat_lt
  simp only [UInt8.lt_iff_toNat_lt, digit2, digit3, UInt8.toNat_or]
  refine ⟨?_, Nat.or_lt_two_pow (n := 6) ?_ ?_, Nat.or_lt_two_pow (n := 6) ?_ ?_, ?_⟩
  · simp [Nat.shiftRight_eq_div_pow]
    omega
  · simp [Nat.shiftLeft_eq]
    omega
  · simp [Nat.shiftRight_eq_div_pow]
    omega
  · simp [Nat.shiftLeft_eq]
    omega
  · simp [Nat.shiftRight_eq_div_pow]
    omega
  · rw [UInt8.toNat_and]
    exact Nat.and_lt_two_pow (n := 6) _ (by decide)

theorem digits_small (x : List UInt8) : ∀ digit ∈ digits x, digit < 64 := by
  fun_induction digits x with
  | case1 => nofun
  | case2 c1 => simp [digit_small c1 0]
  | case3 c1 c2 => simp [digit_small c1 c2, digit_small c2 0]
  | case4 c1 c2 c3 rest ih =>
    simp only [List.forall_mem_cons]
    exact ⟨(digit_small c1 c2).1, (digit_small c1 c2).2.1, (digit_small c2 c3).2.2.1,
      (digit_small c3 0).2.2.2, ih⟩

theorem digits_length (x : List UInt8) : base64ToBase256Len (digits x).length = x.length := by
  unfold base64ToBase256Len
  fun_induction digits x with
  | case1 => rfl
  | case2 => simp
  | case3 => simp
  | case4 c1 c2 c3 rest ih =>
    simp only [List.length_cons]
    omega

theorem encodeLoop_eq (url : Bool) (x : List UInt8) :
    ∃ n, encodeLoop url x = (digits x).map (digitChar url) ++ List.replicate n padding := by
  fun_induction digits x with
  | case1 => exact ⟨0, rfl⟩
  | case2 c1 => exact ⟨2, rfl⟩
  | case3 c1 c2 => exact ⟨1, rfl⟩
  | case4 c1 c2 c3 rest ih =>
    obtain ⟨n, same⟩ := ih
    exact ⟨n, by rw [encodeLoop, same]; rfl⟩

/-! ## Texts of the alphabet -/

section Alphabet

variable {url : Bool}

theorem gathered_alphabet {s : List UInt8} (all : ∀ c ∈ s, InAlphabet url c) :
    gathered url s = s.map fun c => base256Char c url := by
  fun_induction gathered url s with
  | case1 => rfl
  | case2 => rfl
  | case3 c d rest bad ih => exact absurd bad (all c (by simp))
  | case4 c d rest good ih =>
    rw [ih fun c inside => all c (List.mem_cons_of_mem _ inside)]
    rfl

theorem unpadded_alphabet {s : List UInt8} (all : ∀ c ∈ s, InAlphabet url c) (n : Nat) :
    unpadded (s ++ List.replicate n padding) = s := by
  unfold unpadded
  induction n with
  | zero =>
    rw [List.replicate_zero, List.append_nil, List.rdropWhile_eq_self_iff]
    intro nonempty last
    have pad : s.getLast nonempty = padding := by simpa using last
    exact padding_not_inAlphabet url (pad ▸ all _ (List.getLast_mem nonempty))
  | succ n ih =>
    rw [List.replicate_succ', ← List.append_assoc, List.rdropWhile_concat_pos _ _ _ (by simp), ih]

/-- What is gathered of any text: the digits of its characters in the alphabet, and one more if it
ends in another character. -/
theorem gathered_eq (s : List UInt8) :
    gathered url s = (s.filter (InAlphabet url ·)).map (fun c => base256Char c url)
      ++ if s.getLast?.all (InAlphabet url ·) then [] else [inv] := by
  fun_induction gathered url s with
  | case1 => rfl
  | case2 c =>
    by_cases good : InAlphabet url c
    · simp [good]
    · have bad : base256Char c url = inv := not_not.1 good
      simp [good, bad]
  | case3 c d rest bad ih =>
    have out : ¬ InAlphabet url c := not_not.2 bad
    simp only [ih, List.filter_cons, out, decide_false, List.getLast?_cons_cons]
    rfl
  | case4 c d rest good ih =>
    have inside : decide (InAlphabet url c) = true := decide_eq_true good
    rw [ih, List.filter_cons (x := c), if_pos inside, List.getLast?_cons_cons]
    rfl

end Alphabet

/-! ## Decoding -/

theorem unpadded_filter (url : Bool) (s : List UInt8) :
    (unpadded s).filter (InAlphabet url ·) = s.filter (InAlphabet url ·) := by
  have noDigits : (s.rtakeWhile (· = padding)).filter (InAlphabet url ·) = [] := by
    rw [List.filter_eq_nil_iff]
    intro c inside
    have pad : c = padding := by simpa using List.mem_rtakeWhile_imp inside
    rw [pad, decide_eq_true_iff]
    exact padding_not_inAlphabet url
  have whole := congrArg (List.filter (InAlphabet url ·))
    (List.rdropWhile_append_rtakeWhile (p := fun c => decide (c = padding)) (l := s))
  rw [List.filter_append, noDigits, List.append_nil] at whole
  exact whole

/-- Without the padding at its end, the text ends in a character that is not in the alphabet, and
its characters in the alphabet are not all in groups of four. -/
def EndsInJunk (url : Bool) (s : List UInt8) : Prop :=
  (∃ c, (unpadded s).getLast? = some c ∧ ¬ InAlphabet url c)
    ∧ (s.filter (InAlphabet url ·)).length % 4 ≠ 0

theorem octetsOf_inv (digits : List UInt32) :
    octetsOf (digits ++ [inv]) = octetsOf digits ↔ digits.length % 4 = 0 := by
  constructor
  · intro same
    have lengths := congrArg List.length same
    rw [octetsOf_length, octetsOf_length, List.length_append] at lengths
    simp only [List.length_cons, List.length_nil] at lengths
    omega
  · fun_induction octetsOf digits with
    | case1 c0 c1 c2 c3 rest ih =>
      intro four
      simp only [List.length_cons] at four
      simp only [List.cons_append, octetsOf]
      rw [ih (by omega)]
    | case2 => nofun
    | case3 => nofun
    | case4 digits no4 no3 no2 =>
      intro four
      match digits with
      | [] => rfl
      | [_] => simp at four
      | [a, b] => exact absurd rfl (no2 a b)
      | [a, b, c] => exact absurd rfl (no3 a b c)
      | a :: b :: c :: d :: rest => exact absurd rfl (no4 a b c d rest)

section Decoding

variable {url : Bool}

variable {s : List UInt8} {outLen : Nat}

theorem b64Decode_ok (room : base64ToBase256Len (unpadded s).length ≤ outLen) :
    b64Decode s outLen url = .ok (octetsOf (gathered url (unpadded s))) := by
  unfold b64Decode
  rw [if_neg (by omega), decodeLoop_eq _ _ (Nat.le_refl _)]

theorem b64Decode_filter (room : base64ToBase256Len (unpadded s).length ≤ outLen) :
    b64Decode (s.filter (InAlphabet url ·)) outLen url
      = .ok (octetsOf ((s.filter (InAlphabet url ·)).map fun c => base256Char c url)) := by
  have all : ∀ c ∈ s.filter (InAlphabet url ·), InAlphabet url c := fun c inside =>
    of_decide_eq_true (List.mem_filter.1 inside).2
  have same := unpadded_alphabet all 0
  rw [List.replicate_zero, List.append_nil] at same
  have shorter : (s.filter (InAlphabet url ·)).length ≤ (unpadded s).length := by
    rw [← unpadded_filter]
    exact List.length_filter_le ..
  have room' : base64ToBase256Len (unpadded (s.filter (InAlphabet url ·))).length ≤ outLen := by
    rw [same]
    unfold base64ToBase256Len at room ⊢
    omega
  rw [b64Decode_ok room', same, gathered_alphabet all]

theorem decode_encode (x : List UInt8) {outLen' : Nat}
    (room : base256ToBase64Len x.length ≤ outLen) (room' : x.length ≤ outLen') :
    ∃ text, b64Encode x outLen url = .ok text ∧ b64Decode text outLen' url = .ok x := by
  obtain ⟨n, same⟩ := encodeLoop_eq url x
  have value : ∀ digit ∈ digits x,
      base256Char (digitChar url digit) url = digit.toUInt32 := fun digit inside =>
    base256Char_digitChar url digit (digits_small x digit inside)
  have notInv : ∀ digit < (64 : UInt8), digit.toUInt32 ≠ inv := by
    intro digit small same
    have all := congrArg UInt32.toNat same
    rw [UInt8.toNat_toUInt32] at all
    have octet := digit.toNat_lt
    rw [all] at octet
    revert octet
    decide
  have all : ∀ c ∈ (digits x).map (digitChar url), InAlphabet url c := by
    intro c inside
    obtain ⟨digit, mem, rfl⟩ := List.mem_map.1 inside
    unfold InAlphabet
    rw [value digit mem]
    exact notInv digit (digits_small x digit mem)
  have chars := unpadded_alphabet all n
  have read : gathered url (unpadded (encodeLoop url x)) = (digits x).map UInt8.toUInt32 := by
    rw [same, chars, gathered_alphabet all, List.map_map]
    exact List.map_congr_left value
  refine ⟨encodeLoop url x, if_neg (by omega), ?_⟩
  rw [b64Decode_ok, read, octetsOf_digits]
  rw [same, chars, List.length_map, digits_length]
  exact room'

theorem decode_length {octets : List UInt8} (decoded : b64Decode s outLen url = .ok octets) :
    octets.length ≤ base64ToBase256Len (unpadded s).length := by
  by_cases room : base64ToBase256Len (unpadded s).length ≤ outLen
  · rw [b64Decode_ok room] at decoded
    cases decoded
    have few := gathered_length url (unpadded s)
    rw [octetsOf_length]
    unfold base64ToBase256Len
    omega
  · unfold b64Decode at decoded
    rw [if_pos (by omega)] at decoded
    cases decoded

theorem decode_filter_iff (room : base64ToBase256Len (unpadded s).length ≤ outLen) :
    b64Decode s outLen url = b64Decode (s.filter (InAlphabet url ·)) outLen url
      ↔ ¬ EndsInJunk url s := by
  rw [b64Decode_ok room, b64Decode_filter room, Except.ok.injEq, gathered_eq, unpadded_filter]
  unfold EndsInJunk
  cases last : (unpadded s).getLast? with
  | none => simp
  | some c =>
    by_cases good : InAlphabet url c
    · simp [good]
    · have junk : (some c).all (InAlphabet url ·) = false := by simpa using good
      rw [junk, if_neg Bool.false_ne_true, octetsOf_inv, List.length_map]
      constructor
      · rintro four ⟨-, left⟩
        exact left four
      · intro clean
        by_contra left
        exact clean ⟨⟨c, rfl, good⟩, left⟩

end Decoding

/-- What holds of the codec, for either alphabet: what is encoded is decoded, no more is stored
than the length that the macro gives, and other characters are ignored unless the text ends in
them behind digits that are left over. -/
theorem base64_roundTrip_and_ignores_iff (url : Bool) :
    (∀ (x : List UInt8) (outLen outLen' : Nat), base256ToBase64Len x.length ≤ outLen →
      x.length ≤ outLen' →
        ∃ text, b64Encode x outLen url = .ok text ∧ b64Decode text outLen' url = .ok x)
    ∧ (∀ (s octets : List UInt8) (outLen : Nat), b64Decode s outLen url = .ok octets →
        octets.length ≤ base64ToBase256Len (unpadded s).length)
    ∧ ∀ (s : List UInt8) (outLen : Nat), base64ToBase256Len (unpadded s).length ≤ outLen →
        (b64Decode s outLen url = b64Decode (s.filter (InAlphabet url ·)) outLen url
          ↔ ¬ EndsInJunk url s) :=
  ⟨fun x _ _ => decode_encode x, fun _ _ _ => decode_length, fun _ _ => decode_filter_iff⟩

section Examples

/-- "QQ==" is decoded to "A". -/
theorem base64_ignores_padding : b64Decode [81, 81, 61, 61] 1 false
      = b64Decode ([81, 81, 61, 61].filter (InAlphabet false ·)) 1 false := by
  refine ((base64_roundTrip_and_ignores_iff false).2.2 [81, 81, 61, 61] 1 ?_).2 ?_
  · decide
  · rintro ⟨⟨c, last, junk⟩, -⟩
    have same : some c = some 81 := last.symm
    cases same
    exact junk (by decide)

/-- "QQ!" is decoded to two octets, "QQ" to one. -/
theorem base64_gathers_junk : ¬ ∀ (url : Bool) (s : List UInt8) (outLen : Nat),
        base64ToBase256Len (unpadded s).length ≤ outLen →
          b64Decode s outLen url = b64Decode (s.filter (InAlphabet url ·)) outLen url := by
  intro ignores
  have same := ignores false [81, 81, 33] 2 (by decide)
  revert same
  decide

end Examples

end Pjsip.PjlibUtil.Base64
