import Mathlib.Data.List.TakeWhile
import Pjsip.Base.Octets

/-!
# Values of generic headers

`parse_generic_string_hdr`. The scanner passes over whitespace behind a token, and over a line end
when the next line begins with whitespace. The value of a header may have been folded so; the
parser takes two fragments each time it goes round.
-/

namespace Pjsip.Sip.GenericString

/-! ## The scanner

What is left of the text, with `PJ_SCAN_AUTOSKIP_WS_HEADER`; behind it stands a NUL. `none` is a
syntax error, which is thrown. -/

/-- `PJ_SCAN_IS_SPACE` -/
def isSpace (c : UInt8) : Bool := c = 32 || c = 9

/-- `PJ_SCAN_IS_NEWLINE` -/
def isNewline (c : UInt8) : Bool := c = 13 || c = 10

/-- `PJ_SCAN_IS_PROBABLY_SPACE`, of a signed character -/
def isProbablySpace (c : UInt8) : Bool := c ≤ 32 || 128 ≤ c

/-- `pjsip_NOT_NEWLINE` -/
def notNewline (c : UInt8) : Bool := c ≠ 0 && c ≠ 13 && c ≠ 10

/-- `*scanner->curptr` -/
def peek (s : List UInt8) : UInt8 := s.headD 0

/-- A line end is CR, LF or both. -/
def passNewline (s : List UInt8) : List UInt8 :=
  let s := if peek s = 13 then s.drop 1 else s
  if peek s = 10 then s.drop 1 else s

/-- `pj_scan_skip_whitespace` -/
def skipWhitespace (s : List UInt8) : List UInt8 :=
  let s := s.dropWhile isSpace
  if isNewline (peek s) then
    -- a continuation of the header begins with whitespace
    if isSpace (peek (passNewline s)) then (passNewline s).dropWhile isSpace else s
  else s

/-- `pj_scan_get` -/
def get (spec : UInt8 → Bool) (s : List UInt8) : Option (List UInt8 × List UInt8) :=
  if s.length = 0 ∨ spec (peek s) = false then none
  else
    let rest := s.dropWhile spec
    some (s.takeWhile spec,
      if rest.length ≠ 0 ∧ isProbablySpace (peek rest) = true then skipWhitespace rest else rest)

/-- `pj_scan_get_char`; only what is left is used of it. -/
def getChar : List UInt8 → Option (List UInt8)
  | [] => none
  | c :: rest =>
    if c = 0 then none
    else some (if rest.length ≠ 0 ∧ isProbablySpace (peek rest) = true then skipWhitespace rest
      else rest)

/-- `pj_scan_get_newline` -/
def getNewline (s : List UInt8) : Option (List UInt8) :=
  if s.length = 0 ∨ isNewline (peek s) = false then none else some (passNewline s)

/-! ## The parser -/

/-- `parse_hdr_end` -/
def parseHdrEnd (s : List UInt8) : Option (List UInt8) :=
  if s.length = 0 then some s
  else if peek s = 38 then getChar s
  else getNewline s

/-- The loop of `parse_generic_string_hdr`, which takes one octet at least each time it goes
round: the value, and what is left. -/
def hvalueLoop : (fuel : Nat) → (hvalue s : List UInt8) → Option (List UInt8 × List UInt8)
  | 0, hvalue, s => some (hvalue, s)
  | fuel + 1, hvalue, s =>
    if notNewline (peek s) then do
      let (hvalue, s) ← get notNewline s
      if s.length = 0 ∨ isNewline (peek s) = true then some (hvalue, s)
      else do
        -- mangled, get next fraction
        let (next, s) ← get notNewline s
        hvalueLoop fuel (hvalue ++ 32 :: next) s
    else some (hvalue, s)

/-- `parse_generic_string_hdr`: the value, and what is left. -/
def parseGenericStringHdr (s : List UInt8) : Option (List UInt8 × List UInt8) := do
  let (hvalue, s) ← hvalueLoop s.length [] s
  let s ← parseHdrEnd s
  some (hvalue, s)

/-! ## Folded values -/

/-- What stands on one line: no line end, no NUL, and it does not begin with whitespace. -/
structure Fragment where
  first : UInt8
  rest : List UInt8
  begins : isSpace first = false
  onLine : ∀ c ∈ first :: rest, notNewline c = true

def Fragment.text (fragment : Fragment) : List UInt8 := fragment.first :: fragment.rest

/-- The end of a line, and the whitespace that the next line begins with. -/
structure Fold where
  newline : { newline : List UInt8 // newline = [13, 10] ∨ newline = [10] ∨ newline = [13] }
  blank : UInt8
  blanks : List UInt8
  white : ∀ c ∈ blank :: blanks, isSpace c = true

def Fold.text (fold : Fold) : List UInt8 := fold.newline.1 ++ fold.blank :: fold.blanks

/-- A value, of one fragment and others behind folds. -/
structure Folded where
  first : Fragment
  more : List (Fold × Fragment)

def moreText (more : List (Fold × Fragment)) : List UInt8 :=
  more.flatMap fun line => line.1.text ++ line.2.text

def Folded.text (value : Folded) : List UInt8 := value.first.text ++ moreText value.more

def Folded.lines (value : Folded) : Nat := value.more.length + 1

/-- The fragments in order, joined by single spaces. -/
def Folded.joined (value : Folded) : List UInt8 :=
  value.first.text ++ value.more.flatMap fun line => 32 :: line.2.text

/-- What stands behind a value: nothing, or a line end that is not that of a fold. -/
structure Ends (behind : List UInt8) : Prop where
  newline : behind = [] ∨ isNewline (peek behind) = true
  notFold : isSpace (peek (passNewline behind)) = false

/-! ## One token -/

theorem notNewline_iff (c : UInt8) : notNewline c = true ↔ c ≠ 0 ∧ isNewline c = false := by
  simp [notNewline, isNewline, and_assoc]

theorem isNewline_notSpace {c : UInt8} (newline : isNewline c = true) :
    isSpace c = false ∧ isProbablySpace c = true ∧ notNewline c = false := by
  have cases_ : c = 13 ∨ c = 10 := by simpa [isNewline] using newline
  rcases cases_ with rfl | rfl <;> decide

variable {behind : List UInt8}

theorem get_line (fragment : Fragment) (stops : notNewline (peek behind) = false) :
    get notNewline (fragment.text ++ behind) = some (fragment.text,
      if behind.length ≠ 0 ∧ isProbablySpace (peek behind) = true then skipWhitespace behind
      else behind) := by
  have all : ∀ c ∈ fragment.text, notNewline c = true := fragment.onLine
  have first : notNewline fragment.first = true := all _ List.mem_cons_self
  have taken : (fragment.text ++ behind).takeWhile notNewline = fragment.text := by
    rw [List.takeWhile_append_of_pos all]
    cases behind with
    | nil => simp
    | cons c rest =>
      rw [List.takeWhile_cons_of_neg (by simpa [peek] using stops), List.append_nil]
  have left : (fragment.text ++ behind).dropWhile notNewline = behind := by
    rw [List.dropWhile_append_of_pos all]
    cases behind with
    | nil => rfl
    | cons c rest => exact List.dropWhile_cons_of_neg (by simpa [peek] using stops)
  unfold get
  have proceeds : ¬ ((fragment.text ++ behind).length = 0
      ∨ notNewline (peek (fragment.text ++ behind)) = false) := by
    simp [Fragment.text, peek, first]
  rw [if_neg proceeds, taken, left]

theorem passNewline_fold (fold : Fold) (behind : List UInt8) :
    passNewline (fold.text ++ behind) = fold.blank :: (fold.blanks ++ behind) := by
  have white : isSpace fold.blank = true := fold.white _ List.mem_cons_self
  have other : fold.blank ≠ 13 ∧ fold.blank ≠ 10 := by
    constructor
    · rintro same
      rw [same] at white
      exact absurd white (by decide)
    · rintro same
      rw [same] at white
      exact absurd white (by decide)
  obtain ⟨⟨newline, kind⟩, blank, blanks, _⟩ := fold
  rcases kind with rfl | rfl | rfl <;> simp [Fold.text, passNewline, peek, other]

theorem peek_fold (fold : Fold) (behind : List UInt8) :
    isNewline (peek (fold.text ++ behind)) = true := by
  obtain ⟨⟨newline, kind⟩, blank, blanks, _⟩ := fold
  rcases kind with rfl | rfl | rfl <;> rfl

theorem skipWhitespace_fold (fold : Fold) (fragment : Fragment) (behind : List UInt8) :
    skipWhitespace (fold.text ++ (fragment.text ++ behind)) = fragment.text ++ behind := by
  have white : isSpace fold.blank = true := fold.white _ List.mem_cons_self
  have newline := peek_fold fold (fragment.text ++ behind)
  have stays : (fold.text ++ (fragment.text ++ behind)).dropWhile isSpace
      = fold.text ++ (fragment.text ++ behind) := by
    generalize fold.text ++ (fragment.text ++ behind) = s at newline
    cases s with
    | nil => rfl
    | cons c rest =>
      have not_ := (isNewline_notSpace newline).1
      exact List.dropWhile_cons_of_neg (by simpa [peek] using not_)
  unfold skipWhitespace
  rw [stays]
  dsimp only
  rw [passNewline_fold, if_pos newline]
  show (if isSpace fold.blank = true then _ else _) = _
  rw [if_pos white, ← List.cons_append, List.dropWhile_append_of_pos fold.white]
  exact List.dropWhile_cons_of_neg (by simp [fragment.begins])

theorem skipWhitespace_ends (ends : Ends behind) : skipWhitespace behind = behind := by
  cases behind with
  | nil => rfl
  | cons c rest =>
    have newline : isNewline c = true := by
      rcases ends.newline with ended | newline
      · cases ended
      · exact newline
    have stays : (c :: rest).dropWhile isSpace = c :: rest :=
      List.dropWhile_cons_of_neg (by simp [isNewline_notSpace newline])
    unfold skipWhitespace
    rw [stays]
    dsimp only
    rw [ends.notFold, if_neg Bool.false_ne_true, ite_self]

theorem get_folded (fragment next : Fragment) (fold : Fold) (behind : List UInt8) :
    get notNewline (fragment.text ++ (fold.text ++ (next.text ++ behind)))
      = some (fragment.text, next.text ++ behind) := by
  have newline := peek_fold fold (next.text ++ behind)
  obtain ⟨-, probably, stops⟩ := isNewline_notSpace newline
  have nonempty : (fold.text ++ (next.text ++ behind)).length ≠ 0 := by
    simp [Fold.text]
  rw [get_line fragment stops, if_pos ⟨nonempty, probably⟩, skipWhitespace_fold]

theorem get_last (fragment : Fragment) (ends : Ends behind) :
    get notNewline (fragment.text ++ behind) = some (fragment.text, behind) := by
  have stops : notNewline (peek behind) = false := by
    rcases ends.newline with rfl | newline
    · rfl
    · exact (isNewline_notSpace newline).2.2
  rw [get_line fragment stops, skipWhitespace_ends ends, ite_self]

/-! ## The loop -/

/-- The value that the loop comes to: the last fragment, with the one before it if their number is
even. -/
def kept : (first : Fragment) → (more : List (Fold × Fragment)) → List UInt8
  | first, [] => first.text
  | first, [line] => first.text ++ 32 :: line.2.text
  | _, _ :: line :: more => kept line.2 more

theorem hvalueLoop_eq (fuel : Nat) (hvalue : List UInt8) (first : Fragment)
    (more : List (Fold × Fragment)) (ends : Ends behind) (enough : more.length < 2 * fuel) :
    hvalueLoop fuel hvalue (first.text ++ (moreText more ++ behind))
      = some (kept first more, behind) := by
  -- by induction on the lines, two at a time
  have start (fragment : Fragment) (s : List UInt8) :
      notNewline (peek (fragment.text ++ s)) = true := fragment.onLine _ List.mem_cons_self
  have onwards (fragment : Fragment) (s : List UInt8) :
      ¬ ((fragment.text ++ s).length = 0 ∨ isNewline (peek (fragment.text ++ s)) = true) := by
    have here := ((notNewline_iff _).1 (start fragment s)).2
    rintro (ended | newline)
    · simp [Fragment.text] at ended
    · rw [here] at newline
      cases newline
  have stop : behind.length = 0 ∨ isNewline (peek behind) = true := by
    rcases ends.newline with rfl | newline
    · exact .inl rfl
    · exact .inr newline
  have beyond : notNewline (peek behind) = false := by
    rcases ends.newline with rfl | newline
    · rfl
    · exact (isNewline_notSpace newline).2.2
  fun_induction kept first more generalizing fuel hvalue with
  | case1 first =>
    cases fuel with
    | zero => omega
    | succ fuel =>
      unfold hvalueLoop
      rw [if_pos (start first _)]
      show (get notNewline (first.text ++ behind)).bind _ = _
      rw [get_last first ends]
      exact if_pos stop
  | case2 first line =>
    cases fuel with
    | zero => omega
    | succ fuel =>
      obtain ⟨fold, next⟩ := line
      have text : first.text ++ (moreText [(fold, next)] ++ behind)
          = first.text ++ (fold.text ++ (next.text ++ behind)) := by
        simp [moreText]
      unfold hvalueLoop
      rw [if_pos (start first _), text, get_folded]
      show (if _ then _ else (get notNewline (next.text ++ behind)).bind _) = _
      rw [if_neg (onwards next _), get_last next ends]
      show hvalueLoop fuel _ behind = _
      cases fuel with
      | zero => rfl
      | succ fuel =>
        unfold hvalueLoop
        rw [beyond]
        rfl
  | case3 first line₁ line₂ more ih =>
    cases fuel with
    | zero => simp at enough
    | succ fuel =>
      obtain ⟨fold, next⟩ := line₁
      obtain ⟨fold', next'⟩ := line₂
      have text : first.text ++ (moreText ((fold, next) :: (fold', next') :: more) ++ behind)
          = first.text ++ (fold.text ++ (next.text
            ++ (fold'.text ++ (next'.text ++ (moreText more ++ behind))))) := by
        simp [moreText]
      simp only [List.length_cons] at enough
      unfold hvalueLoop
      rw [if_pos (start first _), text, get_folded]
      show (if _ then _ else (get notNewline (next.text ++ _)).bind _) = _
      rw [if_neg (onwards next _), get_folded]
      exact ih fuel _ (by omega)

theorem text_length (first : Fragment) (more : List (Fold × Fragment)) :
    more.length < (first.text ++ moreText more).length := by
  induction more with
  | nil => simp [Fragment.text]
  | cons line more ih =>
    simp only [moreText, List.flatMap_cons, List.length_append, List.length_cons] at ih ⊢
    have positive : 0 < line.2.text.length := Nat.succ_pos _
    omega

theorem parseHdrEnd_ends (ends : Ends behind) : ∃ left, parseHdrEnd behind = some left := by
  unfold parseHdrEnd
  rcases ends.newline with rfl | newline
  · exact ⟨[], rfl⟩
  · have other : peek behind ≠ 38 := by
      intro same
      rw [same] at newline
      exact absurd newline (by decide)
    by_cases done : behind.length = 0
    · exact ⟨behind, if_pos done⟩
    · rw [if_neg done, if_neg other, getNewline, if_neg (by simp [done, newline])]
      exact ⟨_, rfl⟩

theorem parse_kept (value : Folded) (ends : Ends behind) :
    (parseGenericStringHdr (value.text ++ behind)).map Prod.fst
      = some (kept value.first value.more) := by
  have fewer := text_length value.first value.more
  have loop := hvalueLoop_eq (value.text ++ behind).length [] value.first value.more ends (by
    rw [List.length_append]
    show _ < 2 * ((value.first.text ++ moreText value.more).length + _)
    omega)
  obtain ⟨left, ended⟩ := parseHdrEnd_ends ends
  rw [← List.append_assoc] at loop
  show Option.map _ ((hvalueLoop _ [] (value.text ++ behind)).bind _) = _
  rw [show value.text ++ behind = value.first.text ++ moreText value.more ++ behind from rfl] at *
  rw [loop]
  show Option.map _ ((parseHdrEnd behind).bind _) = _
  rw [ended]
  rfl

theorem kept_length (first : Fragment) (more : List (Fold × Fragment)) :
    (kept first more).length ≤ (first.text ++ more.flatMap fun line => 32 :: line.2.text).length
      ∧ (1 < more.length → (kept first more).length
        < (first.text ++ more.flatMap fun line => 32 :: line.2.text).length) := by
  fun_induction kept first more with
  | case1 first => simp
  | case2 first line => simp
  | case3 first line₁ line₂ more ih =>
    simp only [List.flatMap_cons, List.length_append, List.length_cons] at ih ⊢
    omega

/-- All fragments of a value are kept exactly if there are no more than two. -/
theorem generic_string_joined_iff (value : Folded) (behind : List UInt8) (ends : Ends behind) :
    (parseGenericStringHdr (value.text ++ behind)).map Prod.fst = some value.joined
      ↔ value.lines ≤ 2 := by
  rw [parse_kept value ends, Option.some.injEq]
  obtain ⟨first, more⟩ := value
  match more with
  | [] => simp [kept, Folded.joined, Folded.lines]
  | [line] => simp [kept, Folded.joined, Folded.lines]
  | line₁ :: line₂ :: more =>
    have shorter := (kept_length first (line₁ :: line₂ :: more)).2 (by simp)
    refine iff_of_false (fun same => ?_) (by simp [Folded.lines])
    rw [same] at shorter
    exact Nat.lt_irrefl _ shorter

section Examples

/-- One octet on a line. -/
def single (c : UInt8) (begins : isSpace c = false) (onLine : notNewline c = true) : Fragment where
  first := c
  rest := []
  begins := begins
  onLine := by simpa using onLine

def crlfSpace : Fold where
  newline := ⟨[13, 10], .inl rfl⟩
  blank := 32
  blanks := []
  white := by simp [isSpace]

/-- "a" and "b" on two lines. -/
theorem two_lines_joined :
    (parseGenericStringHdr ([97, 13, 10, 32, 98] ++ [])).map Prod.fst = some [97, 32, 98] :=
  (generic_string_joined_iff ⟨single 97 rfl rfl, [(crlfSpace, single 98 rfl rfl)]⟩ []
    ⟨.inl rfl, rfl⟩).2 (by decide)

/-- Of "a", "b" and "c" on three lines, "c" is left. -/
theorem three_lines_lost : ¬ ∀ (value : Folded) (behind : List UInt8), Ends behind →
        (parseGenericStringHdr (value.text ++ behind)).map Prod.fst = some value.joined := by
  intro all
  have same := all ⟨single 97 rfl rfl, [(crlfSpace, single 98 rfl rfl),
    (crlfSpace, single 99 rfl rfl)]⟩ [] ⟨.inl rfl, rfl⟩
  revert same
  decide

end Examples

end Pjsip.Sip.GenericString
