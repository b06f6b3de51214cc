import Pjsip.PjlibUtil.Scanner
import Pjsip.Sip.GenericString
import Pjsip.Sip.Tsx.Layer

/-!
# The fields that name a transaction (`sip_parser.c`)

What the parser reads for the method, the CSeq number, the tag of From, the Call-ID and the top
Via header of a request. `none` is an exception, with which the request is not accepted.
-/

namespace Pjsip.Sip.Fields

open Pjlib GenericString Tsx

/-! ## The scanner -/

def isDigit (c : UInt8) : Bool := 48 ≤ c && c ≤ 57

def isAlpha (c : UInt8) : Bool := (65 ≤ c && c ≤ 90) || (97 ≤ c && c ≤ 122)

/-- `pjsip_TOKEN_SPEC`: alphanumeric characters, and those of `TOKEN`. -/
def tokenSpec (c : UInt8) : Bool :=
  isAlpha c || isDigit c || [45, 46, 33, 37, 42, 95, 96, 39, 126, 43].contains c

/-- `pjsip_VIA_PARAM_SPEC`, with brackets and the colon of an address. -/
def viaParamSpec (c : UInt8) : Bool := tokenSpec c || [91, 58, 93].contains c

/-- `pjsip_HOST_SPEC` -/
def hostSpec (c : UInt8) : Bool := isAlpha c || isDigit c || [95, 45, 46].contains c

/-- The scanner passes over whitespace behind a token. -/
def afterToken (rest : List UInt8) : List UInt8 :=
  if rest.length ≠ 0 ∧ isProbablySpace (peek rest) = true then skipWhitespace rest else rest

/-- `pj_scan_get_quote` for the quote that stays at both ends of the token. -/
def getQuote : List UInt8 → Option (List UInt8 × List UInt8)
  | [] => none
  | c :: rest =>
    if c ≠ 34 then none
    else (PjlibUtil.Scanner.quoteLoop false rest).map fun found =>
      (c :: found.1, afterToken found.2)

/-- `pj_scan_get_until_ch` -/
def getUntilCh (ch : UInt8) (s : List UInt8) : Option (List UInt8 × List UInt8) :=
  if s.length = 0 then none
  else some (s.takeWhile (· ≠ ch), afterToken (s.dropWhile (· ≠ ch)))

/-- `pj_scan_get_n` -/
def getN (n : Nat) (s : List UInt8) : Option (List UInt8 × List UInt8) :=
  if s.length < n then none else some (s.take n, afterToken (s.drop n))

/-- `strtoi_validate` for limits from 0 on. A sign and whitespace may stand before the digits, and
anything behind them. -/
def strtoiValidate (text : List UInt8) (max : Nat) : Option Nat :=
  let isspace (c : UInt8) : Bool := c = 32 || (9 ≤ c && c ≤ 13)
  let text := text.dropWhile isspace
  let negative := peek text = 45
  let text := if negative ∨ peek text = 43 then text.drop 1 else text
  let digits := (text.dropWhile isspace).takeWhile isDigit
  let value := digits.foldl (fun value c => value * 10 + (c.toNat - 48)) 0
  if digits.length = 0 ∨ (negative ∧ value ≠ 0) ∨ max < value then none else some value

/-- `parser_stricmp`, compared with 0. -/
def parserStricmp (s1 s2 : List UInt8) : Bool := s1.length = s2.length ∧ stricmp s1 s2 = 0

/-! ## The parser -/

/-- The names of `method_names`. -/
def methodNames : List Method :=
  [⟨.invite, [73, 78, 86, 73, 84, 69]⟩, ⟨.cancel, [67, 65, 78, 67, 69, 76]⟩, ⟨.ack, [65, 67, 75]⟩,
    ⟨.bye, [66, 89, 69]⟩, ⟨.register, [82, 69, 71, 73, 83, 84, 69, 82]⟩,
    ⟨.options, [79, 80, 84, 73, 79, 78, 83]⟩]

/-- `pjsip_method_init_np` -/
def methodInitNp (str : List UInt8) : Method :=
  (methodNames.find? fun method => stricmp str method.name = 0).getD ⟨.other, str⟩

/-- `parse_param_imp` without escapes and options: name, value, and what is left. -/
def parseParamImp (spec : UInt8 → Bool) (s : List UInt8) :
    Option (List UInt8 × List UInt8 × List UInt8) := do
  let (pname, s) ← get spec s
  if peek s = 61 then do
    let s ← getChar s
    if s.length = 0 then some (pname, [], s)
    -- The quotes stay at the ends of a quoted string.
    else if peek s = 34 then (getQuote s).map (pname, ·)
    else if spec (peek s) then (get spec s).map (pname, ·)
    else some (pname, [], s)
  else some (pname, [], s)

/-- One parameter of `int_parse_via_param`: the branch behind it. -/
def viaParam (branch pname pvalue : List UInt8) : Option (List UInt8) :=
  if parserStricmp pname (ascii ['b', 'r', 'a', 'n', 'c', 'h']) ∧ pvalue.length ≠ 0 then some pvalue
  else if parserStricmp pname (ascii ['t', 't', 'l']) ∧ pvalue.length ≠ 0 then
    (strtoiValidate pvalue 255).map fun _ => branch
  else if parserStricmp pname (ascii ['r', 'p', 'o', 'r', 't']) ∧ pvalue.length ≠ 0 then
    (strtoiValidate pvalue 65535).map fun _ => branch
  else some branch

/-- `int_parse_via_param`, which takes one octet at least each time it goes round. -/
def intParseViaParam : (fuel : Nat) → (branch s : List UInt8) → Option (List UInt8 × List UInt8)
  | 0, branch, s => some (branch, s)
  | fuel + 1, branch, s =>
    if peek s = 59 then do
      let s ← getChar s
      let (pname, pvalue, s) ← parseParamImp viaParamSpec s
      let branch ← viaParam branch pname pvalue
      intParseViaParam fuel branch s
    else some (branch, s)

/-- `parse_sip_version` -/
def parseSipVersion (s : List UInt8) : Option (List UInt8) := do
  let (sip, s) ← get isAlpha s
  if peek s ≠ 47 then none
  else do
    let s ← getChar s
    let (version, s) ← getN 3 s
    if stricmp sip (ascii ['S', 'I', 'P']) ≠ 0 ∨ stricmp version (ascii ['2', '.', '0']) ≠ 0 then
      none
    else some s

/-- `int_parse_host`; brackets are removed. -/
def intParseHost (s : List UInt8) : Option (List UInt8 × List UInt8) :=
  if peek s = 91 then do
    let s ← getChar s
    let (host, s) ← getUntilCh 93 s
    (getChar s).map (host, ·)
  else get hostSpec s

/-- The port that may follow a host. -/
def viaPort (s : List UInt8) : Option (Nat × List UInt8) :=
  if peek s = 58 then do
    let s ← getChar s
    let (digits, s) ← get isDigit s
    (strtoiValidate digits 65535).map (·, s)
  else some (0, s)

/-- The comment that may follow the parameters. -/
def viaComment (s : List UInt8) : Option (List UInt8) :=
  if peek s = 40 then do
    let s ← getChar s
    let (_, s) ← getUntilCh 41 s
    getChar s
  else some s

/-- One Via header of `parse_hdr_via`. -/
def parseVia (s : List UInt8) : Option (Via × List UInt8) := do
  let s ← parseSipVersion s
  if peek s ≠ 47 then none
  else do
    let s ← getChar s
    let (_, s) ← get tokenSpec s
    let (host, s) ← intParseHost s
    let (port, s) ← viaPort s
    let (branch, s) ← intParseViaParam s.length [] s
    (viaComment s).map (⟨branch, host, port⟩, ·)

/-- The other Via headers of a line. -/
def parseVias : (fuel : Nat) → List UInt8 → Option (List UInt8)
  | 0, s => some s
  | fuel + 1, s =>
    if peek s = 44 then do
      let s ← getChar s
      let (_, s) ← parseVia s
      parseVias fuel s
    else some s

/-- `parse_hdr_via`: the first header, which is the top one. -/
def parseHdrVia (s : List UInt8) : Option (Via × List UInt8) := do
  let (first, s) ← parseVia s
  let s ← parseVias s.length s
  (parseHdrEnd s).map (first, ·)

/-- `parse_hdr_call_id` -/
def parseHdrCallId (s : List UInt8) : Option (List UInt8 × List UInt8) := do
  let (id, s) ← get notNewline s
  (parseHdrEnd s).map (id, ·)

/-- `parse_hdr_cseq`: number and method. -/
def parseHdrCseq (s : List UInt8) : Option ((Nat × Method) × List UInt8) := do
  let (digits, s) ← get isDigit s
  let cseq ← strtoiValidate digits 2147483647
  let (method, s) ← get tokenSpec s
  (parseHdrEnd s).map ((cseq, methodInitNp method), ·)

/-- The loop of `parse_hdr_fromto` behind the URI: the tag. -/
def fromToParams : (fuel : Nat) → (tag s : List UInt8) → Option (List UInt8 × List UInt8)
  | 0, tag, s => some (tag, s)
  | fuel + 1, tag, s =>
    if peek s = 59 then do
      let s ← getChar s
      let (pname, pvalue, s) ← parseParamImp tokenSpec s
      fromToParams fuel (if parserStricmp pname (ascii ['t', 'a', 'g']) then pvalue else tag) s
    else some (tag, s)

/-- What `parse_hdr_fromto` does behind the URI. -/
def parseHdrFromto (s : List UInt8) : Option (List UInt8 × List UInt8) := do
  let (tag, s) ← fromToParams s.length [] s
  (parseHdrEnd s).map (tag, ·)

/-- The method of `int_parse_req_line`. -/
def reqMethod (s : List UInt8) : Option (Method × List UInt8) :=
  (get tokenSpec s).map fun found => (methodInitNp found.1, found.2)

/-! ## What is read -/

variable {s rest : List UInt8}

theorem get_spec {spec : UInt8 → Bool} {token : List UInt8}
    (found : get spec s = some (token, rest)) : ∀ c ∈ token, spec c = true := by
  rw [GenericString.get] at found
  split at found
  · cases found
  · cases found
    exact fun c mem => List.mem_takeWhile_imp mem

theorem getQuote_quote {token : List UInt8} (found : getQuote s = some (token, rest)) :
    peek token = 34 := by
  cases s with
  | nil => cases found
  | cons c s =>
    rw [getQuote] at found
    split at found
    · cases found
    · next quote =>
      obtain ⟨quoted, -, eq⟩ := Option.map_eq_some_iff.1 found
      cases eq
      exact not_not.1 quote

/-- What a parameter's value may be. -/
def ParamValue (spec : UInt8 → Bool) (value : List UInt8) : Prop :=
  peek value = 34 ∨ ∀ c ∈ value, spec c = true

theorem parseParamImp_value {spec : UInt8 → Bool} {pname pvalue : List UInt8}
    (found : parseParamImp spec s = some (pname, pvalue, rest)) : ParamValue spec pvalue := by
  have empty : ParamValue spec [] := .inr fun c mem => by cases mem
  simp only [parseParamImp, Option.bind_eq_bind, Option.bind_eq_some_iff] at found
  obtain ⟨⟨name, s₁⟩, -, found⟩ := found
  split at found
  · obtain ⟨s₂, -, found⟩ := Option.bind_eq_some_iff.1 found
    split at found
    · cases found
      exact empty
    split at found
    · obtain ⟨⟨value, left_⟩, quoted, eq⟩ := Option.map_eq_some_iff.1 found
      cases eq
      exact .inl (getQuote_quote quoted)
    split at found
    · obtain ⟨⟨value, left_⟩, taken, eq⟩ := Option.map_eq_some_iff.1 found
      cases eq
      exact .inr (get_spec taken)
    · cases found
      exact empty
  · cases found
    exact empty

theorem viaParam_value {branch pname pvalue branch' : List UInt8}
    (before : ParamValue viaParamSpec branch) (value : ParamValue viaParamSpec pvalue)
    (found : viaParam branch pname pvalue = some branch') : ParamValue viaParamSpec branch' := by
  rw [viaParam] at found
  split at found
  · cases found
    exact value
  split at found
  · obtain ⟨_, -, rfl⟩ := Option.map_eq_some_iff.1 found
    exact before
  split at found
  · obtain ⟨_, -, rfl⟩ := Option.map_eq_some_iff.1 found
    exact before
  · cases found
    exact before

theorem intParseViaParam_value (fuel : Nat) {branch branch' : List UInt8}
    (before : ParamValue viaParamSpec branch)
    (found : intParseViaParam fuel branch s = some (branch', rest)) :
    ParamValue viaParamSpec branch' := by
  induction fuel generalizing branch s with
  | zero =>
    cases found
    exact before
  | succ fuel ih =>
    rw [intParseViaParam] at found
    split at found
    · simp only [Option.bind_eq_bind, Option.bind_eq_some_iff] at found
      obtain ⟨s₁, -, ⟨pname, pvalue, s₂⟩, param, next, taken, found⟩ := found
      exact ih (viaParam_value before (parseParamImp_value param) taken) found
    · cases found
      exact before

theorem strtoiValidate_le {text : List UInt8} {max value : Nat}
    (found : strtoiValidate text max = some value) : value ≤ max := by
  simp only [strtoiValidate, Option.ite_none_left_eq_some, Option.some.injEq] at found
  obtain ⟨fits, rfl⟩ := found
  exact Nat.not_lt.1 fun above => fits (.inr (.inr above))

theorem parseHdrVia_fields {via : Via} (found : parseHdrVia s = some (via, rest)) :
    ParamValue viaParamSpec via.branch ∧ via.port ≤ 65535 := by
  simp only [parseHdrVia, Option.bind_eq_bind, Option.bind_eq_some_iff] at found
  obtain ⟨⟨first, s₁⟩, parsed, s₂, -, found⟩ := found
  obtain ⟨_, -, eq⟩ := Option.map_eq_some_iff.1 found
  cases eq
  simp only [parseVia, Option.bind_eq_bind, Option.bind_eq_some_iff] at parsed
  obtain ⟨s₃, -, parsed⟩ := parsed
  split at parsed
  · cases parsed
  simp only [Option.bind_eq_some_iff] at parsed
  obtain ⟨s₄, -, ⟨_, s₅⟩, -, ⟨host, s₆⟩, -, ⟨port, s₇⟩, ported, ⟨branch, s₈⟩, params, parsed⟩ :=
    parsed
  obtain ⟨_, -, eq⟩ := Option.map_eq_some_iff.1 parsed
  cases eq
  refine ⟨intParseViaParam_value _ (.inr fun c mem => by cases mem) params, ?_⟩
  rw [viaPort] at ported
  split at ported
  · simp only [Option.bind_eq_bind, Option.bind_eq_some_iff] at ported
    obtain ⟨s₁₁, -, ⟨digits, s₁₂⟩, -, ported⟩ := ported
    obtain ⟨value, valid, eq⟩ := Option.map_eq_some_iff.1 ported
    cases eq
    exact strtoiValidate_le valid
  · cases ported
    exact Nat.zero_le _

theorem parseHdrCseq_le {cseq : Nat × Method}
    (found : parseHdrCseq s = some (cseq, rest)) : cseq.1 ≤ 2147483647 := by
  simp only [parseHdrCseq, Option.bind_eq_bind, Option.bind_eq_some_iff] at found
  obtain ⟨⟨digits, s₁⟩, -, number, valid, ⟨name, s₂⟩, -, found⟩ := found
  obtain ⟨_, -, eq⟩ := Option.map_eq_some_iff.1 found
  cases eq
  exact strtoiValidate_le valid

end Pjsip.Sip.Fields
