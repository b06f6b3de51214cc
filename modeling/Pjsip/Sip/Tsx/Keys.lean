import Pjsip.Base.Pieces
import Pjsip.Sip.Fields

/-!
# Keys of server transactions (`pjsip_tsx_create_key`)

A key is a text of fields with a separator between them. The branch of a request that follows
RFC 3261 and the name of a method are tokens without a separator. The fields of an older request
are not: a Call-ID is free text, and so are a quoted tag and a host in brackets.
-/

namespace Pjsip.Sip.Tsx

open Base Pjlib Fields

/-! ## Which transaction a request belongs to -/

/-- All fields of the request have been read, each from some text. -/
structure Accepted (rdata : RxRequest) (via : Via) : Prop where
  method : ∃ line rest, reqMethod line = some (rdata.method, rest)
  top : rdata.via = some via
  via : ∃ line rest, parseHdrVia line = some (via, rest)
  cseq : ∃ cseq line rest, rdata.cseq = some cseq ∧ parseHdrCseq line = some (cseq, rest)
  fromTag : ∃ tag line rest, rdata.fromTag = some tag ∧ parseHdrFromto line = some (tag, rest)
  callId : ∃ line rest, parseHdrCallId line = some (rdata.callId, rest)

/-- INVITE or ACK. -/
def InviteOrAck (method : Method) : Prop :=
  SameText method.name [73, 78, 86, 73, 84, 69] ∨ SameText method.name [65, 67, 75]

def SameMethod (method method' : Method) : Prop :=
  SameText method.name method'.name ∨ InviteOrAck method ∧ InviteOrAck method'

def Via.Marked (via : Via) : Prop := SameText (via.branch.take 7) rfc3261BranchId

def RxRequest.number (rdata : RxRequest) : Nat := (rdata.cseq.map Prod.fst).getD 0

def RxRequest.tag (rdata : RxRequest) : List UInt8 := rdata.fromTag.getD []

instance (method : Method) : Decidable (InviteOrAck method) := inferInstanceAs (Decidable (_ ∨ _))

instance (method method' : Method) : Decidable (SameMethod method method') :=
  inferInstanceAs (Decidable (_ ∨ _))

instance (via : Via) : Decidable via.Marked := inferInstanceAs (Decidable (SameText _ _))

/-- Two requests belong to one server transaction. -/
def SameTransaction (rdata rdata' : RxRequest) (via via' : Via) : Prop :=
  (via.Marked ∧ via'.Marked ∧ SameText via.branch via'.branch
      ∧ SameMethod rdata.method rdata'.method)
    ∨ (¬via.Marked ∧ ¬via'.Marked ∧ SameMethod rdata.method rdata'.method
      ∧ rdata.number = rdata'.number ∧ SameText rdata.tag rdata'.tag
      ∧ SameText rdata.callId rdata'.callId ∧ SameText via.host via'.host ∧ via.port = via'.port)

/-- Both keys can be built, and are equal ignoring case. -/
def SameKeys (rdata rdata' : RxRequest) (via via' : Via) : Prop :=
  ∃ key key', createKey .uas rdata.method via rdata = .ok key
    ∧ createKey .uas rdata'.method via' rdata' = .ok key' ∧ SameText key key'

/-! ## Lengths -/

/-- `len_required` of `create_tsx_key_2543`, with the Via header. -/
def lenRequired2543 (rdata : RxRequest) (via : Via) : Nat :=
  rdata.method.name.length + 11 + rdata.tag.length + rdata.callId.length + 16
    + (via.host.length + 11)

/-- What `create_tsx_key_3261` allocates. -/
def lenRequired3261 (method : Method) (branch : List UInt8) : Nat :=
  branch.length + method.name.length + 4

/-- What `pjsip_tsx_create_key` allocates. -/
def keyAllocated (rdata : RxRequest) (via : Via) : Nat :=
  if strnicmpBytes via.branch rfc3261BranchId 7 = 0 then
    lenRequired3261 rdata.method via.branch
  else lenRequired2543 rdata via

/-- The key fits. The NUL that `pj_utoa` writes behind a number is written over by the separator. -/
def KeyFits (rdata : RxRequest) (via : Via) : Prop :=
  ∀ key, createKey .uas rdata.method via rdata = .ok key → key.length ≤ keyAllocated rdata via

/-! ## Fields -/

/-- The method stands in front of the other fields, unless it is INVITE or ACK. -/
def methodField (method : Method) : List (List UInt8) :=
  if method.id ≠ .invite ∧ method.id ≠ .ack then [method.name] else []

/-- The fields of a key with the cookie. -/
def markedFields (rdata : RxRequest) (via : Via) : List (List UInt8) :=
  methodField rdata.method ++ [via.branch]

/-- The fields of an old key in front of the port. -/
def oldFields (rdata : RxRequest) (via : Via) : List (List UInt8) :=
  methodField rdata.method ++ [ascii (pjUtoa rdata.number), rdata.tag, rdata.callId, via.host]

def lower (fields : List (List UInt8)) : List (List UInt8) := fields.map (List.map pjTolower)

/-- The requests are too old for a cookie and agree in the port; their other fields differ, but
not what stands between the separators in them. -/
def Confused (rdata rdata' : RxRequest) (via via' : Via) : Prop :=
  ¬via.Marked ∧ ¬via'.Marked ∧ via.port = via'.port
    ∧ lower (oldFields rdata via) ≠ lower (oldFields rdata' via')
    ∧ pieces separator (lower (oldFields rdata via))
      = pieces separator (lower (oldFields rdata' via'))

instance (rdata rdata' : RxRequest) (via via' : Via) : Decidable (Confused rdata rdata' via via') :=
  inferInstanceAs (Decidable (_ ∧ _))

/-! ## Characters -/

theorem ascii_digit {c : Char} (digit : c.isDigit = true) :
    isDigit c.toUInt8 = true ∧ Char.ofNat c.toUInt8.toNat = c := by
  have range : 48 ≤ c.toNat ∧ c.toNat ≤ 57 := by
    simpa [Char.isDigit, UInt32.le_iff_toNat_le] using digit
  have octet : c.toUInt8.toNat = c.toNat := by
    change c.toNat % 256 = c.toNat
    omega
  refine ⟨?_, ?_⟩
  · simpa [isDigit, UInt8.le_iff_toNat_le, octet] using range
  · rw [octet]
    exact Char.ofNat_toNat c

theorem utoa_digits (n : Nat) : ∀ c ∈ ascii (pjUtoa n), isDigit c = true := by
  intro c mem
  obtain ⟨d, digit, rfl⟩ := List.mem_map.1 mem
  exact (ascii_digit (Nat.isDigit_of_mem_toDigits (by decide) (by decide) digit)).1

theorem utoa_inj {n m : Nat} (same : ascii (pjUtoa n) = ascii (pjUtoa m)) : n = m := by
  have back : ∀ n, (ascii (pjUtoa n)).map (fun c => Char.ofNat c.toNat) = Nat.toDigits 10 n := by
    intro n
    rw [ascii, List.map_map]
    refine Eq.trans (List.map_congr_left fun c mem => ?_) (List.map_id _)
    exact (ascii_digit (Nat.isDigit_of_mem_toDigits (by decide) (by decide) mem)).2
  have digits := congrArg (List.map fun c => Char.ofNat c.toNat) same
  rw [back, back] at digits
  rw [← Nat.ofDigitChars_ten_toDigits (n := n), digits, Nat.ofDigitChars_ten_toDigits]

theorem utoa_length {n k : Nat} (below : n < 10 ^ k) (positive : 0 < k) :
    (ascii (pjUtoa n)).length ≤ k := by
  rw [ascii, List.length_map]
  exact (Nat.length_toDigits_le_iff (by decide) positive).2 below

theorem lower_utoa (n : Nat) : (ascii (pjUtoa n)).map pjTolower = ascii (pjUtoa n) := by
  refine Eq.trans (List.map_congr_left fun c mem => ?_) (List.map_id _)
  have digit := utoa_digits n c mem
  simp only [isDigit, Bool.and_eq_true, decide_eq_true_eq, UInt8.le_iff_toNat_le] at digit
  refine if_neg fun upper => ?_
  have letter := UInt8.le_iff_toNat_le.1 upper.1
  exact absurd (Nat.le_trans letter digit.2) (by decide)

theorem separator_lower {text : List UInt8} (plain : separator ∉ text) :
    separator ∉ text.map pjTolower := by
  intro mem
  obtain ⟨c, mem, eq⟩ := List.mem_map.1 mem
  have same : c = separator := by
    rw [pjTolower] at eq
    split at eq
    · next upper =>
      have letter := UInt8.le_iff_toNat_le.1 upper.1
      have sum := congrArg UInt8.toNat eq
      simp only [UInt8.toNat_add, UInt8.toNat_ofNat, separator] at letter sum
      change (c.toNat + 32) % 256 = 36 at sum
      have small := c.toNat_lt
      omega
    · exact eq
  exact plain (same ▸ mem)

theorem nul_lower {text : List UInt8} (token : 0 ∉ text) : 0 ∉ text.map pjTolower := by
  intro mem
  obtain ⟨c, mem, eq⟩ := List.mem_map.1 mem
  exact token (pjTolower_eq_zero.1 eq ▸ mem)

/-! ## Methods -/

/-- A method as the parser makes it. -/
structure Named (method : Method) : Prop where
  known : (method.id = .invite ∨ method.id = .ack) ↔ InviteOrAck method
  plain : separator ∉ method.name
  token : 0 ∉ method.name

theorem methodInitNp_named {str : List UInt8} (token : ∀ c ∈ str, tokenSpec c = true) :
    Named (methodInitNp str) := by
  have plain : separator ∉ str := fun mem => absurd (token _ mem) (by decide)
  have nul : 0 ∉ str := fun mem => absurd (token _ mem) (by decide)
  have standard : ∀ method ∈ methodNames,
      ((method.id = .invite ∨ method.id = .ack) ↔ InviteOrAck method)
        ∧ separator ∉ method.name ∧ 0 ∉ method.name := by decide
  rw [methodInitNp]
  cases found : methodNames.find? fun method => stricmp str method.name = 0 with
  | some method =>
    obtain ⟨known, plain, token⟩ := standard method (List.mem_of_find?_eq_some found)
    exact ⟨known, plain, token⟩
  | none =>
    have unknown : ∀ method ∈ methodNames, ¬SameText str method.name := fun method mem same =>
      List.find?_eq_none.1 found method mem (decide_eq_true ((stricmp_eq_zero nul).2 same))
    refine ⟨iff_of_false (by simp) ?_, plain, nul⟩
    rintro (invite | ack)
    · exact unknown ⟨.invite, _⟩ (by decide) invite
    · exact unknown ⟨.ack, _⟩ (by decide) ack

section Methods

variable {method method' : Method} (named : Named method) (named' : Named method')

include named in
theorem Named.field_none (known : InviteOrAck method) : methodField method = [] := by
  have id := named.known.2 known
  rw [methodField, if_neg]
  tauto

include named in
theorem Named.field_some (unknown : ¬InviteOrAck method) : methodField method = [method.name] := by
  have id := mt named.known.1 unknown
  rw [methodField, if_pos]
  tauto

include named in
theorem Named.field_plain : ∀ field ∈ methodField method, separator ∉ field := by
  intro field mem
  rw [methodField] at mem
  split at mem
  · rw [List.mem_singleton.1 mem]
    exact named.plain
  · cases mem

include named named' in
theorem Named.field_same :
    lower (methodField method) = lower (methodField method') ↔ SameMethod method method' := by
  have renamed : SameText method.name method'.name → (InviteOrAck method ↔ InviteOrAck method') :=
    fun same => ⟨.imp same.symm.trans same.symm.trans, .imp same.trans same.trans⟩
  by_cases known : InviteOrAck method
  · by_cases known' : InviteOrAck method'
    · rw [named.field_none known, named'.field_none known']
      exact iff_of_true rfl (.inr ⟨known, known'⟩)
    · rw [named.field_none known, named'.field_some known']
      refine iff_of_false (by simp [lower]) ?_
      rintro (same | ⟨-, both⟩)
      · exact known' ((renamed same).1 known)
      · exact known' both
  · by_cases known' : InviteOrAck method'
    · rw [named.field_some known, named'.field_none known']
      refine iff_of_false (by simp [lower]) ?_
      rintro (same | ⟨both, -⟩)
      · exact known ((renamed same).2 known')
      · exact known both
    · rw [named.field_some known, named'.field_some known']
      simp [lower, SameMethod, SameText, known]

end Methods

/-! ## Keys -/

theorem strnicmp_marked (via : Via) :
    strnicmpBytes via.branch rfc3261BranchId 7 = 0 ↔ via.Marked := by
  rw [strnicmpBytes, stricmp_visible]
  constructor
  · rintro ⟨lengths, same⟩
    exact (sameText_of_visible (by decide) lengths.symm same.symm).symm
  · intro same
    exact ⟨same.length, visible_lower same⟩

/-- What stands in front of the fields. -/
def keyStart : List UInt8 := [roleByte .uas, separator]

/-- The key of a request whose branch has the cookie. -/
def markedKey (rdata : RxRequest) (via : Via) : List UInt8 :=
  keyStart ++ [separator].intercalate (markedFields rdata via)

/-- The key of an older request. -/
def oldKey (rdata : RxRequest) (via : Via) : List UInt8 :=
  keyStart ++ ([separator].intercalate (oldFields rdata via)
    ++ 58 :: (ascii (pjUtoa via.port) ++ [separator, 0]))

section Request

variable {rdata : RxRequest} {via : Via} (accepted : Accepted rdata via)

include accepted

theorem Accepted.named : Named rdata.method := by
  obtain ⟨line, rest, found⟩ := accepted.method
  obtain ⟨⟨token, left_⟩, taken, eq⟩ := Option.map_eq_some_iff.1 found
  rw [← (Prod.mk.inj eq).1]
  exact methodInitNp_named (get_spec taken)

theorem Accepted.number_le : rdata.number ≤ 2147483647 := by
  obtain ⟨cseq, line, rest, has, found⟩ := accepted.cseq
  rw [RxRequest.number, has]
  exact parseHdrCseq_le found

theorem Accepted.port_le : via.port ≤ 65535 := by
  obtain ⟨line, rest, found⟩ := accepted.via
  exact (parseHdrVia_fields found).2

theorem Accepted.branch_spec (marked : via.Marked) : ∀ c ∈ via.branch, viaParamSpec c = true := by
  obtain ⟨line, rest, found⟩ := accepted.via
  refine (parseHdrVia_fields found).1.resolve_left fun quoted => ?_
  have same : (via.branch.take 7).map pjTolower = rfc3261BranchId.map pjTolower := marked
  cases branch : via.branch with
  | nil =>
    rw [branch] at quoted
    cases quoted
  | cons c more =>
    rw [branch] at quoted same
    obtain rfl : c = 34 := quoted
    have first : some (pjTolower 34) = some (pjTolower 122) := congrArg List.head? same
    exact absurd first (by decide)

theorem Accepted.branch_plain (marked : via.Marked) : separator ∉ via.branch ∧ 0 ∉ via.branch :=
  ⟨fun mem => absurd (accepted.branch_spec marked _ mem) (by decide),
    fun mem => absurd (accepted.branch_spec marked _ mem) (by decide)⟩

theorem Accepted.createKey_eq : createKey .uas rdata.method via rdata =
    .ok (if via.Marked then markedKey rdata via else oldKey rdata via) := by
  obtain ⟨cseq, _, _, number, -⟩ := accepted.cseq
  obtain ⟨tag, _, _, fromTag, -⟩ := accepted.fromTag
  have top := accepted.top
  rw [createKey]
  by_cases marked : via.Marked
  · rw [if_pos ((strnicmp_marked via).2 marked), if_pos marked, createTsxKey3261, markedKey,
      markedFields, methodPart, methodField]
    split
    · simp [keyStart]
    · simp [keyStart]
  · rw [if_neg (mt (strnicmp_marked via).1 marked), if_neg marked]
    simp only [createTsxKey2543, oldKey, oldFields, methodPart, methodField, RxRequest.number,
      RxRequest.tag, top, number, fromTag, Except.ok.injEq]
    split
    · simp [keyStart]
      rfl
    · simp [keyStart]
      rfl

end Request

theorem Accepted.fits {rdata : RxRequest} {via : Via} (accepted : Accepted rdata via) :
    KeyFits rdata via := by
  intro key made
  rw [accepted.createKey_eq] at made
  obtain rfl := Except.ok.inj made
  rw [keyAllocated]
  by_cases marked : via.Marked
  · rw [if_pos marked, if_pos ((strnicmp_marked via).2 marked), lenRequired3261, markedKey,
      markedFields, methodField]
    split
    · simp [keyStart]
      omega
    · simp [keyStart]
      omega
  · have number := utoa_length (show rdata.number < 10 ^ 10 by have := accepted.number_le; omega)
      (by decide)
    have port := utoa_length (show via.port < 10 ^ 5 by have := accepted.port_le; omega) (by decide)
    rw [if_neg marked, if_neg (mt (strnicmp_marked via).1 marked), lenRequired2543, oldKey,
      oldFields, methodField]
    split
    · simp [keyStart]
      omega
    · simp [keyStart]
      omega

theorem oldKey_same {rdata rdata' : RxRequest} {via via' : Via} :
    SameText (oldKey rdata via) (oldKey rdata' via') ↔
    via.port = via'.port ∧ pieces separator (lower (oldFields rdata via))
      = pieces separator (lower (oldFields rdata' via')) := by
  have text : ∀ (rdata : RxRequest) (via : Via), (oldKey rdata via).map pjTolower =
      keyStart.map pjTolower ++ (([separator].intercalate (lower (oldFields rdata via))
        ++ 58 :: ascii (pjUtoa via.port)) ++ [separator, 0]) := by
    intro rdata via
    have ends : [separator, 0].map pjTolower = [separator, 0] := by decide
    rw [oldKey, List.map_append, List.map_append, map_joined, List.map_cons, List.map_append,
      lower_utoa, ends, List.append_assoc, List.cons_append]
    rfl
  have colon : ∀ n, 58 ∉ ascii (pjUtoa n) := fun n mem => absurd (utoa_digits n _ mem) (by decide)
  rw [SameText, text, text, List.append_cancel_left_eq, List.append_cancel_right_eq,
    append_last_inj (colon _) (colon _), joined_inj (by simp [lower, oldFields])
      (by simp [lower, oldFields]), and_comm]
  exact and_congr_left fun _ => ⟨utoa_inj, fun same => by rw [same]⟩

theorem Accepted.mixed_differ {rdata : RxRequest} {via : Via} (accepted : Accepted rdata via)
    (marked : via.Marked) (rdata' : RxRequest) (via' : Via) :
    ¬SameText (markedKey rdata via) (oldKey rdata' via') := by
  intro same
  have nul : (0 : UInt8) ∈ (oldKey rdata' via').map pjTolower :=
    List.mem_map.2 ⟨0, by simp [oldKey], by decide⟩
  have token : (0 : UInt8) ∉ markedKey rdata via := by
    rw [markedKey, markedFields, methodField]
    split
    · simp [keyStart, accepted.named.token, (accepted.branch_plain marked).2]
      decide
    · simp [keyStart, (accepted.branch_plain marked).2]
      decide
  rw [← same] at nul
  exact nul_lower token nul

section Keys

variable {rdata rdata' : RxRequest} {via via' : Via} (first : Accepted rdata via)
  (second : Accepted rdata' via')

include first second

theorem Accepted.sameKeys_iff : SameKeys rdata rdata' via via' ↔
    SameText (if via.Marked then markedKey rdata via else oldKey rdata via)
      (if via'.Marked then markedKey rdata' via' else oldKey rdata' via') := by
  rw [SameKeys, first.createKey_eq, second.createKey_eq]
  simp

theorem Accepted.marked_same (marked : via.Marked) (marked' : via'.Marked) :
    SameText (markedKey rdata via) (markedKey rdata' via') ↔
      SameText via.branch via'.branch ∧ SameMethod rdata.method rdata'.method := by
  have plain : ∀ {rdata : RxRequest} {via : Via}, Accepted rdata via → via.Marked →
      ∀ field ∈ lower (markedFields rdata via), separator ∉ field := by
    intro rdata via accepted marked field mem
    obtain ⟨field, listed, rfl⟩ := List.mem_map.1 mem
    refine separator_lower ?_
    rcases List.mem_append.1 listed with mem | mem
    · exact accepted.named.field_plain field mem
    · rw [List.mem_singleton.1 mem]
      exact (accepted.branch_plain marked).1
  have joined : [separator].intercalate (lower (markedFields rdata via))
        = [separator].intercalate (lower (markedFields rdata' via'))
      ↔ lower (markedFields rdata via) = lower (markedFields rdata' via') := by
    rw [joined_inj (by simp [lower, markedFields]) (by simp [lower, markedFields]),
      pieces_plain (plain first marked), pieces_plain (plain second marked')]
  rw [SameText, markedKey, markedKey, List.map_append, List.map_append, List.append_cancel_left_eq,
    map_joined, map_joined]
  refine joined.trans ?_
  rw [← first.named.field_same second.named]
  simp only [lower, markedFields, List.map_append, List.map_singleton]
  constructor
  · intro same
    obtain ⟨methods, branches⟩ := List.append_inj' same rfl
    exact ⟨List.singleton_inj.1 branches, methods⟩
  · rintro ⟨branches, methods⟩
    rw [methods, branches]

theorem Accepted.oldFields_same : lower (oldFields rdata via) = lower (oldFields rdata' via') ↔
    SameMethod rdata.method rdata'.method ∧ rdata.number = rdata'.number
      ∧ SameText rdata.tag rdata'.tag ∧ SameText rdata.callId rdata'.callId
      ∧ SameText via.host via'.host := by
  rw [← first.named.field_same second.named]
  simp only [lower, oldFields, List.map_append, List.map_cons, List.map_nil, lower_utoa]
  constructor
  · intro same
    obtain ⟨methods, others⟩ := List.append_inj' same rfl
    simp only [List.cons.injEq, and_true] at others
    obtain ⟨number, tag, callId, host⟩ := others
    exact ⟨methods, utoa_inj number, tag, callId, host⟩
  · rintro ⟨methods, number, tag, callId, host⟩
    rw [methods, number, tag, callId, host]

/-- Keys are equal exactly for requests of one transaction, and fit what was allocated for them,
unless the requests are confused. -/
theorem server_keys_iff : ((SameKeys rdata rdata' via via' ↔ SameTransaction rdata rdata' via via')
        ∧ KeyFits rdata via ∧ KeyFits rdata' via')
      ↔ ¬Confused rdata rdata' via via' := by
  have fit := and_iff_left (a := (SameKeys rdata rdata' via via' ↔
    SameTransaction rdata rdata' via via')) (And.intro first.fits second.fits)
  refine fit.trans ?_
  rw [first.sameKeys_iff second]
  by_cases marked : via.Marked
  · rw [if_pos marked]
    refine iff_of_true ?_ fun confused => confused.1 marked
    by_cases marked' : via'.Marked
    · rw [if_pos marked', first.marked_same second marked marked']
      simp [SameTransaction, marked, marked']
    · rw [if_neg marked']
      refine iff_of_false (first.mixed_differ marked rdata' via') ?_
      simp [SameTransaction, marked, marked']
  rw [if_neg marked]
  by_cases marked' : via'.Marked
  · rw [if_pos marked']
    refine iff_of_true (iff_of_false ?_ ?_) fun confused => confused.2.1 marked'
    · exact fun same => second.mixed_differ marked' rdata via same.symm
    · simp [SameTransaction, marked, marked']
  · rw [if_neg marked', oldKey_same]
    have fields := first.oldFields_same second
    have same : SameTransaction rdata rdata' via via' ↔ via.port = via'.port ∧
        lower (oldFields rdata via) = lower (oldFields rdata' via') := by
      rw [fields]
      simp only [SameTransaction, marked, marked']
      tauto
    rw [same]
    constructor
    · rintro exact_ ⟨-, -, ports, differ, pieces⟩
      exact differ (exact_.1 ⟨ports, pieces⟩).2
    · intro clear
      constructor
      · rintro ⟨ports, pieces⟩
        exact ⟨ports, by_contra fun differ => clear ⟨marked, marked', ports, differ, pieces⟩⟩
      · rintro ⟨ports, equal⟩
        exact ⟨ports, by rw [equal]⟩

end Keys

/-- A request from a host without a branch, as it is read. -/
def oldRequest (method : List UInt8) (number : Nat) (tag callId : List UInt8) : RxRequest where
  method := methodInitNp method
  cseq := some (number, methodInitNp method)
  via := some ⟨[], [104], 0⟩
  fromTag := some tag
  toTag := []
  callId := callId

/-- The first digit of the method `1` is taken for the CSeq number of an INVITE. -/
def numbered : RxRequest := oldRequest [49] 2 [97] [98]

def invited (callId : List UInt8) : RxRequest := oldRequest [73, 78, 86, 73, 84, 69] 1 [50] callId

theorem viaLine_read : parseHdrVia
    (ascii ['S', 'I', 'P', '/', '2', '.', '0', '/', 'U', 'D', 'P', ' ', 'h'])
      = some (⟨[], [104], 0⟩, []) := by
  decide +kernel

theorem inviteLine_read : reqMethod (ascii ['I', 'n', 'v', 'i', 't', 'e'])
    = some (methodInitNp [73, 78, 86, 73, 84, 69], []) := by
  decide

theorem numbered_accepted : Accepted numbered ⟨[], [104], 0⟩ where
  method := ⟨[49], [], by decide⟩
  top := rfl
  via := ⟨_, _, viaLine_read⟩
  cseq := ⟨_, ascii ['2', ' ', '1'], [], rfl, by decide⟩
  fromTag := ⟨_, ascii [';', 't', 'a', 'g', '=', 'a'], [], rfl, by decide⟩
  callId := ⟨ascii ['b'], [], by decide⟩

theorem invited_accepted {callId : List UInt8} (read : parseHdrCallId callId = some (callId, [])) :
    Accepted (invited callId) ⟨[], [104], 0⟩ where
  method := ⟨_, _, inviteLine_read⟩
  top := rfl
  via := ⟨_, _, viaLine_read⟩
  cseq := ⟨_, ascii ['1', ' ', 'I', 'N', 'V', 'I', 'T', 'E'], [], rfl, by decide⟩
  fromTag := ⟨_, ascii [';', 't', 'a', 'g', '=', '2'], [], rfl, by decide⟩
  callId := ⟨callId, [], read⟩

theorem server_keys_repeated :
    (SameKeys (invited (ascii ['a', '$', 'b'])) (invited (ascii ['A', '$', 'b']))
          ⟨[], [104], 0⟩ ⟨[], [104], 0⟩
        ↔ SameTransaction (invited (ascii ['a', '$', 'b'])) (invited (ascii ['A', '$', 'b']))
          ⟨[], [104], 0⟩ ⟨[], [104], 0⟩)
      ∧ KeyFits (invited (ascii ['a', '$', 'b'])) ⟨[], [104], 0⟩
      ∧ KeyFits (invited (ascii ['A', '$', 'b'])) ⟨[], [104], 0⟩ :=
  (server_keys_iff (invited_accepted (by decide)) (invited_accepted (by decide))).2
    fun confused => confused.2.2.2.1 (by decide)

/-- Requests of two transactions with one key. -/
theorem numbered_method_same_key :
    ¬∀ (rdata rdata' : RxRequest) (via via' : Via), Accepted rdata via → Accepted rdata' via' →
      (SameKeys rdata rdata' via via' ↔ SameTransaction rdata rdata' via via')
        ∧ KeyFits rdata via ∧ KeyFits rdata' via' := by
  intro claim
  have same := (claim _ _ _ _ numbered_accepted (invited_accepted
    (show parseHdrCallId (ascii ['a', '$', 'b']) = _ by decide))).1.1
  have keys : SameKeys numbered (invited (ascii ['a', '$', 'b'])) ⟨[], [104], 0⟩ ⟨[], [104], 0⟩ :=
    ⟨_, _, rfl, rfl, by decide⟩
  rcases same keys with ⟨marked, -⟩ | ⟨-, -, method, -⟩
  · exact absurd marked (by decide)
  · exact absurd method (by decide)

end Pjsip.Sip.Tsx
