import Pjsip.Base.Fallible
import Pjsip.Pjnath.Stun.Encode

/-!
# What each attribute takes up

Every encoder compares the room with a size, and if there is room stores its octets and
reports the size of the attribute with padding. The two sizes are the same except for
ERROR-CODE and UNKNOWN-ATTRIBUTES.
-/

namespace Pjsip.Pjnath.Stun

open Pjsip.Base

/-! ## Sizes -/

/-- The size with header and padding. -/
def Attr.size (a : Attr) : Nat :=
  match a.value with
  | .sockaddr _ (.inet ..) => 12
  | .sockaddr _ (.inet6 ..) => 24
  | .sockaddr _ .unspec => 12
  | .empty => 4
  | .string value => align4 (value.1.length + 4)
  | .uint _ => 8
  | .uint64 .. => 12
  | .msgint _ => 24
  | .errcode _ reason => align4 (4 + 4 + reason.1.length)
  | .unknown types => align4 (4 + types.1.length * 2)
  | .binary _ data => align4 (data.1.length + 4)

/-- The size that the room is compared with. -/
def Attr.checked (a : Attr) : Nat :=
  match a.value with
  | .errcode _ reason => 4 + 4 + reason.1.length
  | .unknown types => 4 + types.1.length * 2
  | _ => a.size

/-- An address of no known family and a generic attribute without the magic are refused. -/
def Attr.refused (a : Attr) : Bool :=
  match a.value with
  | .sockaddr _ .unspec => true
  | .binary magic _ => attrKind a.type = none && magic ≠ stunMagic
  | _ => false

/-- What is stored for an attribute when there is room. -/
def Attr.wire (env : StunEnv) (msghdr : MsgHdr) (a : Attr) : List UInt8 :=
  (a.encode env msghdr (2 ^ 32)).stored

theorem Attr.checked_le_size (a : Attr) : a.checked ≤ a.size := by
  obtain ⟨type, length, value, suits⟩ := a
  cases value with
  | errcode code reason =>
    show 4 + 4 + reason.1.length ≤ align4 (4 + 4 + reason.1.length)
    unfold align4
    omega
  | unknown types =>
    show 4 + types.1.length * 2 ≤ align4 (4 + types.1.length * 2)
    unfold align4
    omega
  | _ => exact Nat.le_refl _

theorem Attr.four_le_checked (a : Attr) : 4 ≤ a.checked := by
  unfold Attr.checked Attr.size align4
  split
  · omega
  · omega
  · split <;> omega

theorem Attr.four_le_size (a : Attr) : 4 ≤ a.size :=
  Nat.le_trans a.four_le_checked a.checked_le_size

theorem Attr.size_small (a : Attr) : a.size ≤ 2 ^ 32 := by
  unfold Attr.size align4
  split
  case h_5 value _ =>
      omega
  case h_9 reason _ =>
      omega
  case h_10 types _ =>
      have : types.1.length ≤ 16 := types.2
      omega
  case h_11 data _ =>
      omega
  all_goals omega

theorem Attr.size_aligned (a : Attr) : a.size % 4 = 0 := by
  unfold Attr.size align4
  split <;> omega

theorem Attr.checked_eq_size {a : Attr} (errcode : attrKind a.type ≠ some .errcode)
    (unknown : attrKind a.type ≠ some .unknown) : a.checked = a.size := by
  obtain ⟨type, length, value, suits⟩ := a
  cases value with
  | errcode code reason =>
    cases kind : attrKind type with
    | none => rw [kind] at suits; nomatch suits
    | some kind' =>
      rw [kind] at suits
      cases kind' with
      | errcode => exact absurd kind errcode
      | _ => nomatch suits
  | unknown types =>
    cases kind : attrKind type with
    | none => rw [kind] at suits; nomatch suits
    | some kind' =>
      rw [kind] at suits
      cases kind' with
      | unknown => exact absurd kind unknown
      | _ => nomatch suits
  | _ => rfl

/-! ## Encoding one attribute -/

variable {len need printed : Nat} {stored : List UInt8}

theorem Emit.unlessShort_enough (enough : need ≤ len) :
    Emit.unlessShort len need stored printed = ⟨stored, .ok printed⟩ :=
  if_neg (by omega)

theorem Emit.unlessShort_short (short : len < need) :
    Emit.unlessShort len need stored printed = ⟨[], .error .etoosmall⟩ :=
  if_pos short

section Encode

variable (env : StunEnv) (msghdr : MsgHdr)

theorem xored_inet (tsxId : Octets 12) (xorEd : Bool) (port : UInt16) (addr : Octets 4) :
    ∃ port' addr', (if xorEd then (SockAddr.inet port addr).xored tsxId else .inet port addr)
      = .inet port' addr' := by
  cases xorEd <;> exact ⟨_, _, rfl⟩

theorem xored_inet6 (tsxId : Octets 12) (xorEd : Bool) (port : UInt16) (addr : Octets 16) :
    ∃ port' addr', (if xorEd then (SockAddr.inet6 port addr).xored tsxId else .inet6 port addr)
      = .inet6 port' addr' := by
  cases xorEd <;> exact ⟨_, _, rfl⟩

/-- The length field that is written. -/
def Attr.wireLength (a : Attr) : UInt16 :=
  match a.value with
  | .sockaddr _ (.inet ..) => 8
  | .sockaddr _ (.inet6 ..) => 20
  | .sockaddr _ .unspec => 0
  | .empty => 0
  | .string value => stringLength a.type msghdr value.1.length
  | .uint _ => 4
  | .uint64 .. => 8
  | .msgint _ => a.length
  | .errcode _ reason => UInt16.ofNat (4 + reason.1.length)
  | .unknown types => UInt16.ofNat (types.1.length * 2)
  | .binary _ data => UInt16.ofNat data.1.length

/-- What is stored behind the length field. -/
def Attr.payload (a : Attr) : List UInt8 :=
  match a.value with
  | .sockaddr xorEd addr =>
    match if xorEd then addr.xored msghdr.tsxId else addr with
    | .inet port addr => [0, 1] ++ (put16 port ++ addr.1)
    | .inet6 port addr => [0, 2] ++ (put16 port ++ addr.1)
    | .unspec => []
  | .empty => []
  | .string value =>
    value.1 ++ List.replicate (align4 value.1.length - value.1.length) env.paddingChar
  | .uint value => put32 value
  | .uint64 hi lo => put32 hi ++ put32 lo
  | .msgint hmac => hmac.1
  | .errcode errCode reason =>
    put16 0 ++ ([UInt8.ofInt (errCode.tdiv 100), UInt8.ofInt (errCode.tmod 100)] ++ reason.1)
  | .unknown types => types.1.flatMap put16
  | .binary _ data => data.1

/-- An attribute that is not refused is stored as a whole, a type, a length and what they announce,
or there is no room. -/
theorem Attr.encode_eq {a : Attr} (taken : a.refused = false) (len : Nat) :
    ∃ early, a.encode env msghdr len = if len < a.checked then ⟨early, .error .etoosmall⟩
      else ⟨put16 a.type ++ (put16 (a.wireLength msghdr) ++ a.payload env msghdr), .ok a.size⟩ := by
  obtain ⟨type, length, value, suits⟩ := a
  cases value with
  | sockaddr xorEd addr =>
    refine ⟨put16 type, ?_⟩
    cases addr with
    | inet port addr =>
      obtain ⟨port', addr', same⟩ := xored_inet msghdr.tsxId xorEd port addr
      simp only [Attr.encode, encodeSockaddrAttr, Attr.payload, same]
      rfl
    | inet6 port addr =>
      obtain ⟨port', addr', same⟩ := xored_inet6 msghdr.tsxId xorEd port addr
      simp only [Attr.encode, encodeSockaddrAttr, Attr.payload, same]
      rfl
    | unspec => nomatch taken
  | binary magic data =>
    change (attrKind type = none && magic ≠ stunMagic : Bool) = false at taken
    have held : ¬ (attrKind type = none ∧ magic ≠ stunMagic) := by simpa using taken
    simp only [Attr.encode, if_neg held]
    exact ⟨[], rfl⟩
  | _ => exact ⟨[], rfl⟩

theorem Attr.wire_eq {a : Attr} (taken : a.refused = false) : a.wire env msghdr
      = put16 a.type ++ (put16 (a.wireLength msghdr) ++ a.payload env msghdr) := by
  have small : a.checked ≤ 2 ^ 32 := Nat.le_trans a.checked_le_size a.size_small
  obtain ⟨early, encoded⟩ := Attr.encode_eq env msghdr taken (2 ^ 32)
  rw [Attr.wire, encoded, if_neg (Nat.not_lt.2 small)]

theorem Attr.encode_enough {a : Attr} {len : Nat} (taken : a.refused = false)
    (enough : a.checked ≤ len) :
    a.encode env msghdr len = ⟨a.wire env msghdr, .ok a.size⟩ := by
  obtain ⟨early, encoded⟩ := Attr.encode_eq env msghdr taken len
  rw [encoded, if_neg (Nat.not_lt.2 enough), Attr.wire_eq env msghdr taken]

theorem Attr.encode_refused {a : Attr} (len : Nat) (refused : a.refused = true) :
    ∃ status, (a.encode env msghdr len).result = .error status := by
  obtain ⟨type, length, value, suits⟩ := a
  cases value with
  | sockaddr xorEd addr =>
    cases addr with
    | unspec =>
      refine ⟨.einvaf, ?_⟩
      cases xorEd <;> rfl
    | _ => nomatch refused
  | binary magic data =>
    change (attrKind type = none && magic ≠ stunMagic : Bool) = true at refused
    refine ⟨.ebug, ?_⟩
    simp only [Attr.encode]
    rw [if_pos (by simpa using refused)]
  | _ => nomatch refused

theorem Attr.encode_ok {a : Attr} {len printed : Nat}
    (ok : (a.encode env msghdr len).result = .ok printed) :
    a.refused = false ∧ a.checked ≤ len := by
  cases refused : a.refused with
  | true =>
    obtain ⟨status, error⟩ := Attr.encode_refused env msghdr len refused
    rw [error] at ok
    nomatch ok
  | false =>
    refine ⟨rfl, ?_⟩
    by_contra short
    obtain ⟨early, encoded⟩ := Attr.encode_eq env msghdr refused len
    rw [encoded, if_pos (Nat.lt_of_not_le short)] at ok
    nomatch ok

theorem Attr.payload_length {a : Attr} (taken : a.refused = false) :
    (a.payload env msghdr).length + 4 ≤ a.size := by
  obtain ⟨type, length, value, suits⟩ := a
  cases value with
  | sockaddr xorEd addr =>
    cases addr with
    | inet port addr =>
      obtain ⟨port', addr', same⟩ := xored_inet msghdr.tsxId xorEd port addr
      simp [Attr.payload, Attr.size, same, addr'.2]
    | inet6 port addr =>
      obtain ⟨port', addr', same⟩ := xored_inet6 msghdr.tsxId xorEd port addr
      simp [Attr.payload, Attr.size, same, addr'.2]
    | unspec => nomatch taken
  | string value =>
    simp only [Attr.payload, Attr.size, align4, List.length_append, List.length_replicate]
    omega
  | errcode code reason =>
    simp only [Attr.payload, Attr.size, align4, List.length_append, put16_length,
      List.length_cons, List.length_nil]
    omega
  | unknown types =>
    have double : (types.1.flatMap put16).length = types.1.length * 2 := by
      simp [List.length_flatMap]
    simp only [Attr.payload, Attr.size, align4, double]
    omega
  | binary magic data =>
    simp only [Attr.payload, Attr.size, align4]
    omega
  | msgint hmac => simp [Attr.payload, Attr.size, hmac.2]
  | _ => exact Nat.le_refl _

theorem Attr.wire_length {a : Attr} (taken : a.refused = false) :
    (a.wire env msghdr).length ≤ a.size := by
  have := Attr.payload_length env msghdr taken
  rw [Attr.wire_eq env msghdr taken]
  simp only [List.length_append, put16_length]
  omega

end Encode

/-! ## Emitting an attribute -/

/-- The state after the header. -/
def afterHeader (msg : StunMsg) (cells : Nat → UInt8) (n : Nat) : Enc :=
  Enc.advance ⟨⟨cells, []⟩, 0, n, false⟩ (hdrOctets msg.hdr 0) 20

theorem hdrOctets_length (hdr : MsgHdr) (length : UInt16) : (hdrOctets hdr length).length = 20 := by
  simp [hdrOctets, hdr.tsxId.2]

section Emit

variable (env : StunEnv) (msghdr : MsgHdr) (a : Attr) (e : Enc)

/-- One attribute of the loop: it is there as a whole, or printing has failed with the
counter as it was. -/
theorem emit_attr : (a.refused = false ∧ a.checked ≤ e.room % 2 ^ 32
        ∧ (emit (a.encode env msghdr (e.room % 2 ^ 32))).run e
          = .ok () (e.advance (a.wire env msghdr) a.size))
      ∨ ¬ (a.refused = false ∧ a.checked ≤ e.room % 2 ^ 32)
        ∧ ∃ status mem, (emit (a.encode env msghdr (e.room % 2 ^ 32))).run e
          = .error status { e with mem } := by
  by_cases ok : a.refused = false ∧ a.checked ≤ e.room % 2 ^ 32
  · left
    refine ⟨ok.1, ok.2, ?_⟩
    rw [Attr.encode_enough env msghdr ok.1 ok.2]
    rfl
  · right
    refine ⟨ok, ?_⟩
    cases result : (a.encode env msghdr (e.room % 2 ^ 32)).result with
    | ok printed => exact absurd (Attr.encode_ok env msghdr result) ok
    | error status =>
      refine ⟨status, e.mem.store e.pos (a.encode env msghdr (e.room % 2 ^ 32)).stored, ?_⟩
      rw [EStateM.run, emit, result]

end Emit

end Pjsip.Pjnath.Stun
