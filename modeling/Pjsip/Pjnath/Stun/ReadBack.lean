import Pjsip.Pjnath.Stun.EncodeLayout

/-!
# Reading an attribute back

The image of an attribute is read back by the decoder of its kind, whatever octets pad it
and whatever follows. What comes back is the attribute; the text of SOFTWARE may have got
some padding at its end, since its length field counts the padding too.
-/

namespace Pjsip.Pjnath.Stun

open Pjsip.Base Reader

/-- What an attribute of this type may have become on its way. -/
def SameValue (type : UInt16) : AttrValue → AttrValue → Prop
  | .string sent, .string got =>
    got.1 = sent.1 ∨ type = attrSoftware ∧ ∃ pad, got.1 = sent.1 ++ pad ∧ pad.length < 4
  -- the magic only tells the encoder that the structure is a generic one
  | .binary _ sent, .binary _ got => got.1 = sent.1
  | sent, got => got = sent

def Attr.Same (sent got : Attr) : Prop := got.type = sent.type ∧ SameValue sent.type sent.value got.value

/-- An address is XOR'ed if its type says so, and an error code has a class and a number that
fit their fields: nothing is lost on the way. -/
def Attr.exact (a : Attr) : Bool :=
  match a.value with
  | .sockaddr xorEd _ => xorEd = decide (attrKind a.type = some .xoredSockaddr)
  | .errcode errCode _ => 0 ≤ errCode && errCode < 25600
  | _ => true

/-- An attribute without a descriptor is not refused if it is optional. -/
def Attr.understood (a : Attr) : Bool := attrKind a.type ≠ none || 0x8000 ≤ a.type

/-! ## Decoders -/

section Decoders

variable (type : UInt16) (after : List UInt8)

theorem decodeSockaddrAttr_inet (port : UInt16) (addr : Octets 4) :
    (decodeSockaddrAttr 8).run (put16 type ++ (put16 8 ++ ([0, 1] ++ (put16 port ++ addr.1)
      ++ after))) = .value (.inet port addr) := by
  rw [decodeSockaddrAttr, if_neg (by decide), run_bind,
    octet_between (put16 type ++ put16 8 ++ [0]) 1 (put16 port ++ addr.1 ++ after),
    bind_value, if_pos rfl, if_neg (by decide), run_bind,
    field16_between (put16 type ++ put16 8 ++ [0, 1]) port (addr.1 ++ after), bind_value,
    run_bind, octets_between (put16 type ++ put16 8 ++ [0, 1] ++ put16 port) addr after]
  all_goals rfl

theorem decodeSockaddrAttr_inet6 (port : UInt16) (addr : Octets 16) :
    (decodeSockaddrAttr 20).run (put16 type ++ (put16 20 ++ ([0, 2] ++ (put16 port ++ addr.1)
      ++ after))) = .value (.inet6 port addr) := by
  rw [decodeSockaddrAttr, if_neg (by decide), run_bind,
    octet_between (put16 type ++ put16 20 ++ [0]) 2 (put16 port ++ addr.1 ++ after),
    bind_value, if_neg (by decide), if_pos rfl, if_neg (by decide), run_bind,
    field16_between (put16 type ++ put16 20 ++ [0, 2]) port (addr.1 ++ after), bind_value,
    run_bind, octets_between (put16 type ++ put16 20 ++ [0, 2] ++ put16 port) addr after]
  all_goals rfl

variable {length : UInt16}

theorem decodeStringAttr_between (bytes : Octets length.toNat) :
    (decodeStringAttr length).run (put16 type ++ (put16 length ++ (bytes.1 ++ after)))
      = .value (textOf bytes) := by
  rw [decodeStringAttr, run_bind, octets_between (put16 type ++ put16 length) bytes after]
  all_goals rfl

theorem decodeUintAttr_between (value : UInt32) :
    (decodeUintAttr 4).run (put16 type ++ (put16 4 ++ (put32 value ++ after))) = .value value :=
  field32_between (put16 type ++ put16 4) value after rfl rfl

theorem decodeUint64Attr_between (hi lo : UInt32) :
    (decodeUint64Attr 8).run (put16 type ++ (put16 8 ++ (put32 hi ++ put32 lo ++ after)))
      = .value (hi, lo) := by
  rw [decodeUint64Attr, if_neg (by decide), run_bind,
    field32_between (put16 type ++ put16 8) hi (put32 lo ++ after), bind_value, run_bind,
    field32_between (put16 type ++ put16 8 ++ put32 hi) lo after]
  all_goals rfl

theorem decodeMsgintAttr_between (hmac : Octets 20) :
    (decodeMsgintAttr 20).run (put16 type ++ (put16 20 ++ (hmac.1 ++ after)))
      = .value ⟨hmac, rfl⟩ := by
  rw [decodeMsgintAttr, dif_pos rfl, run_bind, octets_between (put16 type ++ put16 20) hmac after]
  all_goals rfl

theorem errCode_octets {errCode : Int} (least : 0 ≤ errCode) (most : errCode < 25600) :
    ((UInt8.ofInt (errCode.tdiv 100)).toNat * 100 + (UInt8.ofInt (errCode.tmod 100)).toNat : Int)
      = errCode := by
  lift errCode to Nat using least
  have octet : ∀ n : Nat, (UInt8.ofInt n).toNat = n % 256 := by
    intro n
    show (UInt8.ofNat ((n : Int) % 2 ^ 8).toNat).toNat = _
    rw [UInt8.toNat_ofNat']
    omega
  have hundreds := octet (errCode / 100)
  have number := octet (errCode % 100)
  show ((UInt8.ofInt (errCode / 100 : Nat)).toNat * 100
    + (UInt8.ofInt (errCode % 100 : Nat)).toNat : Int) = errCode
  omega

theorem decodeErrcodeAttr_between (hundreds number : UInt8) {reason : Text}
    (count : length.toNat = 4 + reason.1.length) :
    (decodeErrcodeAttr length).run (put16 type ++ (put16 length ++ (put16 0
      ++ ([hundreds, number] ++ reason.1) ++ after)))
      = .value (hundreds.toNat * 100 + number.toNat, reason) := by
  have long : ¬ length < 4 := by
    rw [UInt16.lt_iff_toNat_lt, count]
    show ¬ 4 + reason.1.length < 4
    omega
  have whole : reason.1.length = length.toNat - 4 := by omega
  rw [decodeErrcodeAttr, if_neg long, run_bind,
    octet_between (put16 type ++ put16 length ++ put16 0) hundreds (number :: reason.1 ++ after),
    bind_value, run_bind,
    octet_between (put16 type ++ put16 length ++ put16 0 ++ [hundreds]) number (reason.1 ++ after),
    bind_value, run_bind,
    octets_between (put16 type ++ put16 length ++ put16 0 ++ [hundreds, number])
      ⟨reason.1, whole⟩ after]
  all_goals rfl

theorem decodeUnknownAttr_between (types : { types : List UInt16 // types.length ≤ stunMaxAttr })
    (count : length.toNat = types.1.length * 2) :
    (decodeUnknownAttr length).run
      (put16 type ++ (put16 length ++ (types.1.flatMap put16 ++ after))) = .value types := by
  have half : (length >>> 1).toNat = types.1.length := by
    rw [UInt16.toNat_shiftRight, Nat.shiftRight_eq_div_pow, count]
    show types.1.length * 2 / 2 ^ 1 = _
    omega
  have few : (length >>> 1).toNat ≤ stunMaxAttr := half.trans_le types.2
  show (if few : _ then _ else _ : Reader StunStatus _).run _ = _
  rw [dif_pos few, run_bind,
    fields16_between (put16 type ++ put16 length) types.1 after _ _ half.symm]
  all_goals rfl

end Decoders

theorem SockAddr.xored_xored (tsxId : Octets 12) (addr : SockAddr) :
    (addr.xored tsxId).xored tsxId = addr := by
  cases addr with
  | inet port addr =>
    have port' : port ^^^ (stunMagic >>> 16).toUInt16 ^^^ (stunMagic >>> 16).toUInt16 = port := by
      rw [UInt16.xor_assoc, UInt16.xor_self, UInt16.xor_zero]
    have addr' : xorOctets (xorOctets addr.1 (put32 stunMagic)) (put32 stunMagic) = addr.1 :=
      xorOctets_cancel (Nat.le_of_eq addr.2)
    simp only [SockAddr.xored, port', addr']
  | inet6 port addr =>
    have port' : port ^^^ (stunMagic >>> 16).toUInt16 ^^^ (stunMagic >>> 16).toUInt16 = port := by
      rw [UInt16.xor_assoc, UInt16.xor_self, UInt16.xor_zero]
    have addr' : xorOctets (xorOctets addr.1 (xorMask tsxId).1) (xorMask tsxId).1 = addr.1 :=
      xorOctets_cancel (Nat.le_of_eq (addr.2.trans (xorMask tsxId).2.symm))
    simp only [SockAddr.xored, port', addr']
  | unspec => rfl

/-! ## Values -/

section Values

variable {env : StunEnv} {msghdr : MsgHdr}

/-- The padding of SOFTWARE is taken for a part of it. -/
theorem decodeValue_text {hdr : MsgHdr} {type length : UInt16} {value : Text}
    {suits : (AttrValue.string value).suits length (attrKind type) = true}
    (small : (⟨type, length, .string value, suits⟩ : Attr).size < 65536)
    (magic : msghdr.magic = stunMagic) (after : List UInt8) :
    ∃ got, (decodeValue hdr (stringLength type msghdr value.1.length) .string).run (put16 type
        ++ (put16 (stringLength type msghdr value.1.length)
          ++ (value.1 ++ List.replicate (align4 value.1.length - value.1.length) env.paddingChar
            ++ after))) = .value got
      ∧ SameValue type (.string value) got.1 := by
  change align4 (value.1.length + 4) < 65536 at small
  have number : ∀ n < 65536, (UInt16.ofNat n).toNat = n := by
    intro n below
    rw [UInt16.toNat_ofNat']
    omega
  unfold align4 at small
  by_cases software : type = attrSoftware
  · have count : (value.1 ++ List.replicate (align4 value.1.length - value.1.length)
        env.paddingChar).length = (stringLength type msghdr value.1.length).toNat := by
      rw [stringLength, if_pos (.inr software), number _ (by unfold align4; omega)]
      simp only [List.length_append, List.length_replicate, align4]
      omega
    refine ⟨_, run_return _ (decodeStringAttr_between type after ⟨_, count⟩), ?_⟩
    refine .inr ⟨software, _, rfl, ?_⟩
    rw [List.length_replicate, align4]
    omega
  · have count : value.1.length = (stringLength type msghdr value.1.length).toNat := by
      rw [stringLength, if_neg (by simp [magic, software]), number _ (by omega)]
    rw [List.append_assoc]
    exact ⟨_, run_return _ (decodeStringAttr_between type _ ⟨_, count⟩), .inl rfl⟩

variable {a : Attr} (taken : a.refused = false) (small : a.size < 65536)

include taken small

theorem Attr.wireLength_size (msghdr : MsgHdr) :
    align4 (a.wireLength msghdr).toNat + 4 = a.size := by
  have number : ∀ n < 65536, (UInt16.ofNat n).toNat = n := by
    intro n below
    rw [UInt16.toNat_ofNat']
    omega
  obtain ⟨type, length, value, suits⟩ := a
  cases value with
  | sockaddr xorEd addr =>
    cases addr with
    | inet port addr =>
      show align4 (8 : UInt16).toNat + 4 = 12
      decide
    | inet6 port addr =>
      show align4 (20 : UInt16).toNat + 4 = 24
      decide
    | unspec => nomatch taken
  | string value =>
    change align4 (value.1.length + 4) < 65536 at small
    show align4 (stringLength type msghdr value.1.length).toNat + 4 = align4 (value.1.length + 4)
    rw [stringLength, number]
    · unfold align4
      split <;> omega
    · unfold align4 at small ⊢
      split <;> omega
  | msgint hmac =>
    have twenty : length = 20 := by
      cases kind : attrKind type with
      | none => rw [kind] at suits; nomatch suits
      | some kind' =>
        rw [kind] at suits
        cases kind' with
        | msgint => exact of_decide_eq_true suits
        | _ => nomatch suits
    show align4 length.toNat + 4 = 24
    rw [twenty]
    decide
  | errcode errCode reason =>
    change align4 (4 + 4 + reason.1.length) < 65536 at small
    show align4 (UInt16.ofNat (4 + reason.1.length)).toNat + 4 = align4 (4 + 4 + reason.1.length)
    unfold align4 at small ⊢
    rw [number _ (by omega)]
    omega
  | unknown types =>
    change align4 (4 + types.1.length * 2) < 65536 at small
    show align4 (UInt16.ofNat (types.1.length * 2)).toNat + 4 = align4 (4 + types.1.length * 2)
    unfold align4 at small ⊢
    rw [number _ (by omega)]
    omega
  | binary magic data =>
    change align4 (data.1.length + 4) < 65536 at small
    show align4 (UInt16.ofNat data.1.length).toNat + 4 = align4 (data.1.length + 4)
    unfold align4 at small ⊢
    rw [number _ (by omega)]
    omega
  | empty =>
    show align4 (0 : UInt16).toNat + 4 = 4
    decide
  | uint value =>
    show align4 (4 : UInt16).toNat + 4 = 8
    decide
  | uint64 hi lo =>
    show align4 (8 : UInt16).toNat + 4 = 12
    decide

theorem decodeValue_payload (env : StunEnv) {hdr : MsgHdr} (tsxId : hdr.tsxId = msghdr.tsxId)
    (magic : msghdr.magic = stunMagic) {kind : AttrKind} (known : attrKind a.type = some kind)
    (after : List UInt8) :
    ∃ got, (decodeValue hdr (a.wireLength msghdr) kind).run (put16 a.type
        ++ (put16 (a.wireLength msghdr) ++ (a.payload env msghdr ++ after))) = .value got
      ∧ (a.exact = true → SameValue a.type a.value got.1) := by
  have number : ∀ n < 65536, (UInt16.ofNat n).toNat = n := by
    intro n below
    rw [UInt16.toNat_ofNat']
    omega
  obtain ⟨type, length, value, suits⟩ := a
  change attrKind type = some kind at known
  have suits' := suits
  rw [known] at suits'
  -- one reader for each kind of attribute
  cases kind with
  | sockaddr =>
    cases value with
    | sockaddr xorEd addr =>
      have plain : (⟨type, length, .sockaddr xorEd addr, suits⟩ : Attr).exact = true →
          xorEd = false := by
        intro exact_
        simpa [Attr.exact, known] using exact_
      cases addr with
      | inet port addr =>
        cases xorEd with
        | false =>
          refine ⟨_, run_return _ (decodeSockaddrAttr_inet type after port addr), ?_⟩
          exact fun _ => rfl
        | true =>
          refine ⟨_, run_return _ (decodeSockaddrAttr_inet type after _ _), ?_⟩
          intro exact_
          cases plain exact_
      | inet6 port addr =>
        cases xorEd with
        | false =>
          refine ⟨_, run_return _ (decodeSockaddrAttr_inet6 type after port addr), ?_⟩
          exact fun _ => rfl
        | true =>
          refine ⟨_, run_return _ (decodeSockaddrAttr_inet6 type after _ _), ?_⟩
          intro exact_
          cases plain exact_
      | unspec => cases taken
    | _ => cases suits'
  | xoredSockaddr =>
    cases value with
    | sockaddr xorEd addr =>
      have xored : (⟨type, length, .sockaddr xorEd addr, suits⟩ : Attr).exact = true →
          xorEd = true := by
        intro exact_
        simpa [Attr.exact, known] using exact_
      have back := addr.xored_xored msghdr.tsxId
      cases addr with
      | inet port addr =>
        cases xorEd with
        | false =>
          refine ⟨_, run_return _ (run_return _ (decodeSockaddrAttr_inet type after port addr)), ?_⟩
          intro exact_
          cases xored exact_
        | true =>
          refine ⟨_, run_return _ (run_return _ (decodeSockaddrAttr_inet type after _ _)), ?_⟩
          intro _
          exact congrArg (AttrValue.sockaddr true) back
      | inet6 port addr =>
        cases xorEd with
        | false =>
          refine ⟨_, run_return _ (run_return _
            (decodeSockaddrAttr_inet6 type after port addr)), ?_⟩
          intro exact_
          cases xored exact_
        | true =>
          refine ⟨_, run_return _ (run_return _ (decodeSockaddrAttr_inet6 type after _ _)), ?_⟩
          intro _
          rw [tsxId]
          exact congrArg (AttrValue.sockaddr true) back
      | unspec => cases taken
    | _ => cases suits'
  | string =>
    cases value with
    | string value =>
      obtain ⟨got, read, same⟩ := decodeValue_text small magic after
      exact ⟨got, read, fun _ => same⟩
    | _ => cases suits'
  | msgint =>
    cases value with
    | msgint hmac =>
      have digest : length = 20 := of_decide_eq_true suits'
      subst digest
      exact ⟨_, run_return _ (decodeMsgintAttr_between type after hmac), fun _ => rfl⟩
    | _ => cases suits'
  | errcode =>
    cases value with
    | errcode errCode reason =>
      change align4 (4 + 4 + reason.1.length) < 65536 at small
      have count := number (4 + reason.1.length) (by unfold align4 at small; omega)
      refine ⟨_, run_return _ (decodeErrcodeAttr_between type after _ _ count), ?_⟩
      intro exact_
      have fits : 0 ≤ errCode ∧ errCode < 25600 := by
        simpa [Attr.exact] using exact_
      exact congrArg (AttrValue.errcode · reason) (errCode_octets fits.1 fits.2)
    | _ => cases suits'
  | unknown =>
    cases value with
    | unknown types =>
      change align4 (4 + types.1.length * 2) < 65536 at small
      have count := number (types.1.length * 2) (by unfold align4 at small; omega)
      exact ⟨_, run_return _ (decodeUnknownAttr_between type after types count), fun _ => rfl⟩
    | _ => cases suits'
  | uint =>
    cases value with
    | uint value =>
      exact ⟨_, run_return _ (decodeUintAttr_between type after value), fun _ => rfl⟩
    | _ => cases suits'
  | uint64 =>
    cases value with
    | uint64 hi lo =>
      exact ⟨_, run_return _ (decodeUint64Attr_between type after hi lo), fun _ => rfl⟩
    | _ => cases suits'
  | binary =>
    cases value with
    | binary mark data =>
      change align4 (data.1.length + 4) < 65536 at small
      have count := number data.1.length (by unfold align4 at small; omega)
      refine ⟨_, run_return _ (decodeStringAttr_between type after ⟨data.1, count.symm⟩), ?_⟩
      exact fun _ => rfl
    | _ => cases suits'
  | empty =>
    cases value with
    | empty => exact ⟨_, rfl, fun _ => rfl⟩
    | _ => cases suits'

end Values

end Pjsip.Pjnath.Stun
