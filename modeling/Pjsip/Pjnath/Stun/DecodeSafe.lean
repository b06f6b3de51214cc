import Pjsip.Pjnath.Stun.Decode

/-!
# What the parser reads, and what it accepts

Every packet of at least a header is parsed without looking behind its end. What is
accepted has no more attributes than there is room for, at most one MESSAGE-INTEGRITY and
one FINGERPRINT with nothing that is understood behind it, and nothing that would have to
be understood and is not.
-/

namespace Pjsip.Pjnath.Stun

open Pjsip.Base Reader

/-! ## The decoders stay inside their attribute -/

section Decoders

variable (length : UInt16)

theorem decodeSockaddrAttr_inside : Inside (4 + length.toNat) (decodeSockaddrAttr length) := by
  refine inside_ite (fun _ => inside_fail _) fun known => ?_
  have long : 8 ≤ length.toNat := by
    rw [not_and_or, not_not, not_not] at known
    rcases known with rfl | rfl <;> decide
  refine inside_bind (inside_octet (by omega)) fun family => ?_
  refine inside_ite (fun _ => ?_) fun _ => inside_ite (fun _ => ?_) fun _ => inside_fail _
  · refine inside_ite (fun _ => inside_fail _) fun _ => ?_
    refine inside_bind (inside_field16 (by omega)) fun port => ?_
    exact inside_bind (inside_octets (by omega)) fun addr => inside_pure _
  · refine inside_ite (fun _ => inside_fail _) fun twenty => ?_
    have : length.toNat = 20 := by rw [not_not.1 twenty]; rfl
    refine inside_bind (inside_field16 (by omega)) fun port => ?_
    exact inside_bind (inside_octets (by omega)) fun addr => inside_pure _

theorem decodeUnknownAttr_inside : Inside (4 + length.toNat) (decodeUnknownAttr length) := by
  have half : (length >>> 1).toNat = length.toNat / 2 := by
    rfl
  refine inside_dite (fun few => ?_) fun _ => inside_fail _
  exact inside_bind (inside_fields16 (by omega)) fun _ => inside_pure _

theorem decodeValue_inside (msghdr : MsgHdr) (kind : AttrKind) :
    Inside (4 + length.toNat) (decodeValue msghdr length kind) := by
  cases kind with
  | sockaddr => exact inside_bind (decodeSockaddrAttr_inside length) fun _ => inside_pure _
  | xoredSockaddr =>
    refine inside_bind ?_ fun _ => inside_pure _
    exact inside_bind (decodeSockaddrAttr_inside length) fun _ => inside_pure _
  | string =>
    refine inside_bind ?_ fun _ => inside_pure _
    exact inside_bind (inside_octets (Nat.le_refl _)) fun _ => inside_pure _
  | empty =>
    refine inside_bind ?_ fun _ => inside_pure _
    exact inside_ite (fun _ => inside_fail _) fun _ => inside_pure _
  | uint =>
    refine inside_bind (inside_ite (fun _ => inside_fail _) fun four => ?_) fun _ => inside_pure _
    rw [not_not.1 four]
    exact inside_field32 (by decide)
  | uint64 =>
    refine inside_bind (inside_ite (fun _ => inside_fail _) fun eight => ?_) fun _ => inside_pure _
    rw [not_not.1 eight]
    refine inside_bind (inside_field32 (by decide)) fun _ => ?_
    exact inside_bind (inside_field32 (by decide)) fun _ => inside_pure _
  | msgint =>
    refine inside_bind (inside_dite (fun digest => ?_) fun _ => inside_fail _) fun _ => inside_pure _
    refine inside_bind ?_ fun _ => inside_pure _
    rw [digest]
    exact inside_octets (by decide)
  | errcode =>
    refine inside_bind (inside_ite (fun _ => inside_fail _) fun long => ?_) fun _ => inside_pure _
    have : 4 ≤ length.toNat := UInt16.le_iff_toNat_le.1 (UInt16.not_lt.1 long)
    refine inside_bind (inside_octet (by omega)) fun _ => ?_
    refine inside_bind (inside_octet (by omega)) fun _ => ?_
    exact inside_bind (inside_octets (by omega)) fun _ => inside_pure _
  | unknown => exact inside_bind (decodeUnknownAttr_inside length) fun _ => inside_pure _
  | binary =>
    refine inside_bind ?_ fun _ => inside_pure _
    exact inside_bind (inside_octets (Nat.le_refl _)) fun _ => inside_pure _

end Decoders

variable {attrType : UInt16}

section Attribute

variable {buf : List UInt8} {length : UInt16} (read : (field16 2 : Reader StunStatus _).run buf = .value length)
  (fits : 4 + length.toNat ≤ buf.length)

include read fits

theorem decodeAttr_inside (msghdr : MsgHdr) {kind : AttrKind}
    (known : attrKind attrType = some kind) :
    (decodeAttr msghdr attrType kind known).run buf ≠ .outside := by
  rw [decodeAttr, run_bind, read]
  exact inside_bind (decodeValue_inside length msghdr kind) (fun _ => inside_pure _) buf fits

theorem decodeUnrecognised_inside (unassigned : attrKind attrType = none) :
    (decodeUnrecognised attrType unassigned : Reader DecodeError Attr).run buf ≠ .outside := by
  rw [decodeUnrecognised, run_bind, field16_value.2 (field16_value.1 read)]
  exact inside_bind (inside_octets (Nat.le_refl _)) (fun _ => inside_pure _) buf fits

end Attribute

/-! ## One attribute -/

/-- How an attribute comes into the message. -/
structure Taken (st : DecodeState) (attrType : UInt16) (buf : List UInt8) (attr : Attr)
    (st' : DecodeState) : Prop where
  type : attr.type = attrType
  hdr : st'.msg.hdr = st.msg.hdr
  attrs : st'.msg.attrs = st.msg.attrs ++ [attr]
  read : (∃ kind, ∃ known : attrKind attrType = some kind,
      (decodeAttr st.msg.hdr attrType kind known).run buf = .value attr
        ∧ checkPosition st attrType = .ok { st' with msg := st.msg })
    ∨ ∃ unassigned : attrKind attrType = none, 0x7FFF < attrType
        ∧ (decodeUnrecognised attrType unassigned : Reader DecodeError Attr).run buf = .value attr
        ∧ st'.hasMsgInt = st.hasMsgInt ∧ st'.hasFingerprint = st.hasFingerprint

theorem acceptAttr_value {wanted : Bool} {st st' : DecodeState} {attr : Attr}
    (accepted : acceptAttr wanted st attr = .value st') :
    st'.msg.hdr = st.msg.hdr ∧ st'.msg.attrs = st.msg.attrs ++ [attr]
      ∧ st'.hasMsgInt = st.hasMsgInt ∧ st'.hasFingerprint = st.hasFingerprint := by
  unfold acceptAttr StunMsg.addAttr at accepted
  split at accepted
  · rename_i msg added
    split at added
    · cases added
      cases accepted
      exact ⟨rfl, rfl, rfl, rfl⟩
    · nomatch added
  · nomatch accepted

theorem checkPosition_ok {st placed : DecodeState}
    (ok : checkPosition st attrType = .ok placed) :
    placed.msg = st.msg ∧
      (attrType = attrMessageIntegrity ∧ st.hasFingerprint = false ∧ st.hasMsgInt = false
          ∧ placed.hasMsgInt = true ∧ placed.hasFingerprint = false
        ∨ attrType = attrFingerprint ∧ st.hasFingerprint = false
          ∧ placed.hasMsgInt = st.hasMsgInt ∧ placed.hasFingerprint = true
        ∨ attrType ≠ attrMessageIntegrity ∧ attrType ≠ attrFingerprint
          ∧ st.hasFingerprint = false ∧ placed = st) := by
  unfold checkPosition at ok
  split at ok
  · rename_i msgInt
    have fresh : st.hasFingerprint = false := by simpa using msgInt.2
    split at ok
    · nomatch ok
    · rename_i first
      cases ok
      exact ⟨rfl, .inl ⟨msgInt.1, fresh, by simpa using first, rfl, fresh⟩⟩
  · rename_i other
    split at ok
    · rename_i fingerprint
      split at ok
      · nomatch ok
      · rename_i first
        cases ok
        exact ⟨rfl, .inr (.inl ⟨fingerprint, by simpa using first, rfl, rfl⟩)⟩
    · rename_i notFingerprint
      split at ok
      · nomatch ok
      · rename_i first
        cases ok
        have fresh : st.hasFingerprint = false := by simpa using first
        refine ⟨rfl, .inr (.inr ⟨?_, notFingerprint, fresh, rfl⟩)⟩
        intro msgInt
        exact other ⟨msgInt, first⟩

theorem decodeOne_value {wanted : Bool} {st st' : DecodeState}
    {buf : List UInt8} (decoded : decodeOne wanted st attrType buf = .value st') :
    ∃ attr, Taken st attrType buf attr st' := by
  unfold decodeOne at decoded
  split at decoded
  · rename_i unassigned
    split at decoded
    · nomatch decoded
    · rename_i optional
      split at decoded
      · nomatch decoded
      · obtain ⟨attr, read, accepted⟩ := bind_eq_value.1 decoded
        obtain ⟨hdr, attrs, flags⟩ := acceptAttr_value accepted
        refine ⟨attr, ?_, hdr, attrs, .inr ⟨unassigned, UInt16.not_le.1 optional, read, flags⟩⟩
        obtain ⟨length, -, rest⟩ := bind_eq_value.1 read
        obtain ⟨data, -, made⟩ := bind_eq_value.1 rest
        cases made
        rfl
  · rename_i kind known
    split at decoded
    · nomatch decoded
    · nomatch decoded
    · rename_i attr read
      split at decoded
      · nomatch decoded
      · rename_i placed position
        obtain ⟨hdr, attrs, msgInt, fingerprint⟩ := acceptAttr_value decoded
        obtain ⟨same, -⟩ := checkPosition_ok position
        refine ⟨attr, ?_, by rw [hdr, same], by rw [attrs, same], .inl ⟨kind, known, read, ?_⟩⟩
        · obtain ⟨length, -, rest⟩ := bind_eq_value.1 read
          obtain ⟨value, -, made⟩ := bind_eq_value.1 rest
          cases made
          rfl
        · rw [position, msgInt, fingerprint, ← same]

/-- It was not outside, and an error comes with a response only if one is wanted. -/
def Orderly {α : Type} (wanted : Bool) : Read DecodeError α → Prop
  | .value _ => True
  | .error e => e.response.isSome → wanted = true
  | .outside => False

section Orderly

variable {α : Type} {wanted : Bool}

theorem respond_wanted {msg : StunMsg} {errCode : Nat} {errMsg : Option Text}
    (responded : (respond wanted msg errCode errMsg).isSome) : wanted = true := by
  unfold respond at responded
  split at responded
  · assumption
  · nomatch responded

theorem refuse_orderly (msg : StunMsg) (status : StunStatus) (errCode : Nat)
    (errMsg : Option Text) : Orderly wanted (refuse wanted msg status errCode errMsg (α := α)) :=
  respond_wanted

theorem acceptAttr_orderly (st : DecodeState) (attr : Attr) :
    Orderly wanted (acceptAttr wanted st attr) := by
  unfold acceptAttr
  split
  · trivial
  · exact refuse_orderly _ _ _ _

theorem decodeOne_orderly (st : DecodeState) {attrType length : UInt16} {buf : List UInt8}
    (read : (field16 2 : Reader StunStatus _).run buf = .value length)
    (fits : 4 + length.toNat ≤ buf.length) :
    Orderly wanted (decodeOne wanted st attrType buf) := by
  unfold decodeOne
  split
  · rename_i unassigned
    split
    · intro responded
      exact respond_wanted (by simpa [respondUnknown] using responded)
    · split
      · exact refuse_orderly _ _ _ _
      · show Orderly wanted (Read.bind _ _)
        cases made : (decodeUnrecognised attrType unassigned : Reader DecodeError Attr).run buf with
        | value attr => exact acceptAttr_orderly st attr
        | error e =>
          -- neither the length nor the data is refused
          rw [decodeUnrecognised, run_bind, field16_value.2 (field16_value.1 read),
            bind_value, run_bind] at made
          obtain ⟨data, copied, -⟩ := octets_inside (ε := DecodeError) fits
          rw [copied] at made
          nomatch made
        | outside => exact decodeUnrecognised_inside read fits unassigned made
  · rename_i kind known
    split
    · rename_i outside
      exact decodeAttr_inside read fits _ known outside
    · exact refuse_orderly _ _ _ _
    · split
      · exact refuse_orderly _ _ _ _
      · exact acceptAttr_orderly _ _

end Orderly

/-! ## The attributes that are accepted -/

structure Accepted (attrs : List Attr) : Prop where
  few : attrs.length ≤ stunMaxAttr
  oneMsgInt : attrs.countP (·.type = attrMessageIntegrity) ≤ 1
  oneFingerprint : attrs.countP (·.type = attrFingerprint) ≤ 1
  fingerprintLast : attrs.Pairwise fun a b => a.type = attrFingerprint → attrKind b.type = none
  understood : ∀ a ∈ attrs, attrKind a.type = none → 0x8000 ≤ a.type

/-- What holds before every round: the two flags say what has been seen. -/
structure Sound (st : DecodeState) : Prop where
  msgInt : st.msg.attrs.countP (·.type = attrMessageIntegrity) = st.hasMsgInt.toNat
  fingerprint : st.msg.attrs.countP (·.type = attrFingerprint) = st.hasFingerprint.toNat
  last : st.msg.attrs.Pairwise fun a b => a.type = attrFingerprint → attrKind b.type = none
  understood : ∀ a ∈ st.msg.attrs, attrKind a.type = none → 0x8000 ≤ a.type

variable {st : DecodeState}

theorem Sound.accepted (sound : Sound st) : Accepted st.msg.attrs where
  few := st.msg.attrCount
  oneMsgInt := by
    rw [sound.msgInt]
    exact Bool.toNat_le _
  oneFingerprint := by
    rw [sound.fingerprint]
    exact Bool.toNat_le _
  fingerprintLast := sound.last
  understood := sound.understood

theorem Sound.none_before (sound : Sound st)
    (fresh : st.hasFingerprint = false) : ∀ a ∈ st.msg.attrs, a.type ≠ attrFingerprint := by
  have uncounted := sound.fingerprint
  rw [fresh] at uncounted
  intro a mem same
  exact absurd (decide_eq_true same) (List.countP_eq_zero.1 uncounted a mem)

theorem Taken.sound {st' : DecodeState} {buf : List UInt8} {attr : Attr}
    (taken : Taken st attrType buf attr st') (sound : Sound st) : Sound st' := by
  obtain ⟨type, -, attrs, read⟩ := taken
  have kind_ofMsgInt : attrKind attrMessageIntegrity ≠ none := by decide
  have kind_ofFingerprint : attrKind attrFingerprint ≠ none := by decide
  rcases read with ⟨kind, known, -, position⟩ | ⟨unassigned, optional, -, msgInt, fingerprint⟩
  · -- what is understood comes before any FINGERPRINT
    obtain ⟨-, placed⟩ := checkPosition_ok position
    have fresh : st.hasFingerprint = false := by
      rcases placed with ⟨-, fresh, -⟩ | ⟨-, fresh, -⟩ | ⟨-, -, fresh, -⟩ <;> exact fresh
    have before := sound.none_before fresh
    have understood : ∀ a ∈ st'.msg.attrs, attrKind a.type = none → 0x8000 ≤ a.type := by
      intro a mem unassigned
      rw [attrs, List.mem_append, List.mem_singleton] at mem
      rcases mem with mem | rfl
      · exact sound.understood a mem unassigned
      · rw [type, known] at unassigned
        nomatch unassigned
    have last : st'.msg.attrs.Pairwise fun a b =>
        a.type = attrFingerprint → attrKind b.type = none := by
      rw [attrs, List.pairwise_append]
      refine ⟨sound.last, List.pairwise_singleton _ _, ?_⟩
      intro a mem b _ same
      exact absurd same (before a mem)
    refine ⟨?_, ?_, last, understood⟩
    · rw [attrs, List.countP_append, sound.msgInt, List.countP_singleton, type]
      rcases placed with ⟨rfl, -, first, second, -⟩ | ⟨rfl, -, same, -⟩ | ⟨other, -, -, same⟩
      · change st'.hasMsgInt = true at second
        rw [first, second]
        rfl
      · change st'.hasMsgInt = st.hasMsgInt at same
        rw [same]
        rfl
      · have same : st'.hasMsgInt = st.hasMsgInt := by rw [← same]
        rw [same, if_neg (by simpa using other)]
        rfl
    · rw [attrs, List.countP_append, sound.fingerprint, List.countP_singleton, type, fresh]
      rcases placed with ⟨rfl, -, -, -, same⟩ | ⟨rfl, -, -, seen⟩ | ⟨-, other, -, same⟩
      · change st'.hasFingerprint = false at same
        rw [same]
        rfl
      · change st'.hasFingerprint = true at seen
        rw [seen]
        rfl
      · have same : st'.hasFingerprint = st.hasFingerprint := by rw [← same]
        rw [same, fresh, if_neg (by simpa using other)]
        rfl
  · -- anything optional may come anywhere
    have otherMsgInt : attrType ≠ attrMessageIntegrity := by
      rintro rfl
      exact kind_ofMsgInt unassigned
    have otherFingerprint : attrType ≠ attrFingerprint := by
      rintro rfl
      exact kind_ofFingerprint unassigned
    refine ⟨?_, ?_, ?_, ?_⟩
    · rw [attrs, List.countP_append, sound.msgInt, msgInt, List.countP_singleton, type,
        if_neg (by simpa using otherMsgInt), Nat.add_zero]
    · rw [attrs, List.countP_append, sound.fingerprint, fingerprint, List.countP_singleton, type,
        if_neg (by simpa using otherFingerprint), Nat.add_zero]
    · rw [attrs, List.pairwise_append]
      refine ⟨sound.last, List.pairwise_singleton _ _, ?_⟩
      intro a _ b mem _
      rw [List.mem_singleton.1 mem, type]
      exact unassigned
    · intro a mem required
      rw [attrs, List.mem_append, List.mem_singleton] at mem
      rcases mem with mem | rfl
      · exact sound.understood a mem required
      · rw [type, UInt16.le_iff_toNat_le]
        have := UInt16.lt_iff_toNat_lt.1 optional
        show 0x8000 ≤ attrType.toNat
        change 0x7FFF < attrType.toNat at this
        omega

/-! ## The loop and the packet -/

/-- How parsing ends: the whole body has been gone through, or there is an error. -/
def ParseEnd (wanted : Bool) (hdr : MsgHdr) (total : Nat) : Read DecodeError (StunMsg × Nat) → Prop
  | .value (msg, parsed) => parsed = total ∧ msg.hdr = hdr ∧ Accepted msg.attrs
  | .error e => e.response.isSome → wanted = true
  | .outside => False

theorem decodeAttrs_round {wanted : Bool} {start : List UInt8} {rounds : Nat}
    {pos pduLen : Nat} {attrType attrLen : UInt16}
    (type : (field16 0 : Reader DecodeError _).run (start.drop pos) = .value attrType)
    (length : (field16 2 : Reader DecodeError _).run (start.drop pos) = .value attrLen)
    (fits : align4 attrLen.toNat + 4 ≤ pduLen) :
    decodeAttrs wanted start (rounds + 1) st pos pduLen
      = (decodeOne wanted st attrType (start.drop pos)).bind fun st' =>
          decodeAttrs wanted start rounds st' (pos + (align4 attrLen.toNat + 4))
            (pduLen - (align4 attrLen.toNat + 4)) := by
  rw [decodeAttrs, if_neg (by omega)]
  show Read.bind ((field16 0).run (start.drop pos)) _ = _
  rw [type, bind_value]
  show Read.bind ((field16 2).run (start.drop pos)) _ = _
  rw [length, bind_value]
  show (if pduLen < align4 attrLen.toNat + 4 then _ else _) = _
  rw [if_neg (by omega)]
  refine congrArg (Read.bind _) ?_
  funext st'
  split
  · rw [show pduLen = align4 attrLen.toNat + 4 by omega, Nat.sub_self]
  · rfl

theorem decodeAttrs_end (wanted : Bool) (start : List UInt8) {rounds : Nat}
    {pos pduLen : Nat} (sound : Sound st) (fits : pos + pduLen ≤ start.length)
    (enough : pduLen < rounds) :
    ParseEnd wanted st.msg.hdr (pos + pduLen) (decodeAttrs wanted start rounds st pos pduLen) := by
  induction rounds generalizing st pos pduLen with
  | zero => omega
  | succ rounds ih =>
    unfold decodeAttrs
    split
    · split
      · nofun
      · refine ⟨?_, rfl, sound.accepted⟩
        omega
    · have room : 4 ≤ (start.drop pos).length := by
        rw [List.length_drop]
        omega
      show ParseEnd _ _ _ (Read.bind _ _)
      rw [field16_inside (by omega), bind_value]
      show ParseEnd _ _ _ (Read.bind _ _)
      rw [field16_inside (by omega), bind_value]
      generalize value16 (((start.drop pos).drop 0).take 2) = attrType
      generalize readLen : value16 (((start.drop pos).drop 2).take 2) = attrLen
      show ParseEnd _ _ _ (if _ then _ else _)
      split
      · exact refuse_orderly (α := StunMsg × Nat) _ _ _ _
      · rename_i long
        have padded : attrLen.toNat ≤ align4 attrLen.toNat := by
          unfold align4
          omega
        have orderly : Orderly wanted (decodeOne wanted st attrType (start.drop pos)) :=
          decodeOne_orderly st (field16_value.2 ⟨room, readLen⟩) (by rw [List.length_drop]; omega)
        show ParseEnd _ _ _ (Read.bind _ _)
        cases one : decodeOne wanted st attrType (start.drop pos) with
        | value st' =>
          obtain ⟨attr, taken⟩ := decodeOne_value one
          have sound' := taken.sound sound
          rw [bind_value, ← taken.hdr]
          show ParseEnd _ _ _ (if _ then _ else _)
          split
          · exact ih sound' (by omega) (by omega)
          · rename_i more
            have next : ParseEnd wanted st'.msg.hdr
                (pos + (align4 attrLen.toNat + 4) + (pduLen - (align4 attrLen.toNat + 4)))
                (decodeAttrs wanted start rounds st' _ _) :=
              ih sound' (by omega) (by omega)
            rwa [show pos + (align4 attrLen.toNat + 4) + (pduLen - (align4 attrLen.toNat + 4))
              = pos + pduLen by omega] at next
        | error e =>
          rw [one] at orderly
          exact orderly
        | outside =>
          rw [one] at orderly
          exact orderly.elim

theorem checkFingerprint_inside (env : StunEnv) (msgLen : Nat) :
    Inside (msgLen + 20) (checkFingerprint env msgLen) := by
  refine inside_bind (inside_field16 (by omega)) fun attrType => ?_
  refine inside_ite (fun _ => ?_) fun _ => inside_pure _
  refine inside_bind (inside_field16 (by omega)) fun attrLen => ?_
  refine inside_bind (inside_field32 (by omega)) fun fingerprint => ?_
  refine inside_ite (fun _ => inside_fail _) fun _ => ?_
  refine inside_bind (inside_octets (by omega)) fun covered => ?_
  exact inside_ite (fun _ => inside_fail _) fun _ => inside_pure _

theorem pjStunMsgCheck_inside (env : StunEnv) (pdu : List UInt8) (options : UInt32) :
    pjStunMsgCheck env pdu options ≠ .outside := by
  unfold pjStunMsgCheck
  split
  · nofun
  · rename_i long
    obtain ⟨first, readFirst⟩ : ∃ v, (octet 0 : Reader StunStatus UInt8).run pdu = .value v :=
      octet_inside (by omega)
    obtain ⟨magic, readMagic⟩ : ∃ v, (field32 4 : Reader StunStatus UInt32).run pdu = .value v :=
      field32_inside (by omega)
    show Read.bind _ _ ≠ _
    rw [readFirst, bind_value]
    split
    · nofun
    · show Read.bind _ _ ≠ _
      rw [field16_inside (by omega), bind_value]
      split
      · nofun
      · rename_i within
        split
        · nofun
        · show Read.bind _ _ ≠ _
          rw [readMagic, bind_value]
          split
          · exact checkFingerprint_inside env _ pdu (by omega)
          · nofun

variable {pdu : List UInt8}

theorem pjStunMsgCheck_value {env : StunEnv} {options : UInt32}
    (ok : pjStunMsgCheck env pdu options = .value ()) :
    (value16 ((pdu.drop 2).take 2)).toNat + 20 ≤ pdu.length := by
  unfold pjStunMsgCheck at ok
  split at ok
  · nomatch ok
  · obtain ⟨first, -, ok⟩ := bind_eq_value.1 ok
    split at ok
    · nomatch ok
    · obtain ⟨len, readLen, ok⟩ := bind_eq_value.1 ok
      rw [← (field16_value.1 readLen).2] at ok
      split at ok
      · nomatch ok
      · rename_i within
        rw [not_or] at within
        omega

theorem screenPdu_orderly {wanted : Bool} (env : StunEnv) (options : UInt32)
    (header : 20 ≤ pdu.length) : Orderly wanted (screenPdu env pdu options) := by
  unfold screenPdu
  split
  · split
    · rename_i outside
      exact pjStunMsgCheck_inside env pdu options outside
    · nofun
    · trivial
  · show Orderly _ (Read.bind _ _)
    rw [field16_inside (by omega), bind_value]
    split
    · nofun
    · trivial

theorem screenPdu_value {env : StunEnv} {options : UInt32}
    (ok : screenPdu env pdu options = .value ()) :
    (value16 ((pdu.drop 2).take 2)).toNat + 20 ≤ pdu.length := by
  unfold screenPdu at ok
  split at ok
  · split at ok
    · nomatch ok
    · nomatch ok
    · rename_i checked
      exact pjStunMsgCheck_value checked
  · obtain ⟨len, readLen, ok⟩ := bind_eq_value.1 ok
    rw [(field16_value.1 readLen).2]
    split at ok
    · nomatch ok
    · rename_i within
      rw [not_or] at within
      omega

theorem decodeHdr_value (ε : Type) (header : 20 ≤ pdu.length) :
    ∃ magic tsxId, (decodeHdr : Reader ε MsgHdr).run pdu
      = .value ⟨value16 (pdu.take 2), value16 ((pdu.drop 2).take 2), magic, tsxId⟩ := by
  obtain ⟨magic, readMagic⟩ : ∃ v, (field32 4 : Reader ε UInt32).run pdu = .value v :=
    field32_inside (by omega)
  obtain ⟨tsxId, readTsx⟩ : ∃ bytes, (octets 8 12 : Reader ε (Octets 12)).run pdu = .value bytes :=
    ⟨_, dif_pos (by omega)⟩
  refine ⟨magic, tsxId, ?_⟩
  rw [decodeHdr, run_bind, field16_inside (by omega), bind_value, run_bind,
    field16_inside (by omega), bind_value, run_bind, readMagic, bind_value, run_bind, readTsx]
  rfl

/-- How a packet is parsed: nothing outside of it is read and the loop comes to an end; an
error brings a response only to a request; what is accepted fills the length in the header. -/
def SafeEnd (pdu : List UInt8) : Read DecodeError (StunMsg × Nat) → Prop
  | .value (msg, parsed) =>
    parsed = 20 + msg.hdr.length.toNat ∧ msg.hdr.length = value16 ((pdu.drop 2).take 2)
      ∧ parsed ≤ pdu.length ∧ Accepted msg.attrs
  | .error e => e.response.isSome → isRequest (value16 (pdu.take 2)) = true
  | .outside => False

theorem ParseEnd.safe {wanted : Bool} {hdr : MsgHdr}
    {r : Read DecodeError (StunMsg × Nat)} (ended : ParseEnd wanted hdr (20 + hdr.length.toNat) r)
    (request : wanted = true → isRequest (value16 (pdu.take 2)) = true)
    (len : hdr.length = value16 ((pdu.drop 2).take 2))
    (fits : hdr.length.toNat + 20 ≤ pdu.length) : SafeEnd pdu r := by
  cases r with
  | value result =>
    obtain ⟨msg, parsed⟩ := result
    obtain ⟨rfl, rfl, accepted⟩ := ended
    exact ⟨rfl, len, by omega, accepted⟩
  | error e => exact fun responded => request (ended responded)
  | outside => exact ended

theorem pjStunMsgDecode_safe (env : StunEnv) (pdu : List UInt8) (options : UInt32)
    (wantResponse : Bool) (header : 20 ≤ pdu.length) :
    SafeEnd pdu (pjStunMsgDecode env pdu options wantResponse) := by
  have screened : Orderly false (screenPdu env pdu options) :=
    screenPdu_orderly env options header
  unfold pjStunMsgDecode
  rw [if_neg (by omega)]
  show SafeEnd pdu (Read.bind _ _)
  cases screen : screenPdu env pdu options with
  | outside =>
    rw [screen] at screened
    exact screened.elim
  | error e =>
    rw [screen] at screened
    intro responded
    exact absurd (screened responded) (by decide)
  | value checked =>
    have fits := screenPdu_value screen
    obtain ⟨magic, tsxId, readHdr⟩ := decodeHdr_value DecodeError header
    rw [bind_value]
    show SafeEnd pdu (Read.bind _ _)
    rw [readHdr, bind_value]
    refine ParseEnd.safe (decodeAttrs_end _ pdu ?_ ?_ (Nat.lt_succ_self _)) ?_ rfl fits
    · exact ⟨rfl, rfl, List.Pairwise.nil, nofun⟩
    · show 20 + (value16 ((pdu.drop 2).take 2)).toNat ≤ _
      omega
    · intro wanted
      rw [Bool.and_eq_true] at wanted
      exact wanted.2

/-- A Binding request with PRIORITY, USE-CANDIDATE and an optional attribute. -/
theorem pjStunMsgDecode_safe_binding :
    SafeEnd ([0, 1, 0, 20, 0x21, 0x12, 0xA4, 0x42] ++ List.replicate 12 7
        ++ [0, 0x24, 0, 4, 0, 0, 0, 1, 0, 0x25, 0, 0, 0xC0, 0, 0, 1, 9, 0, 0, 0])
      (pjStunMsgDecode (.constant ⟨List.replicate 20 0, rfl⟩ 0)
        ([0, 1, 0, 20, 0x21, 0x12, 0xA4, 0x42] ++ List.replicate 12 7
          ++ [0, 0x24, 0, 4, 0, 0, 0, 1, 0, 0x25, 0, 0, 0xC0, 0, 0, 1, 9, 0, 0, 0])
        (optIsDatagram ||| optCheckPacket) true) :=
  pjStunMsgDecode_safe _ _ _ _ (by decide)

end Pjsip.Pjnath.Stun
