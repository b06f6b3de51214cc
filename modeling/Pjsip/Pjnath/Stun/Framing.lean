import Pjsip.Pjnath.Stun.Auth
import Pjsip.Pjnath.Stun.DecodeSafe
import Pjsip.Pjnath.Stun.EncodeLayout

/-!
# Where the attributes of a parsed packet are

The attributes stand in the packet back to back, each as long as its length field says. So
the position that the verifier counts up is the one where MESSAGE-INTEGRITY was read, and
two packets with the same octets up to there have it at the same place.
-/

namespace Pjsip.Pjnath.Stun

open Pjsip.Base Reader

/-- The attributes were read from `pos` on, one behind the other, up to `stop`. -/
def Frames (start : List UInt8) : List Attr → (pos stop : Nat) → Prop
  | [], pos, stop => pos = stop
  | a :: rest, pos, stop =>
    (field16 0 : Reader DecodeError _).run (start.drop pos) = .value a.type
    ∧ (field16 2 : Reader DecodeError _).run (start.drop pos) = .value a.length
    ∧ (∀ hmac, a.value = .msgint hmac → hmac.1 = (start.drop (pos + 4)).take 20)
    ∧ Frames start rest (pos + (align4 a.length.toNat + 4)) stop

/-! ## What is read of an attribute -/

section Attribute

variable {buf : List UInt8} {attr : Attr}

variable {attrType : UInt16}

theorem decodeAttr_length {msghdr : MsgHdr} {kind : AttrKind}
    {known : attrKind attrType = some kind}
    (read : (decodeAttr msghdr attrType kind known).run buf = .value attr) :
    (field16 2 : Reader DecodeError _).run buf = .value attr.length := by
  obtain ⟨length, readLength, rest⟩ := bind_eq_value.1 read
  obtain ⟨value, -, made⟩ := bind_eq_value.1 rest
  cases made
  exact field16_value.2 (field16_value.1 readLength)

theorem decodeUnrecognised_length {unassigned : attrKind attrType = none}
    (read : (decodeUnrecognised attrType unassigned : Reader DecodeError _).run buf = .value attr) :
    (field16 2 : Reader DecodeError _).run buf = .value attr.length
      ∧ ∀ hmac, attr.value ≠ .msgint hmac := by
  obtain ⟨length, readLength, rest⟩ := bind_eq_value.1 read
  obtain ⟨data, -, made⟩ := bind_eq_value.1 rest
  cases made
  exact ⟨readLength, nofun⟩

theorem decodeAttr_msgint {msghdr : MsgHdr} {kind : AttrKind}
    {known : attrKind attrType = some kind}
    (read : (decodeAttr msghdr attrType kind known).run buf = .value attr) {hmac : Octets 20}
    (value : attr.value = .msgint hmac) : hmac.1 = (buf.drop 4).take 20 := by
  obtain ⟨length, -, rest⟩ := bind_eq_value.1 read
  obtain ⟨got, decoded, made⟩ := bind_eq_value.1 rest
  cases made
  change got.1 = .msgint hmac at value
  obtain ⟨got, suits⟩ := got
  cases value
  cases kind with
  | msgint =>
    obtain ⟨digest, readDigest, same⟩ := bind_eq_value.1 decoded
    cases same
    unfold decodeMsgintAttr at readDigest
    split at readDigest
    · obtain ⟨octets, readOctets, same⟩ := bind_eq_value.1 readDigest
      cases same
      exact (octets_value readOctets).2
    · nomatch readDigest
  | _ => nomatch suits

end Attribute

theorem Taken.frame {st st' : DecodeState} {attrType : UInt16} {buf : List UInt8} {attr : Attr}
    (taken : Taken st attrType buf attr st') :
    (field16 2 : Reader DecodeError _).run buf = .value attr.length
      ∧ ∀ hmac, attr.value = .msgint hmac → hmac.1 = (buf.drop 4).take 20 := by
  rcases taken.read with ⟨kind, known, read, -⟩ | ⟨unassigned, -, read, -, -⟩
  · exact ⟨decodeAttr_length read, fun hmac value => decodeAttr_msgint read value⟩
  · obtain ⟨length, other⟩ := decodeUnrecognised_length read
    exact ⟨length, fun hmac value => absurd value (other hmac)⟩

theorem decodeAttrs_frames {wanted : Bool} {start : List UInt8} {rounds : Nat} {st : DecodeState}
    {pos pduLen parsed : Nat} {msg : StunMsg}
    (decoded : decodeAttrs wanted start rounds st pos pduLen = .value (msg, parsed)) :
    msg.hdr = st.msg.hdr ∧ ∃ added, msg.attrs = st.msg.attrs ++ added
      ∧ Frames start added pos (pos + pduLen) := by
  induction rounds generalizing st pos pduLen with
  | zero => cases decoded
  | succ rounds ih =>
    by_cases long : pduLen < 4
    · rw [decodeAttrs, if_pos long] at decoded
      split at decoded
      · cases decoded
      · cases decoded
        refine ⟨rfl, [], by simp, ?_⟩
        show parsed = parsed + pduLen
        omega
    · have whole := decoded
      rw [decodeAttrs, if_neg long] at decoded
      obtain ⟨attrType, readType, decoded⟩ := bind_eq_value.1 decoded
      obtain ⟨attrLen, readLen, decoded⟩ := bind_eq_value.1 decoded
      change (if pduLen < align4 attrLen.toNat + 4 then _ else _) = _ at decoded
      split at decoded
      · cases decoded
      · rename_i fits
        rw [decodeAttrs_round readType readLen (by omega)] at whole
        obtain ⟨st', one, rest⟩ := bind_eq_value.1 whole
        obtain ⟨attr, taken⟩ := decodeOne_value one
        obtain ⟨readLen', digest⟩ := taken.frame
        rw [readLen] at readLen'
        cases readLen'
        obtain ⟨hdr, added, attrs, frames⟩ := ih rest
        refine ⟨hdr.trans taken.hdr, attr :: added, by rw [attrs, taken.attrs]; simp, ?_⟩
        rw [show pos + (align4 attr.length.toNat + 4)
          + (pduLen - (align4 attr.length.toNat + 4)) = pos + pduLen by omega] at frames
        refine ⟨taken.type ▸ readType, readLen, ?_, frames⟩
        intro hmac value
        rw [digest hmac value, List.drop_drop]

/-! ## The place of MESSAGE-INTEGRITY -/

theorem lookForMsgint_at {mi : Attr} {rest : List Attr} {pos : Nat}
    (type : mi.type = attrMessageIntegrity)
    (last : ∀ a ∈ rest, a.type ≠ attrMessageIntegrity) :
    lookForMsgint (mi :: rest) ⟨none, pos, false⟩ = ⟨some mi, pos, !rest.isEmpty⟩ := by
  rw [lookForMsgint, if_pos type]
  cases rest with
  | nil => rfl
  | cons b rest =>
    rw [lookForMsgint, if_neg (last b List.mem_cons_self)]
    rfl

theorem lookForMsgint_other {a : Attr} {rest : List Attr} {pos : Nat}
    (other : a.type ≠ attrMessageIntegrity) :
    lookForMsgint (a :: rest) ⟨none, pos, false⟩
      = lookForMsgint rest ⟨none, pos + (align4 a.length.toNat + 4), false⟩ := by
  rw [lookForMsgint, if_neg other]
  rfl

/-- What the loop of the verifier says of octets: the digest is where it counts up to, and the
body ends behind it if nothing else follows. -/
theorem Frames.msgint {start : List UInt8} {attrs : List Attr} (base pos : Nat) {stop : Nat}
    (frames : Frames start attrs (base + pos) stop)
    (one : attrs.countP (·.type = attrMessageIntegrity) ≤ 1) {amsgi : Attr}
    (found : (lookForMsgint attrs ⟨none, pos, false⟩).amsgi = some amsgi) :
    amsgi.type = attrMessageIntegrity
      ∧ (∃ hmac, amsgi.value = .msgint hmac ∧ hmac.1 = (start.drop (base
          + ((lookForMsgint attrs ⟨none, pos, false⟩).amsgiPos + 4))).take 20)
      ∧ ((lookForMsgint attrs ⟨none, pos, false⟩).hasAttrBeyondMi = false →
          stop = base + ((lookForMsgint attrs ⟨none, pos, false⟩).amsgiPos + 24)) := by
  induction attrs generalizing pos with
  | nil => nomatch found
  | cons a rest ih =>
    obtain ⟨-, -, digest, frames⟩ := frames
    by_cases type : a.type = attrMessageIntegrity
    · obtain ⟨length, hmac, value⟩ := Attr.msgint_value type
      have others : ∀ b ∈ rest, b.type ≠ attrMessageIntegrity := by
        rw [List.countP_cons_of_pos (by simpa using type)] at one
        have uncounted := List.countP_eq_zero.1 (Nat.le_zero.1 (Nat.le_of_succ_le_succ one))
        intro b mem
        simpa using uncounted b mem
      rw [lookForMsgint_at type others] at found ⊢
      cases found
      refine ⟨type, ⟨hmac, value, by rw [digest hmac value, Nat.add_assoc]⟩, ?_⟩
      intro last
      cases rest with
      | nil =>
        change base + pos + (align4 amsgi.length.toNat + 4) = stop at frames
        rw [length] at frames
        change base + pos + 24 = stop at frames
        show stop = base + (pos + 24)
        omega
      | cons b rest => nomatch last
    · rw [lookForMsgint_other type] at found ⊢
      rw [List.countP_cons_of_neg (by simpa using type)] at one
      rw [Nat.add_assoc] at frames
      exact ih _ frames one found

/-! ## The packet -/

theorem decodeHdr_fields {pkt : List UInt8} {hdr : MsgHdr}
    (read : (decodeHdr : Reader DecodeError _).run pkt = .value hdr) :
    hdr.type = value16 (pkt.take 2) ∧ hdr.length = value16 ((pkt.drop 2).take 2)
      ∧ hdr.magic = value32 ((pkt.drop 4).take 4) ∧ hdr.tsxId.1 = (pkt.drop 8).take 12 := by
  obtain ⟨type, readType, read⟩ := bind_eq_value.1 read
  obtain ⟨length, readLength, read⟩ := bind_eq_value.1 read
  obtain ⟨magic, readMagic, read⟩ := bind_eq_value.1 read
  obtain ⟨tsxId, readTsxId, made⟩ := bind_eq_value.1 read
  obtain ⟨bytes, readBytes, same⟩ := bind_eq_value.1 readMagic
  cases same
  cases made
  exact ⟨(field16_value.1 readType).2.symm, (field16_value.1 readLength).2.symm,
    congrArg value32 (octets_value readBytes).2, (octets_value readTsxId).2⟩

/-- What is known of a message that was parsed from a packet. -/
structure ParsedFrom (pkt : List UInt8) (msg : StunMsg) : Prop where
  long : 20 ≤ pkt.length
  hdr : (decodeHdr : Reader DecodeError _).run pkt = .value msg.hdr
  frames : Frames pkt msg.attrs 20 (20 + msg.hdr.length.toNat)
  accepted : Accepted msg.attrs

theorem pjStunMsgDecode_parsed {env : StunEnv} {pkt : List UInt8} {options : UInt32}
    {wantResponse : Bool} {msg : StunMsg} {parsed : Nat}
    (decoded : pjStunMsgDecode env pkt options wantResponse = .value (msg, parsed)) :
    ParsedFrom pkt msg ∧ parsed = 20 + msg.hdr.length.toNat := by
  unfold pjStunMsgDecode at decoded
  split at decoded
  · cases decoded
  · obtain ⟨checked, screened, decoded⟩ := bind_eq_value.1 decoded
    obtain ⟨hdr, readHdr, decoded⟩ := bind_eq_value.1 decoded
    have fits := screenPdu_value screened
    have readHdr' := readHdr
    obtain ⟨magic, tsxId, same⟩ := decodeHdr_value DecodeError (show 20 ≤ pkt.length by omega)
    rw [same] at readHdr'
    cases readHdr'
    change decodeAttrs _ pkt _ _ 20 _ = _ at decoded
    have sound : Sound ⟨⟨⟨value16 (pkt.take 2), value16 ((pkt.drop 2).take 2), magic, tsxId⟩, [],
        Nat.zero_le _⟩, false, false⟩ :=
      ⟨rfl, rfl, List.Pairwise.nil, (by simp)⟩
    have ended := decodeAttrs_end (wantResponse && isRequest (value16 (pkt.take 2))) pkt sound
      (show 20 + (value16 ((pkt.drop 2).take 2)).toNat ≤ pkt.length by omega)
      (Nat.lt_succ_self _)
    rw [decoded] at ended
    obtain ⟨hdr, added, attrs, frames⟩ := decodeAttrs_frames decoded
    rw [List.nil_append] at attrs
    refine ⟨⟨by omega, ?_, ?_, ended.2.2⟩, by rw [hdr]; exact ended.1⟩
    · rw [hdr]
      exact readHdr
    · rw [attrs, hdr]
      exact frames

end Pjsip.Pjnath.Stun
