import Pjsip.Base.Reader
import Pjsip.Pjnath.Stun.Msg

/-!
# Parsing a packet (`pj_stun_msg_check`, `pj_stun_msg_decode`)

A decoder reads the octets of one attribute, from its header on. All decoders begin with
`GETATTRHDR`, so each of them looks at the length of its attribute once more; the type,
by which the decoder was chosen, is the same and is not read again.
-/

namespace Pjsip.Pjnath.Stun

open Pjsip.Base Reader

/-! ## Decoders of the attributes -/

/-- The value of a length field, as octets of a string. -/
def textOf {length : UInt16} (bytes : Octets length.toNat) : Text :=
  ⟨bytes.1, by
    have := length.toNat_lt
    have := bytes.2
    omega⟩

def decodeSockaddrAttr (length : UInt16) : Reader StunStatus SockAddr :=
  if length ≠ 8 ∧ length ≠ 20 then fail .estuninattrlen
  else do
    let family ← octet 5
    if family = 1 then
      if length ≠ 8 then fail .estuninattrlen
      else do
        let port ← field16 6
        let addr ← octets 8 4
        return .inet port addr
    else if family = 2 then
      if length ≠ 20 then fail .estuninattrlen
      else do
        let port ← field16 6
        let addr ← octets 8 16
        return .inet6 port addr
    else fail .einvaf

/-- The magic and behind it the transaction id. -/
def xorMask (tsxId : Octets 12) : Octets 16 :=
  ⟨put32 stunMagic ++ tsxId.1, by simp [tsxId.2]⟩

/-- The address XOR'ed with the magic, and for IPv6 with the transaction id too. -/
def SockAddr.xored (tsxId : Octets 12) : SockAddr → SockAddr
  | .inet port addr =>
    .inet (port ^^^ (stunMagic >>> 16).toUInt16)
      ⟨xorOctets addr.1 (put32 stunMagic), by simp [addr.2]⟩
  | .inet6 port addr =>
    .inet6 (port ^^^ (stunMagic >>> 16).toUInt16)
      ⟨xorOctets addr.1 (xorMask tsxId).1, by simp [addr.2, (xorMask tsxId).2]⟩
  | .unspec => .unspec

def decodeXoredSockaddrAttr (length : UInt16) (msghdr : MsgHdr) : Reader StunStatus SockAddr := do
  let addr ← decodeSockaddrAttr length
  return addr.xored msghdr.tsxId

def decodeStringAttr (length : UInt16) : Reader StunStatus Text := do
  let value ← octets 4 length.toNat
  return textOf value

def decodeEmptyAttr (length : UInt16) : Reader StunStatus Unit :=
  if length ≠ 0 then fail .estuninattrlen else return ()

def decodeUintAttr (length : UInt16) : Reader StunStatus UInt32 :=
  if length ≠ 4 then fail .estuninattrlen else field32 4

/-- The high and the low half. -/
def decodeUint64Attr (length : UInt16) : Reader StunStatus (UInt32 × UInt32) :=
  if length ≠ 8 then fail .estuninattrlen
  else do
    let hi ← field32 4
    let lo ← field32 8
    return (hi, lo)

def decodeMsgintAttr (length : UInt16) : Reader StunStatus { _hmac : Octets 20 // length = 20 } :=
  if digest : length = 20 then do
    let hmac ← octets 4 20
    return ⟨hmac, digest⟩
  else fail .estuninattrlen

def decodeErrcodeAttr (length : UInt16) : Reader StunStatus (Int × Text) :=
  if length < 4 then fail .estuninattrlen
  else do
    let hundreds ← octet 6
    let number ← octet 7
    let reason ← octets 8 (length.toNat - 4)
    return (hundreds.toNat * 100 + number.toNat, ⟨reason.1, by
      have := length.toNat_lt
      have := reason.2
      omega⟩)

def decodeUnknownAttr (length : UInt16) :
    Reader StunStatus { types : List UInt16 // types.length ≤ stunMaxAttr } :=
  let attrCount := (length >>> 1).toNat
  if few : attrCount ≤ stunMaxAttr then do
    let types ← fields16 4 attrCount
    return ⟨types.1, by rw [types.2]; exact few⟩
  else fail .etoomany

def decodeBinaryAttr (length : UInt16) : Reader StunStatus Text := do
  let data ← octets 4 length.toNat
  return textOf data

/-- The decoder of the descriptor. -/
def decodeValue (msghdr : MsgHdr) (length : UInt16) : (kind : AttrKind) →
    Reader StunStatus { value : AttrValue // value.suits length (some kind) = true }
  | .sockaddr => do
      let addr ← decodeSockaddrAttr length
      return ⟨.sockaddr false addr, rfl⟩
  | .xoredSockaddr => do
      let addr ← decodeXoredSockaddrAttr length msghdr
      return ⟨.sockaddr true addr, rfl⟩
  | .string => do
      let value ← decodeStringAttr length
      return ⟨.string value, rfl⟩
  | .empty => do
      decodeEmptyAttr length
      return ⟨.empty, rfl⟩
  | .uint => do
      let value ← decodeUintAttr length
      return ⟨.uint value, rfl⟩
  | .uint64 => do
      let value ← decodeUint64Attr length
      return ⟨.uint64 value.1 value.2, rfl⟩
  | .msgint => do
      let hmac ← decodeMsgintAttr length
      return ⟨.msgint hmac.1, decide_eq_true hmac.2⟩
  | .errcode => do
      let value ← decodeErrcodeAttr length
      return ⟨.errcode value.1 value.2, rfl⟩
  | .unknown => do
      let types ← decodeUnknownAttr length
      return ⟨.unknown types, rfl⟩
  | .binary => do
      -- the structure comes zeroed, and the magic of a generic attribute is not set
      let data ← decodeBinaryAttr length
      return ⟨.binary 0 data, rfl⟩

def decodeAttr (msghdr : MsgHdr) (attrType : UInt16) (kind : AttrKind)
    (known : attrKind attrType = some kind) : Reader StunStatus Attr := do
  let length ← field16 2
  let value ← decodeValue msghdr length kind
  return ⟨attrType, length, value.1, by rw [known]; exact value.2⟩

/-- `pj_stun_binary_attr_create` for an attribute without a descriptor. -/
def decodeUnrecognised (attrType : UInt16) (unassigned : attrKind attrType = none) :
    Reader ε Attr := do
  let length ← field16 2
  let data ← octets 4 length.toNat
  return ⟨attrType, length, .binary stunMagic (textOf data), by rw [unassigned]; rfl⟩

/-! ## The packet -/

/-- `PJ_STUN_IS_DATAGRAM` and the other options -/
def optIsDatagram : UInt32 := 1
def optCheckPacket : UInt32 := 2
def optNoFingerprintCheck : UInt32 := 8

def hasOption (options option : UInt32) : Bool := options &&& option != 0

/-- `STUN_XOR_FINGERPRINT` -/
def xorFingerprint : UInt32 := 0x5354554e

/-- The last attribute of a body of `msgLen` octets, if it is a FINGERPRINT, is the checksum
of what comes before it. -/
def checkFingerprint (env : StunEnv) (msgLen : Nat) : Reader StunStatus Unit := do
  let attrType ← field16 (msgLen + 20 - 8)
  if attrType = attrFingerprint then do
    let attrLen ← field16 (msgLen + 20 - 8 + 2)
    let fingerprint ← field32 (msgLen + 20 - 8 + 4)
    if attrLen ≠ 4 then fail .estuninattrlen
    else do
      let covered ← octets 0 (msgLen + 20 - 8)
      if env.crc32 covered.1 ^^^ xorFingerprint ≠ fingerprint then fail .estunfingerprint
      else return ()
  else return ()

/-- `pj_stun_msg_check` -/
def pjStunMsgCheck (env : StunEnv) (pdu : List UInt8) (options : UInt32) : Read StunStatus Unit :=
  if pdu.length < 20 then .error .einstunmsglen
  else do
    let first ← (octet 0).run pdu
    if first ≠ 0x00 ∧ first ≠ 0x01 then .error .einstunmsgtype
    else do
      let msgLen ← (field16 2).run pdu
      if pdu.length < msgLen.toNat + 20
          ∨ hasOption options optIsDatagram ∧ msgLen.toNat + 20 ≠ pdu.length then
        .error .einstunmsglen
      else if msgLen.toNat % 4 ≠ 0 then .error .einstunmsglen
      else do
        let magic ← (field32 4).run pdu
        if magic = stunMagic ∧ ¬ hasOption options optNoFingerprintCheck then
          (checkFingerprint env msgLen.toNat).run pdu
        else return ()

/-- The status of a packet that is not accepted, and the response to it. -/
structure DecodeError where
  status : StunStatus
  response : Option StunMsg

structure DecodeState where
  msg : StunMsg
  hasMsgInt : Bool
  hasFingerprint : Bool

/-- `*p_response`, where the caller wants one. -/
def respond (wanted : Bool) (msg : StunMsg) (errCode : Nat) (errMsg : Option Text) :
    Option StunMsg :=
  if wanted then (createErrorResponse msg errCode errMsg).toOption else none

/-- The response to an attribute that must be understood and is not. -/
def respondUnknown (wanted : Bool) (msg : StunMsg) (attrType : UInt16) : Option StunMsg :=
  (respond wanted msg 420 none).map fun response =>
    match response.addAttr (unknownAttr attrType) with
    | .ok response => response
    | .error _ => response

def refuse {α : Type} (wanted : Bool) (msg : StunMsg) (status : StunStatus) (errCode : Nat)
    (errMsg : Option Text) : Read DecodeError α :=
  .error ⟨status, respond wanted msg errCode errMsg⟩

/-- The rules for the position of MESSAGE-INTEGRITY and FINGERPRINT. -/
def checkPosition (st : DecodeState) (attrType : UInt16) : Except StunStatus DecodeState :=
  if attrType = attrMessageIntegrity ∧ ¬ st.hasFingerprint then
    if st.hasMsgInt then .error .estundupattr else .ok { st with hasMsgInt := true }
  else if attrType = attrFingerprint then
    if st.hasFingerprint then .error .estundupattr else .ok { st with hasFingerprint := true }
  else if st.hasFingerprint then .error .estunfingerpos
  else .ok st

/-- Put the attribute in the message, if there is room. -/
def acceptAttr (wanted : Bool) (st : DecodeState) (attr : Attr) : Read DecodeError DecodeState :=
  match st.msg.addAttr attr with
  | .ok msg => .value { st with msg }
  | .error _ => refuse wanted st.msg .estuntoomanyattr 500 none

/-- One attribute, at the start of `buf`. -/
def decodeOne (wanted : Bool) (st : DecodeState) (attrType : UInt16) (buf : List UInt8) :
    Read DecodeError DecodeState :=
  match kind : attrKind attrType with
  | none =>
    if attrType ≤ 0x7FFF then
      .error ⟨.stunCode 420, respondUnknown wanted st.msg attrType⟩
    else if stunMaxAttr ≤ st.msg.attrs.length then
      refuse wanted st.msg .estuntoomanyattr 500 none
    else do
      let attr ← (decodeUnrecognised attrType kind).run buf
      acceptAttr wanted st attr
  | some kind' =>
    match (decodeAttr st.msg.hdr attrType kind' kind).run buf with
    | .outside => .outside
    | .error status =>
      refuse wanted st.msg status 400
        (some (printed80 (status.strerror ++ " in " ++ pjStunGetAttrName attrType)))
    | .value attr =>
      match checkPosition st attrType with
      | .error status => refuse wanted st.msg status 400 none
      | .ok st => acceptAttr wanted st attr

/-- The loop over the attributes: `pos` is where the next one starts in `start`, `pduLen`
how much of the body is left. It ends within `rounds` rounds. -/
def decodeAttrs (wanted : Bool) (start : List UInt8) :
    (rounds : Nat) → DecodeState → (pos pduLen : Nat) → Read DecodeError (StunMsg × Nat)
  | 0, _, _, _ => .outside
  | rounds + 1, st, pos, pduLen =>
    if pduLen < 4 then
      -- stray trailing bytes
      if 0 < pduLen then .error ⟨.einstunmsglen, none⟩ else .value (st.msg, pos)
    else do
      let pdu := start.drop pos
      let attrType ← (field16 0).run pdu
      let attrLen ← (field16 2).run pdu
      let attrValLen := align4 attrLen.toNat
      if pduLen < attrValLen + 4 then
        refuse wanted st.msg .estuninattrlen 400
          (some (printed80 ("Attribute " ++ pjStunGetAttrName attrType ++ " has invalid length")))
      else do
        let st ← decodeOne wanted st attrType pdu
        if pduLen ≤ attrValLen + 4 then decodeAttrs wanted start rounds st (pos + pduLen) 0
        else
          decodeAttrs wanted start rounds st (pos + (attrValLen + 4)) (pduLen - (attrValLen + 4))

/-- The check of the packet: all of `pj_stun_msg_check`, or only its length. -/
def screenPdu (env : StunEnv) (pdu : List UInt8) (options : UInt32) : Read DecodeError Unit :=
  if hasOption options optCheckPacket then
    match pjStunMsgCheck env pdu options with
    | .outside => .outside
    | .error status => .error ⟨status, none⟩
    | .value () => .value ()
  else do
    let len ← (field16 2).run pdu
    if pdu.length < len.toNat + 20
        ∨ hasOption options optIsDatagram ∧ len.toNat + 20 ≠ pdu.length then
      .error ⟨.einstunmsglen, none⟩
    else return ()

/-- The header, in host order. -/
def decodeHdr : Reader ε MsgHdr := do
  let type ← field16 0
  let length ← field16 2
  let magic ← field32 4
  let tsxId ← octets 8 12
  return ⟨type, length, magic, tsxId⟩

/-- `pj_stun_msg_decode`: the message and the parsed length. `wantResponse` says whether the
caller has given a place for the response. -/
def pjStunMsgDecode (env : StunEnv) (pdu : List UInt8) (options : UInt32) (wantResponse : Bool) :
    Read DecodeError (StunMsg × Nat) :=
  if pdu.length = 0 then .error ⟨.einval, none⟩
  else do
    screenPdu env pdu options
    let hdr ← decodeHdr.run pdu
    let msg : StunMsg := { hdr, attrs := [], attrCount := Nat.zero_le _ }
    decodeAttrs (wantResponse && isRequest hdr.type) pdu (hdr.length.toNat + 1)
      { msg, hasMsgInt := false, hasFingerprint := false } 20 hdr.length.toNat

end Pjsip.Pjnath.Stun
