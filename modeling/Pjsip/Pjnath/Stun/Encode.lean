import Pjsip.Base.Buffer
import Pjsip.Pjnath.Stun.Decode

/-!
# Printing a message (`pj_stun_msg_encode`)

An encoder stores octets from where its attribute starts, and reports the size that it takes up, a
multiple of four: what it has not stored of that is what the memory held before. The caller counts
down what is left of the buffer by the size reported; `wrapped` records whether this ever goes below
zero.
-/

namespace Pjsip.Pjnath.Stun

open Pjsip.Base

/-! ## Encoders of the attributes -/

/-- What an encoder stores from the start of the attribute on, and `*printed`. -/
structure Emit where
  stored : List UInt8
  result : Except StunStatus Nat

/-- Unless `len` is below `need`, store the octets. -/
def Emit.unlessShort (len need : Nat) (stored : List UInt8) (printed : Nat) : Emit :=
  if len < need then ⟨[], .error .etoosmall⟩ else ⟨stored, .ok printed⟩

section Encoders

variable (type : UInt16) (len : Nat)

/-- The type is stored before the room is looked at. -/
def encodeSockaddrAttr (msghdr : MsgHdr) (xorEd : Bool) (addr : SockAddr) : Emit :=
  match if xorEd then addr.xored msghdr.tsxId else addr with
  | .inet port addr =>
    if len < 12 then ⟨put16 type, .error .etoosmall⟩
    else ⟨put16 type ++ (put16 8 ++ ([0, 1] ++ (put16 port ++ addr.1))), .ok 12⟩
  | .inet6 port addr =>
    if len < 24 then ⟨put16 type, .error .etoosmall⟩
    else ⟨put16 type ++ (put16 20 ++ ([0, 2] ++ (put16 port ++ addr.1))), .ok 24⟩
  | .unspec => ⟨put16 type, .error .einvaf⟩

/-- The length of a string: aligned for SOFTWARE, and where the peer may be an older one. -/
def stringLength (msghdr : MsgHdr) (slen : Nat) : UInt16 :=
  UInt16.ofNat (if msghdr.magic ≠ stunMagic ∨ type = attrSoftware then align4 slen else slen)

def encodeStringAttr (env : StunEnv) (msghdr : MsgHdr) (value : Text) : Emit :=
  let slen := value.1.length
  .unlessShort len (align4 (slen + 4)) (put16 type ++ (put16 (stringLength type msghdr slen)
      ++ (value.1 ++ List.replicate (align4 slen - slen) env.paddingChar)))
    (align4 (slen + 4))

def encodeEmptyAttr : Emit := .unlessShort len 4 (put16 type ++ put16 0) 4

def encodeUintAttr (value : UInt32) : Emit :=
  .unlessShort len 8 (put16 type ++ (put16 4 ++ put32 value)) 8

def encodeUint64Attr (hi lo : UInt32) : Emit :=
  .unlessShort len 12 (put16 type ++ (put16 8 ++ (put32 hi ++ put32 lo))) 12

def encodeMsgintAttr (length : UInt16) (hmac : Octets 20) : Emit :=
  .unlessShort len 24 (put16 type ++ (put16 length ++ hmac.1)) 24

/-- The room is compared with the size without padding. -/
def encodeErrcodeAttr (errCode : Int) (reason : Text) : Emit :=
  let slen := reason.1.length
  .unlessShort len (4 + 4 + slen) (put16 type ++ (put16 (UInt16.ofNat (4 + slen)) ++ (put16 0
      ++ ([UInt8.ofInt (errCode.tdiv 100), UInt8.ofInt (errCode.tmod 100)] ++ reason.1))))
    (align4 (4 + 4 + slen))

/-- The room is compared with the size without padding. -/
def encodeUnknownAttr (types : List UInt16) : Emit :=
  .unlessShort len (4 + types.length * 2)
    (put16 type ++ (put16 (UInt16.ofNat (types.length * 2)) ++ types.flatMap put16))
    (align4 (4 + types.length * 2))

def encodeBinaryAttr (data : Text) : Emit :=
  .unlessShort len (align4 (data.1.length + 4))
    (put16 type ++ (put16 (UInt16.ofNat data.1.length) ++ data.1))
    (align4 (data.1.length + 4))

end Encoders

/-- The encoder of the descriptor, and the one for an attribute that has none. -/
def Attr.encode (env : StunEnv) (msghdr : MsgHdr) (len : Nat) (a : Attr) : Emit :=
  match a.value with
  | .sockaddr xorEd addr => encodeSockaddrAttr a.type len msghdr xorEd addr
  | .empty => encodeEmptyAttr a.type len
  | .string value => encodeStringAttr a.type len env msghdr value
  | .uint value => encodeUintAttr a.type len value
  | .uint64 hi lo => encodeUint64Attr a.type len hi lo
  | .msgint hmac => encodeMsgintAttr a.type len a.length hmac
  | .errcode errCode reason => encodeErrcodeAttr a.type len errCode reason
  | .unknown types => encodeUnknownAttr a.type len types.1
  | .binary magic data =>
    if attrKind a.type = none ∧ magic ≠ stunMagic then ⟨[], .error .ebug⟩
    else encodeBinaryAttr a.type len data

/-! ## The state of the encoder -/

structure Enc where
  mem : Buffer
  /-- `buf - start` -/
  pos : Nat
  /-- `buf_size`, of 64 bits -/
  room : Nat
  /-- Whether `buf_size` has been counted down below zero. -/
  wrapped : Bool

abbrev EncodeM := EStateM StunStatus Enc

/-- `buf += printed, buf_size -= printed`, after the octets have been stored. -/
def Enc.advance (e : Enc) (stored : List UInt8) (printed : Nat) : Enc where
  mem := e.mem.store e.pos stored
  pos := e.pos + printed
  room := (e.room + 2 ^ 64 - printed) % 2 ^ 64
  wrapped := e.wrapped || e.room < printed

/-- What an encoder has done; with an error the caller returns. -/
def emit (out : Emit) : EncodeM Unit := fun e =>
  match out.result with
  | .error status => .error status { e with mem := e.mem.store e.pos out.stored }
  | .ok printed => .ok () (e.advance out.stored printed)

/-- `PUTVAL16H` at the length field of the header. -/
def Enc.patch (e : Enc) (length : UInt16) : Enc :=
  { e with mem := e.mem.store 2 (put16 length) }

def patchLength (length : UInt16) : EncodeM Unit := modify fun e => e.patch length

/-! ## Where MESSAGE-INTEGRITY and FINGERPRINT are -/

/-- The attributes at which the loop over the attributes stops. -/
def Attr.stops (a : Attr) : Bool :=
  a.type = attrMessageIntegrity || a.type = attrFingerprint

structure Protection where
  amsgint : Option Attr
  afingerprint : Option Attr

/-- The attribute the first loop has stopped at. -/
def stoppedAt : List Attr → Protection
  | [] => ⟨none, none⟩
  | a :: _ => if a.type = attrMessageIntegrity then ⟨some a, none⟩ else ⟨none, some a⟩

/-- The loop over the rest of the attributes. -/
def scanRest : List Attr → Protection → Except StunStatus Protection
  | [], found => .ok found
  | a :: rest, found =>
    if found.afingerprint.isSome then .error .estunfingerpos
    else if a.type = attrMessageIntegrity then
      if found.amsgint.isSome then .error .estunmsgintpos
      else scanRest rest { found with amsgint := some a }
    else if a.type = attrFingerprint then scanRest rest { found with afingerprint := some a }
    else scanRest rest found

/-- The test of the position of MESSAGE-INTEGRITY; `i` is the index after both loops. -/
def checkLast (attrs : List Attr) (i : Nat) (found : Protection) : Except StunStatus Protection :=
  let last2 := (attrs.length + 2 ^ 32 - 2) % 2 ^ 32
  if 1 < attrs.length ∧ i < last2 then .error .estunmsgintpos
  else if i = last2 then
    match attrs[i + 1]? with
    | some a =>
      if a.type ≠ attrFingerprint then .error .estunmsgintpos
      else .ok { found with afingerprint := some a }
    | none => .error .estunmsgintpos
  else .ok found

/-! ## The message -/

theorem suits_msgint (length : UInt16) (kind : Option AttrKind) (hmac hmac' : Octets 20) :
    (AttrValue.msgint hmac).suits length kind = (AttrValue.msgint hmac').suits length kind := by
  rcases kind with _ | kind
  · rfl
  · cases kind <;> rfl

theorem suits_uint (length : UInt16) (kind : Option AttrKind) (v v' : UInt32) :
    (AttrValue.uint v).suits length kind = (AttrValue.uint v').suits length kind := by
  rcases kind with _ | kind
  · rfl
  · cases kind <;> rfl

/-- The value of a MESSAGE-INTEGRITY or FINGERPRINT attribute is computed and kept in it. -/
def Attr.sealed (hmac : Option (Octets 20)) (crc : Option UInt32) : Attr → Attr
  | ⟨type, length, .msgint old, suits⟩ =>
    ⟨type, length, .msgint (if type = attrMessageIntegrity then hmac.getD old else old),
      suits_msgint length _ _ old ▸ suits⟩
  | ⟨type, length, .uint old, suits⟩ =>
    ⟨type, length, .uint (if type = attrFingerprint then crc.getD old else old),
      suits_uint length _ _ old ▸ suits⟩
  | a => a

def StunMsg.sealed (msg : StunMsg) (hmac : Option (Octets 20)) (crc : Option UInt32)
    (length : UInt16) : StunMsg where
  hdr := { msg.hdr with length }
  attrs := msg.attrs.map (Attr.sealed hmac crc)
  attrCount := by simpa using msg.attrCount

def liftStatus {α : Type} : Except StunStatus α → EncodeM α
  | .ok a => fun e => .ok a e
  | .error status => fun e => .error status e

section Encode

variable (env : StunEnv)

/-- The octets of the header, with this length in it. -/
def hdrOctets (hdr : MsgHdr) (length : UInt16) : List UInt8 :=
  put16 hdr.type ++ (put16 length ++ (put32 hdr.magic ++ hdr.tsxId.1))

/-- The loop over the attributes; what is left of them when it stops. -/
def encodeAttrs (msghdr : MsgHdr) : List Attr → EncodeM (List Attr)
  | [] => pure []
  | a :: rest =>
    if a.stops then pure (a :: rest)
    else do
      let e ← get
      emit (a.encode env msghdr (e.room % 2 ^ 32))
      encodeAttrs msghdr rest

/-- MESSAGE-INTEGRITY, over all that has been printed so far. -/
def printMsgint (key : List UInt8) (a : Attr) : EncodeM (Octets 20) := do
  let e ← get
  let hmac := env.hmacSha1 key (e.mem.slice 0 e.pos)
  emit (encodeMsgintAttr a.type (e.room % 2 ^ 32) a.length hmac)
  return hmac

/-- FINGERPRINT, over all that has been printed so far, with itself in the length. -/
def printFingerprint (a : Attr) : EncodeM UInt32 := do
  let e ← get
  patchLength (value16 (e.mem.slice 2 2) + 8)
  let e ← get
  let crc := env.crc32 (e.mem.slice 0 e.pos) ^^^ xorFingerprint
  emit (encodeUintAttr a.type (e.room % 2 ^ 32) crc)
  return crc

/-- MESSAGE-INTEGRITY if there is one; where FINGERPRINT is may be learnt here. -/
def printIntegrity (attrs : List Attr) (i : Nat) (key : Option (List UInt8)) (found : Protection) :
    EncodeM (Option (Octets 20) × Protection) :=
  match found.amsgint with
  | none => pure (none, found)
  | some a =>
    match key with
    | none => throw .einvalidop
    | some key => do
        let found ← liftStatus (checkLast attrs i found)
        let hmac ← printMsgint env key a
        return (some hmac, found)

def printChecksum (found : Protection) : EncodeM (Option UInt32) :=
  match found.afingerprint with
  | none => pure none
  | some a => do
      let crc ← printFingerprint env a
      return some crc

/-- What comes after the header. -/
def encodeBody (msg : StunMsg) (key : Option (List UInt8)) : EncodeM (StunMsg × Nat) := do
  let rest ← encodeAttrs env msg.hdr msg.attrs
  let found ← liftStatus (scanRest rest.tail (stoppedAt rest))
  let e ← get
  patchLength (UInt16.ofNat (e.pos - 20 + if found.amsgint.isSome then 24 else 0))
  let stop := msg.attrs.length - rest.length
  let (hmac, found) ←
    printIntegrity env msg.attrs (max (stop + 1) msg.attrs.length) key found
  let crc ← printChecksum env found
  let e ← get
  return (msg.sealed hmac crc (UInt16.ofNat (e.pos - 20)), e.pos)

/-- `pj_stun_msg_encode`: the message as it is afterwards, and `*p_msg_len`. -/
def pjStunMsgEncode (msg : StunMsg) (cells : Nat → UInt8) (bufSize : UInt64) (options : UInt32)
    (key : Option (List UInt8)) : EStateM.Result StunStatus Enc (StunMsg × Nat) :=
  let start : Enc := ⟨⟨cells, []⟩, 0, bufSize.toNat, false⟩
  if bufSize = 0 ∨ options ≠ 0 then .error .einval start
  else if bufSize.toNat < 20 then .error .etoosmall start
  else (emit ⟨hdrOctets msg.hdr 0, .ok 20⟩ >>= fun _ => encodeBody env msg key).run start

end Encode

end Pjsip.Pjnath.Stun
