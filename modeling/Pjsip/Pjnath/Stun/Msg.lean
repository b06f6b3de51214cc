import Pjsip.Base.Octets
import Pjsip.Errno

/-!
# STUN messages (`stun_msg.h`)

A message is a header and at most `PJ_STUN_MAX_ATTR` attributes. In C an attribute is a
pointer to its header, and the type in it says which structure it points into; here the
structure is a constructor of `AttrValue`, and an attribute carries the fact that its
type calls for this one. Pools and logging are left out.
-/

namespace Pjsip.Pjnath.Stun

open Pjsip.Base

/-- `PJ_STUN_MAGIC` -/
def stunMagic : UInt32 := 0x2112A442

/-- `PJ_STUN_MAX_ATTR` -/
def stunMaxAttr : Nat := 16

/-- The types (`PJ_STUN_ATTR_…`) that some function singles out. -/
def attrUsername : UInt16 := 0x0006
def attrMessageIntegrity : UInt16 := 0x0008
def attrErrorCode : UInt16 := 0x0009
def attrUnknownAttributes : UInt16 := 0x000A
def attrRealm : UInt16 := 0x0014
def attrNonce : UInt16 := 0x0015
def attrSoftware : UInt16 := 0x8022
def attrFingerprint : UInt16 := 0x8028

/-- The pair of functions that reads and writes an attribute. -/
inductive AttrKind where
  | sockaddr | xoredSockaddr | string | msgint | errcode | unknown | uint | uint64 | binary
  | empty
  deriving DecidableEq, Repr

structure AttrDesc where
  name : String
  kind : AttrKind

/-- The attributes from type 0 on; some types are not assigned. -/
def mandatoryAttrDesc : List (Option AttrDesc) :=
  [none, some ⟨"MAPPED-ADDRESS", .sockaddr⟩, some ⟨"RESPONSE-ADDRESS", .sockaddr⟩,
    some ⟨"CHANGE-REQUEST", .uint⟩, some ⟨"SOURCE-ADDRESS", .sockaddr⟩,
    some ⟨"CHANGED-ADDRESS", .sockaddr⟩, some ⟨"USERNAME", .string⟩, some ⟨"PASSWORD", .string⟩,
    some ⟨"MESSAGE-INTEGRITY", .msgint⟩, some ⟨"ERROR-CODE", .errcode⟩,
    some ⟨"UNKNOWN-ATTRIBUTES", .unknown⟩, some ⟨"REFLECTED-FROM", .sockaddr⟩,
    some ⟨"CHANNEL-NUMBER", .uint⟩, some ⟨"LIFETIME", .uint⟩, none,
    some ⟨"MAGIC-COOKIE", .uint⟩, some ⟨"BANDWIDTH", .uint⟩, none,
    some ⟨"XOR-PEER-ADDRESS", .xoredSockaddr⟩, some ⟨"DATA", .binary⟩, some ⟨"REALM", .string⟩,
    some ⟨"NONCE", .string⟩, some ⟨"XOR-RELAYED-ADDRESS", .xoredSockaddr⟩,
    some ⟨"REQUESTED-ADDRESS-FAMILY", .uint⟩, some ⟨"EVEN-PORT", .uint⟩,
    some ⟨"REQUESTED-TRANSPORT", .uint⟩, some ⟨"DONT-FRAGMENT", .empty⟩,
    none, none, none, none, none,
    some ⟨"XOR-MAPPED-ADDRESS", .xoredSockaddr⟩, some ⟨"TIMER-VAL", .uint⟩,
    some ⟨"RESERVATION-TOKEN", .uint64⟩, some ⟨"XOR-REFLECTED-FROM", .xoredSockaddr⟩,
    some ⟨"PRIORITY", .uint⟩, some ⟨"USE-CANDIDATE", .empty⟩,
    none, none, none, none, some ⟨"CONNECTION-ID", .uint⟩,
    none, none, none, none, none, some ⟨"ICMP", .uint⟩]

/-- The attributes from type 0x8021 on. -/
def extendedAttrDesc : List (Option AttrDesc) :=
  [none, some ⟨"SOFTWARE", .string⟩, some ⟨"ALTERNATE-SERVER", .sockaddr⟩,
    some ⟨"REFRESH-INTERVAL", .uint⟩, none, none, none, some ⟨"FINGERPRINT", .uint⟩,
    some ⟨"ICE-CONTROLLED", .uint64⟩, some ⟨"ICE-CONTROLLING", .uint64⟩]

def findAttrDesc (attrType : UInt16) : Option AttrDesc :=
  if attrType.toNat < 0x31 then (mandatoryAttrDesc[attrType.toNat]?).join
  else if 0x8021 ≤ attrType.toNat ∧ attrType.toNat < 0x802B then
    (extendedAttrDesc[attrType.toNat - 0x8021]?).join
  else none

def attrKind (attrType : UInt16) : Option AttrKind := (findAttrDesc attrType).map (·.kind)

def pjStunGetAttrName (attrType : UInt16) : String :=
  match findAttrDesc attrType with
  | some desc => desc.name
  | none => "???"

/-! ## Attributes -/

/-- A string or data of less than 4 GiB, whose size with header and padding is an `unsigned`. -/
abbrev Text := { bytes : List UInt8 // bytes.length + 16 ≤ 2 ^ 32 }

/-- An address; `unspec` is any other address family. -/
inductive SockAddr where
  | inet (port : UInt16) (addr : Octets 4)
  | inet6 (port : UInt16) (addr : Octets 16)
  | unspec
  deriving DecidableEq

/-- What an attribute holds behind its header. -/
inductive AttrValue where
  | sockaddr (xorEd : Bool) (addr : SockAddr)
  | empty
  | string (value : Text)
  | uint (value : UInt32)
  | uint64 (hi lo : UInt32)
  | msgint (hmac : Octets 20)
  | errcode (errCode : Int) (reason : Text)
  | unknown (attrs : { types : List UInt16 // types.length ≤ stunMaxAttr })
  | binary (magic : UInt32) (data : Text)
  deriving DecidableEq

/-- Whether an attribute with this descriptor is this structure; one without a descriptor is
kept as binary data. The length of MESSAGE-INTEGRITY is always that of its digest. -/
def AttrValue.suits (length : UInt16) : Option AttrKind → AttrValue → Bool
  | some .sockaddr, .sockaddr .. => true
  | some .xoredSockaddr, .sockaddr .. => true
  | some .string, .string _ => true
  | some .msgint, .msgint _ => length = 20
  | some .errcode, .errcode .. => true
  | some .unknown, .unknown _ => true
  | some .uint, .uint _ => true
  | some .uint64, .uint64 .. => true
  | some .binary, .binary .. => true
  | some .empty, .empty => true
  | none, .binary .. => true
  | _, _ => false

structure Attr where
  type : UInt16
  length : UInt16
  value : AttrValue
  suits : value.suits length (attrKind type) = true
  deriving DecidableEq

/-- `pj_stun_msg_hdr` -/
structure MsgHdr where
  type : UInt16
  length : UInt16
  magic : UInt32
  tsxId : Octets 12
  deriving DecidableEq

/-- `pj_stun_msg` -/
structure StunMsg where
  hdr : MsgHdr
  attrs : List Attr
  attrCount : attrs.length ≤ stunMaxAttr
  deriving DecidableEq

/-- The functions of pjlib-util that a message is protected with, and `padding_char`. -/
structure StunEnv where
  hmacSha1 : (key text : List UInt8) → Octets 20
  md5 : List UInt8 → Octets 16
  crc32 : List UInt8 → UInt32
  paddingChar : UInt8

/-- The digests as they are for one message, whatever they are for others. -/
def StunEnv.constant (hmac : Octets 20) (crc : UInt32) : StunEnv where
  hmacSha1 _ _ := hmac
  md5 _ := .fill 16 0
  crc32 _ := crc
  paddingChar := 0

def isRequest (msgType : UInt16) : Bool := msgType &&& 0x0110 == 0x0000

/-- `pj_stun_msg_find_attr`, from index 0 -/
def StunMsg.findAttr (msg : StunMsg) (attrType : UInt16) : Option Attr :=
  msg.attrs.find? (·.type = attrType)

/-! ## Error responses -/

def octetsOf (s : String) : List UInt8 := s.toList.map fun c => UInt8.ofNat c.toNat

/-- A text printed into a buffer of 80 octets, with the zero at its end. -/
def printed80 (s : String) : Text :=
  ⟨(octetsOf s).take 79, by
    have := List.length_take_le 79 (octetsOf s)
    omega⟩

def stunErrMsgMap : List (Nat × String) :=
  [(300, "Try Alternate"), (400, "Bad Request"), (401, "Unauthorized"), (403, "Forbidden"),
    (420, "Unknown Attribute"), (437, "Allocation Mismatch"), (438, "Stale Nonce"),
    (439, "Active Destination Already Set"), (441, "Wrong Credentials"),
    (442, "Unsupported Transport Protocol"), (445, "Operation for TCP Only"),
    (446, "Connection Failure"), (447, "Connection Timeout"), (486, "Allocation Quota Reached"),
    (487, "Role Conflict"), (500, "Server Error"), (508, "Insufficient Capacity"),
    (600, "Global Failure")]

/-- The binary search of `pj_stun_get_err_reason`: where in the table it ends. -/
def errReasonIndex (errCode : Nat) : (rounds first n : Nat) → Nat
  | 0, first, _ => first
  | rounds + 1, first, n =>
    if n = 0 then first
    else
      match stunErrMsgMap[first + n / 2]? with
      | none => first
      | some (code, _) =>
        if code < errCode then
          errReasonIndex errCode rounds (first + n / 2 + 1) (n - (n / 2 + 1))
        else if errCode < code then errReasonIndex errCode rounds first (n / 2)
        else first + n / 2

/-- The reason phrase of an error code that has one. -/
def pjStunGetErrReason (errCode : Nat) : Option String :=
  match stunErrMsgMap[errReasonIndex errCode stunErrMsgMap.length 0 stunErrMsgMap.length]? with
  | some (code, reason) => if code = errCode then some reason else none
  | none => none

/-- The reason of an ERROR-CODE attribute for which none is given. -/
def defaultReason (errCode : Nat) : Text :=
  match pjStunGetErrReason errCode with
  | some reason => printed80 reason
  | none => printed80 ("Unknown error " ++ toString errCode)

/-- `pj_stun_errcode_attr_create` -/
def errcodeAttr (errCode : Nat) (errReason : Option Text) : Attr :=
  let reason := errReason.getD (defaultReason errCode)
  { type := attrErrorCode
    length := UInt16.ofNat (4 + reason.1.length)
    value := .errcode errCode reason
    suits := rfl }

/-- `pj_stun_unknown_attr_create`, for one type -/
def unknownAttr (attrType : UInt16) : Attr where
  type := attrUnknownAttributes
  length := 2
  value := .unknown ⟨[attrType], by simp [stunMaxAttr]⟩
  suits := rfl

/-- `pj_stun_string_attr_create` -/
def stringAttr (attrType : UInt16) (value : Text) (isString : attrKind attrType = some .string) :
    Attr where
  type := attrType
  length := UInt16.ofNat value.1.length
  value := .string value
  suits := by rw [isString]; rfl

/-- `pj_stun_msg_add_msgint_attr`; the digest comes when the message is encoded. -/
def msgintAttr : Attr where
  type := attrMessageIntegrity
  length := 20
  value := .msgint (.fill 20 0)
  suits := rfl

/-- `pj_stun_uint_attr_create` for a CRC that is yet to be calculated -/
def fingerprintAttr : Attr where
  type := attrFingerprint
  length := 4
  value := .uint 0
  suits := rfl

theorem attrKind_username : attrKind attrUsername = some .string := rfl

theorem attrKind_realm : attrKind attrRealm = some .string := rfl

theorem attrKind_nonce : attrKind attrNonce = some .string := rfl

theorem attrKind_software : attrKind attrSoftware = some .string := rfl

theorem length_concat_le {attrs : List Attr} (attr : Attr) (room : attrs.length < stunMaxAttr) :
    (attrs ++ [attr]).length ≤ stunMaxAttr := by
  rw [List.length_append]
  exact room

def StunMsg.addAttr (msg : StunMsg) (attr : Attr) : Except StunStatus StunMsg :=
  if room : msg.attrs.length < stunMaxAttr then
    .ok { msg with attrs := msg.attrs ++ [attr], attrCount := length_concat_le attr room }
  else .error .etoomany

/-- `pj_stun_msg_create_response`, for an error -/
def createErrorResponse (req : StunMsg) (errCode : Nat) (errMsg : Option Text) :
    Except StunStatus StunMsg :=
  if isRequest req.hdr.type then
    StunMsg.addAttr
      { hdr :=
          { type := req.hdr.type ||| 0x0110
            length := 0
            magic := req.hdr.magic
            tsxId := req.hdr.tsxId }
        attrs := []
        attrCount := Nat.zero_le _ }
      (errcodeAttr errCode errMsg)
  else .error .einstunmsgtype

end Pjsip.Pjnath.Stun
