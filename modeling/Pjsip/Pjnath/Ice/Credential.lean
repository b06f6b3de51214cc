import Pjsip.Pjnath.Ice.Role
import Pjsip.Pjnath.Stun.Session

/-!
# The credentials of connectivity checks (`ice_session.c`)

The part of `pj_ice_sess_create_check_list` that comes before the pairing: it puts the user
names together in a buffer of its own, from the fragments of both sides. The callbacks that the
STUN sessions of the components ask for credentials give them out, and take them apart.
-/

namespace Pjsip.Pjnath.Ice

open Pjsip.Base Pjsip.Pjnath.Stun

/-- A letter, a digit, plus or slash. -/
def iceChar (c : UInt8) : Bool :=
  (0x41 ≤ c && c ≤ 0x5A) || (0x61 ≤ c && c ≤ 0x7A) || (0x30 ≤ c && c ≤ 0x39) || c = 0x2B
    || c = 0x2F

/-- A user name fragment or a password. -/
structure IceString where
  bytes : List UInt8
  nonempty : bytes ≠ []
  chars : bytes.all iceChar = true
  short : bytes.length ≤ 256

def IceString.text (s : IceString) : Text :=
  ⟨s.bytes, by
    have := s.short
    omega⟩

/-- The credentials in `pj_ice_sess`. What the peer has given is empty at first. -/
structure IceCred where
  rxUfrag : IceString
  rxPass : IceString
  txUfrag : Text := emptyText
  txPass : Text := emptyText
  txUname : Text := emptyText
  rxUname : Text := emptyText

/-! ## User names -/

/-- A `pj_str_t` and the buffer it points to. -/
structure BufStr where
  buf : Buffer
  slen : Nat

/-- `pj_strcpy` -/
def BufStr.strcpy (dst : BufStr) (src : List UInt8) : BufStr := ⟨dst.buf.store 0 src, src.length⟩

/-- `pj_strcat` -/
def BufStr.strcat (dst : BufStr) (src : List UInt8) : BufStr :=
  ⟨dst.buf.store dst.slen src, dst.slen + src.length⟩

/-- `sizeof(buf)` -/
def usernameSize : Nat := 128

/-- One user name, with a colon between the fragments. -/
def BufStr.username (dst : BufStr) (first second : IceString) : BufStr :=
  ((dst.strcpy first.bytes).strcat (octetsOf ":")).strcat second.bytes

/-- `pj_strdup` of a user name. -/
def usernameText (dst : BufStr) (first second : IceString) : Text :=
  ⟨(dst.username first second).buf.slice 0 (dst.username first second).slen, by
    have short := first.short
    have short' := second.short
    rw [Buffer.slice_length]
    show first.bytes.length + 1 + second.bytes.length + 16 ≤ 2 ^ 32
    omega⟩

namespace IceCred

/-- `pj_ice_sess_create_check_list`, up to the timer of the checklist: the session and the
buffer, which holds `cells` at first. -/
def createCheckList (ice : IceCred) (cells : Nat → UInt8) (remUfrag remPasswd : IceString) :
    IceCred × Buffer :=
  if ice.txUfrag.1.length ≠ 0 then (ice, ⟨cells, []⟩)
  else
    let username : BufStr := ⟨⟨cells, []⟩, 0⟩
    let tx := username.username remUfrag ice.rxUfrag
    ({ ice with
        txUname := usernameText username remUfrag ice.rxUfrag
        txUfrag := remUfrag.text
        txPass := remPasswd.text
        rxUname := usernameText tx ice.rxUfrag remUfrag },
      (tx.username ice.rxUfrag remUfrag).buf)

/-! ## What the STUN sessions ask for -/

/-- `stun_auth_get_auth` -/
def stunAuthGetAuth : Except StunStatus (Text × Text) := .ok (emptyText, emptyText)

/-- `stun_auth_get_cred` -/
def stunAuthGetCred (ice : IceCred) (msg : StunMsg) :
    Except StunStatus (Text × Text × Text × PasswdType × Text) :=
  if isResponse msg.hdr.type then
    .ok (emptyText, ice.rxUname, emptyText, .plain, ice.rxPass.text)
  else .ok (emptyText, ice.txUname, emptyText, .plain, ice.txPass)

/-- `stun_auth_get_password` -/
def stunAuthGetPassword (ice : IceCred) (msg : StunMsg) (_realm : Option Text)
    (username : Text) : Except StunStatus (PasswdType × Text) :=
  if isSuccessResponse msg.hdr.type || isErrorResponse msg.hdr.type then
    if username ≠ ice.txUname then .error (.stunCode 401) else .ok (.plain, ice.txPass)
  else
    let ufrag := username.1.takeWhile (· ≠ 0x3A)
    -- `pj_memchr` finds no colon
    if ufrag.length = username.1.length then .error (.stunCode 401)
    else if ufrag ≠ ice.rxUfrag.bytes then .error (.stunCode 401)
    else .ok (.plain, ice.rxPass.text)

def dynCred (ice : IceCred) : DynCred where
  getAuth := stunAuthGetAuth
  getPassword := ice.stunAuthGetPassword
  verifyNonce := none

/-- `init_comp`: the STUN session of a component, as it is created. -/
def initComp (ice : IceCred) (softwareName : Text) : StunSession where
  useFingerprint := true
  authType := .shortTerm
  cred := { cred := .dyn ice.dynCred, getCred := ice.stunAuthGetCred }
  srvName := softwareName
  onRxRequest := true

/-! ## Connectivity checks -/

/-- What is in a check. -/
structure CheckData where
  role : Role
  tieBreaker : UInt32 × UInt32
  prio : UInt32
  nominate : Bool
  tsxId : Octets 12

def priorityAttr (prio : UInt32) : Attr := ⟨0x0024, 4, .uint prio, rfl⟩

def useCandidateAttr : Attr := ⟨0x0025, 0, .empty, rfl⟩

def controllingAttr (tieBreaker : UInt32 × UInt32) : Attr :=
  ⟨0x802A, 8, .uint64 tieBreaker.1 tieBreaker.2, rfl⟩

def controlledAttr (tieBreaker : UInt32 × UInt32) : Attr :=
  ⟨0x8029, 8, .uint64 tieBreaker.1 tieBreaker.2, rfl⟩

/-- `pj_stun_msg_add_…_attr`, when the status is not looked at. -/
def tryAdd (attr : Attr) (msg : StunMsg) : StunMsg := (msg.addAttr attr).toOption.getD msg

/-- The attributes that `perform_check` adds to the request. -/
def checkMsg (check : CheckData) (msg : StunMsg) : StunMsg :=
  let msg := tryAdd (priorityAttr check.prio) msg
  if check.role = .controlling then
    tryAdd (controllingAttr check.tieBreaker)
      (if check.nominate then tryAdd useCandidateAttr msg else msg)
  else tryAdd (controlledAttr check.tieBreaker) msg

/-- The packet that `perform_check` hands to the transport through `pj_stun_session_send_msg`, in
memory that holds `cells` at first; the check list is in `Session.lean`. -/
def performCheck (env : StunEnv) (cells : Nat → UInt8) (sess : StunSession) (check : CheckData) :
    Except StunStatus (List UInt8) := do
  let tdata ← createReq env sess 0x0001 stunMagic check.tsxId 0
  let msg ← applyMsgOptions sess (some tdata.authInfo) (checkMsg check tdata.msg)
  match pjStunMsgEncode env msg cells 800 0 (some tdata.authInfo.authKey) with
  | .ok (_, len) e => .ok (e.mem.slice 0 len)
  | .error status _ => .error status

end IceCred

end Pjsip.Pjnath.Ice
