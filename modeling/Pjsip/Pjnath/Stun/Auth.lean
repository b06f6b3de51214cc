import Pjsip.Pjnath.Stun.Msg

/-!
# Authentication (`stun_auth.c`)

`pj_stun_authenticate_request` goes through its checks one after the other; a check that
fails says which response is to be made at `on_auth_failed`. The callbacks of a dynamic
credential are functions of what they are given.
-/

namespace Pjsip.Pjnath.Stun

open Pjsip.Base

/-- `pj_stun_passwd_type` -/
inductive PasswdType where
  | plain | hashed
  deriving DecidableEq

structure StaticCred where
  realm : Text
  username : Text
  dataType : PasswdType
  data : Text
  nonce : Text

structure DynCred where
  /-- The realm and the nonce. -/
  getAuth : Except StunStatus (Text × Text)
  getPassword : StunMsg → (realm : Option Text) → (username : Text) →
    Except StunStatus (PasswdType × Text)
  verifyNonce : Option (StunMsg → (realm : Option Text) → (username nonce : Text) → Bool)

/-- `pj_stun_auth_cred` -/
inductive AuthCred where
  | static (cred : StaticCred)
  | dyn (cred : DynCred)

/-- `pj_stun_req_cred_info` -/
structure ReqCredInfo where
  realm : Text
  nonce : Text
  username : Text
  authKey : List UInt8

/-! ## Keys -/

def emptyText : Text := ⟨[], by decide⟩

/-- `REMOVE_QUOTE`: a quote at the start, and one at the end of what is left. -/
def removeQuote (s : List UInt8) : List UInt8 :=
  let s := if s.head? = some 0x22 then s.tail else s
  if s.getLast? = some 0x22 then s.dropLast else s

def calcMd5Key (env : StunEnv) (realm username passwd : List UInt8) : Octets 16 :=
  env.md5 (removeQuote username ++ octetsOf ":" ++ removeQuote realm ++ octetsOf ":" ++ passwd)

/-- `pj_stun_create_key`. Of an empty password or hash there is no copy: `key->ptr` is null. -/
def pjStunCreateKey (env : StunEnv) (realm : Option Text) (username : Text)
    (dataType : PasswdType) (data : Text) : List UInt8 :=
  match realm with
  | none => data.1
  | some realm =>
    if realm.1 ≠ [] ∧ dataType = .plain then (calcMd5Key env realm.1 username.1 data.1).1
    else data.1

/-! ## Comparing strings -/

/-- `tolower` of an octet, in the C locale. -/
def lowerOctet (c : UInt8) : UInt8 := if 0x41 ≤ c ∧ c ≤ 0x5A then c + 0x20 else c

/-- Whether `strncasecmp` finds no difference as far as the shorter string goes; it does not
look behind a zero. -/
def sameNoCase : List UInt8 → List UInt8 → Bool
  | a :: as, b :: bs => lowerOctet a = lowerOctet b && (a = 0 || sameNoCase as bs)
  | _, _ => true

/-- Whether `pj_stricmp` is 0. -/
def stricmpEq (str1 str2 : Text) : Bool :=
  str1.1.length = str2.1.length && sameNoCase str1.1 str2.1

/-! ## What is in the message -/

/-- The value of a string attribute. -/
def Attr.text (a : Attr) : Option Text :=
  match a.value with
  | .string value => some value
  | _ => none

/-- The value of the first string attribute of this type. -/
def StunMsg.findText (msg : StunMsg) (attrType : UInt16) : Option Text :=
  (msg.findAttr attrType).bind Attr.text

/-- What the loop that looks for MESSAGE-INTEGRITY keeps. -/
structure Sighting where
  amsgi : Option Attr
  amsgiPos : Nat
  hasAttrBeyondMi : Bool

def lookForMsgint : List Attr → Sighting → Sighting
  | [], found => found
  | a :: rest, found =>
    if a.type = attrMessageIntegrity then lookForMsgint rest { found with amsgi := some a }
    else if found.amsgi.isSome then { found with hasAttrBeyondMi := true }
    else
      lookForMsgint rest { found with amsgiPos := found.amsgiPos + (align4 a.length.toNat + 4) }

def StunMsg.msgint (msg : StunMsg) : Sighting := lookForMsgint msg.attrs ⟨none, 0, false⟩

/-- The octets that the digest is over: the length in the header is as if nothing came after
MESSAGE-INTEGRITY. -/
def Sighting.covered (found : Sighting) (pkt : List UInt8) : List UInt8 :=
  (if found.hasAttrBeyondMi then
      pkt.take 2 ++ (put16 (UInt16.ofNat (found.amsgiPos + 24)) ++ (pkt.take 20).drop 4)
    else pkt.take 20)
  ++ (pkt.drop 20).take found.amsgiPos

/-! ## Requests -/

/-- `err_code` and `err_text` at `on_auth_failed`. -/
structure AuthFailure where
  errCode : Nat
  errText : Option String

/-- What the status, `p_info` and `*p_response` are in the end. -/
structure AuthResult where
  status : Except StunStatus Unit
  info : ReqCredInfo
  response : Option StunMsg

def createChallenge (msg : StunMsg) (failure : AuthFailure) (realm nonce : Text) :
    Except StunStatus StunMsg := do
  let response ← createErrorResponse msg failure.errCode (failure.errText.map printed80)
  if failure.errCode = 400 then return response
  else if realm.1 ≠ [] then
    let response ← response.addAttr (stringAttr attrRealm realm attrKind_realm)
    -- long term must include nonce
    let nonce := if nonce.1 = [] then printed80 "pjstun" else nonce
    response.addAttr (stringAttr attrNonce nonce attrKind_nonce)
  else if nonce.1 ≠ [] then response.addAttr (stringAttr attrNonce nonce attrKind_nonce)
  else return response

def authFailed (wantResponse : Bool) (msg : StunMsg) (info : ReqCredInfo) (failure : AuthFailure) :
    AuthResult where
  status := .error (.stunCode failure.errCode)
  info := info
  response :=
    if wantResponse && isRequest msg.hdr.type then
      (createChallenge msg failure info.realm info.nonce).toOption
    else none

/-- The attributes that the request is checked by. -/
structure Presented where
  amsgi : Attr
  user : Text
  arealm : Option Text

def findPresented (msg : StunMsg) (realm : Text) : Except AuthFailure Presented :=
  match msg.msgint.amsgi with
  | none => .error ⟨if realm.1 ≠ [] then 401 else 400, none⟩
  | some amsgi =>
    match msg.findText attrUsername with
    | none => .error ⟨400, some "Missing USERNAME"⟩
    | some user =>
      let arealm := msg.findText attrRealm
      if realm.1 ≠ [] ∧ arealm = none then .error ⟨400, some "Missing REALM"⟩
      else .ok ⟨amsgi, user, arealm⟩

/-- The username and the key, if the username is right. -/
def matchUsername (env : StunEnv) (msg : StunMsg) (cred : AuthCred) (realm : Text)
    (asked : Presented) : Except AuthFailure (Text × List UInt8) :=
  match cred with
  | .static cred =>
    if asked.user = cred.username then
      .ok (cred.username, pjStunCreateKey env (some realm) asked.user cred.dataType cred.data)
    else .error ⟨401, none⟩
  | .dyn cred =>
    match cred.getPassword msg asked.arealm asked.user with
    | .ok (dataType, password) =>
      .ok (asked.user, pjStunCreateKey env asked.arealm asked.user dataType password)
    | .error _ => .error ⟨401, none⟩

/-- Long term or short term. -/
def checkTerm (realm nonce : Text) (arealm anonce : Option Text) : Except AuthFailure Unit :=
  match arealm with
  | none =>
    if realm.1 ≠ [] then .error ⟨400, some "Missing REALM"⟩
    -- whether the request has a NONCE is not looked at here
    else if nonce.1 ≠ [] then .error ⟨401, some "NONCE required"⟩
    else .ok ()
  | some arealm =>
    if realm.1 ≠ [] then
      if anonce = none ∧ nonce.1 ≠ [] then .error ⟨400, some "Missing NONCE"⟩
      else if ¬ stricmpEq arealm realm then .error ⟨401, some "Invalid REALM"⟩
      else .ok ()
    else .ok ()

def nonceOk (msg : StunMsg) (cred : AuthCred) (asked : Presented) (nonce anonce : Text) : Bool :=
  match cred with
  | .static _ => if nonce.1 ≠ [] then anonce = nonce else true
  | .dyn cred =>
    match cred.verifyNonce with
    | some verify => verify msg asked.arealm asked.user anonce
    | none => true

def checkNonce (msg : StunMsg) (cred : AuthCred) (asked : Presented) (nonce : Text)
    (anonce : Option Text) : Except AuthFailure Unit :=
  match anonce with
  | none => .ok ()
  | some anonce => if nonceOk msg cred asked nonce anonce then .ok () else .error ⟨438, none⟩

def checkHmac (env : StunEnv) (pkt : List UInt8) (msg : StunMsg) (amsgi : Attr)
    (key : List UInt8) : Except AuthFailure Unit :=
  if amsgi.value = .msgint (env.hmacSha1 key (msg.msgint.covered pkt)) then .ok ()
  else .error ⟨401, some "MESSAGE-INTEGRITY mismatch"⟩

/-- The checks once there is a key. -/
def verifyPresented (env : StunEnv) (pkt : List UInt8) (msg : StunMsg) (cred : AuthCred)
    (realm nonce : Text) (asked : Presented) (key : List UInt8) : Except AuthFailure Unit := do
  let anonce := msg.findText attrNonce
  checkTerm realm nonce asked.arealm anonce
  checkNonce msg cred asked nonce anonce
  checkHmac env pkt msg asked.amsgi key

/-- The realm and the nonce of the credential. -/
def AuthCred.getAuth : AuthCred → Except StunStatus (Text × Text)
  | .static cred => .ok (cred.realm, cred.nonce)
  | .dyn cred => cred.getAuth

def pjStunAuthenticateRequest (env : StunEnv) (pkt : List UInt8) (msg : StunMsg)
    (cred : AuthCred) (wantResponse : Bool) : AuthResult :=
  if pkt.length = 0 then ⟨.error .einval, ⟨emptyText, emptyText, emptyText, []⟩, none⟩
  else
    match cred.getAuth with
    | .error status => ⟨.error status, ⟨emptyText, emptyText, emptyText, []⟩, none⟩
    | .ok (realm, nonce) =>
      let info : ReqCredInfo := ⟨realm, nonce, emptyText, []⟩
      match findPresented msg realm with
      | .error failure => authFailed wantResponse msg info failure
      | .ok asked =>
        match matchUsername env msg cred realm asked with
        | .error failure => authFailed wantResponse msg info failure
        | .ok (username, authKey) =>
          let info := { info with username, authKey }
          -- `PJ_ASSERT_RETURN(p_info->auth_key.ptr, PJ_EBUG)`
          if authKey = [] then ⟨.error .ebug, info, none⟩
          else
            match verifyPresented env pkt msg cred realm nonce asked authKey with
            | .error failure => authFailed wantResponse msg info failure
            | .ok () => ⟨.ok (), info, none⟩

/-! ## Responses -/

def pjStunAuthenticateResponse (env : StunEnv) (pkt : List UInt8) (msg : StunMsg)
    (key : List UInt8) : Except StunStatus Unit :=
  if pkt.length = 0 then .error .einval
  else if msg.findAttr attrMessageIntegrity = none then .error (.stunCode 401)
  else if msg.hdr.length < 24 then .error .einstunmsglen
  else
    match msg.msgint.amsgi with
    | none => .error (.stunCode 400)
    | some amsgi =>
      if amsgi.value = .msgint (env.hmacSha1 key (msg.msgint.covered pkt)) then .ok ()
      else .error (.stunCode 401)

end Pjsip.Pjnath.Stun
