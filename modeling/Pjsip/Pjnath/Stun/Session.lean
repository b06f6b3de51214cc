import Mathlib.Data.List.DropRight
import Pjsip.Base.Run
import Pjsip.Pjnath.Stun.Auth
import Pjsip.Pjnath.Stun.Encode

/-!
# STUN sessions (`stun_session.c`, `stun_transaction.c`)

A session keeps the requests that wait for a response, each with its client transaction, and the
responses that are kept for retransmitted requests. A timer is scheduled or not; when it expires is
up to the run. What a call reports or sends is in its list of events; what the application does in a
callback comes after the call.
-/

namespace Pjsip.Pjnath.Stun

open Pjsip.Base

/-! ## Message classes -/

/-- `PJ_STUN_IS_SUCCESS_RESPONSE` -/
def isSuccessResponse (msgType : UInt16) : Bool := msgType &&& 0x0110 == 0x0100

/-- `PJ_STUN_IS_ERROR_RESPONSE` -/
def isErrorResponse (msgType : UInt16) : Bool := msgType &&& 0x0110 == 0x0110

/-- `PJ_STUN_IS_RESPONSE` -/
def isResponse (msgType : UInt16) : Bool := msgType &&& 0x0100 == 0x0100

/-- `PJ_STUN_IS_INDICATION` -/
def isIndication (msgType : UInt16) : Bool := msgType &&& 0x0110 == 0x0010

/-- `PJ_STUN_GET_METHOD` -/
def methodOf (msgType : UInt16) : UInt16 := msgType &&& 0xFEEF

/-- The code of the ERROR-CODE attribute. -/
def StunMsg.errCode (msg : StunMsg) : Option Int :=
  (msg.findAttr attrErrorCode).bind fun attr =>
    match attr.value with
    | .errcode code _ => some code
    | _ => none

/-- `pj_stun_auth_valid_for_msg` -/
def authValidForMsg (msg : StunMsg) : Bool :=
  if !isErrorResponse msg.hdr.type && !isIndication msg.hdr.type then true
  else if isIndication msg.hdr.type then false
  else
    match msg.errCode with
    | none => true
    | some code => !(code = 400 || code = 401 || code = 438 || code = 420)

/-- `pj_stun_msg_create` -/
def createMsg (msgType : UInt16) (magic : UInt32) (tsxId : Octets 12) : StunMsg where
  hdr := { type := msgType, length := 0, magic, tsxId }
  attrs := []
  attrCount := Nat.zero_le _

/-- `pj_stun_msg_create_response` -/
def createResponse (req : StunMsg) (errCode : Nat) (errMsg : Option Text) :
    Except StunStatus StunMsg :=
  if errCode ≠ 0 then createErrorResponse req errCode errMsg
  else if isRequest req.hdr.type then
    .ok (createMsg (req.hdr.type ||| 0x0100) req.hdr.magic req.hdr.tsxId)
  else .error .einstunmsgtype

/-! ## The session -/

/-- `pj_stun_auth_type` -/
inductive AuthType where
  | none | shortTerm | longTerm
  deriving DecidableEq

/-- The credential of a session, with the callback that a dynamic one asks for the realm, the
user name, the nonce and the password of a request. -/
structure SessCred where
  cred : AuthCred
  getCred : StunMsg → Except StunStatus (Text × Text × Text × PasswdType × Text)

/-- `pj_stun_client_tsx` -/
structure ClientTsx where
  complete : Bool
  requireRetransmit : Bool
  transmitCount : Nat
  /-- The retransmission timer is scheduled. -/
  retransmitTimer : Bool
  destroyTimer : Bool
  isDestroying : Bool
  /-- `cb.on_complete` is set. -/
  notifies : Bool
  deriving DecidableEq

/-- `pj_stun_tx_data` -/
structure TxData where
  /-- Its address. -/
  handle : Nat
  /-- The request it is sent for: itself, or the one that it retries. -/
  request : Nat
  msg : StunMsg
  token : Nat
  retransmit : Bool
  msgMagic : UInt32
  msgKey : Octets 12
  authInfo : ReqCredInfo
  clientTsx : Option ClientTsx
  /-- The timer of a cached response is scheduled. -/
  resTimer : Bool

/-- `pj_stun_session` -/
structure StunSession where
  isDestroying : Bool := false
  useFingerprint : Bool
  authType : AuthType
  cred : SessCred
  authRetry : Nat := 0
  nextNonce : Text := emptyText
  serverRealm : Text := emptyText
  srvName : Text
  /-- `cb.on_rx_request` is set. -/
  onRxRequest : Bool
  pending : List TxData := []
  cached : List TxData := []
  /-- The address of the next `pj_stun_tx_data`. -/
  next : Nat := 0

/-- What a callback to send a packet returns. -/
inductive SendResult where
  | success | pending | busy
  | failed (status : StunStatus)
  deriving DecidableEq

/-- The status of a request that is complete. -/
inductive ReqStatus where
  | success | timedOut | busy
  | failed (status : StunStatus)
  deriving DecidableEq

/-- The status of a message that is sent without a transaction. -/
def SendResult.direct : SendResult → ReqStatus
  | .success | .pending => .success
  | .busy => .busy
  | .failed status => .failed status

inductive StunEvent where
  /-- `pj_stun_session_send_msg` has taken a new request. -/
  | accepted (request : Nat)
  /-- A request is cancelled, and the application wants no call. -/
  | cancelled (request : Nat)
  /-- A message is given to `on_send_msg`. -/
  | sent (msg : StunMsg)
  /-- A message of the cache is given to `on_send_msg` again. -/
  | resent (msg : StunMsg)
  | requestComplete (request token : Nat) (status : ReqStatus)
  | rxRequest (msg : StunMsg)
  | rxIndication (msg : StunMsg)
  deriving DecidableEq

/-! ## Sending -/

def addWanted (wanted : Bool) (attr : Attr) (msg : StunMsg) : Except StunStatus StunMsg :=
  if wanted then msg.addAttr attr else .ok msg

/-- `apply_msg_options` -/
def applyMsgOptions (sess : StunSession) (authInfo : Option ReqCredInfo) (msg : StunMsg) :
    Except StunStatus StunMsg := do
  let request := isRequest msg.hdr.type
  let named := if !sess.srvName.1.isEmpty && (msg.findAttr attrSoftware).isNone
      && (isResponse msg.hdr.type || request && msg.hdr.magic = stunMagic) then
      (msg.addAttr (stringAttr attrSoftware sess.srvName attrKind_software)).toOption.getD msg
    else msg
  let info := if authValidForMsg named then authInfo.getD ⟨emptyText, emptyText, emptyText, []⟩
    else ⟨emptyText, emptyText, emptyText, []⟩
  let msg ← addWanted (!info.username.1.isEmpty && request)
    (stringAttr attrUsername info.username attrKind_username) named
  let msg ← addWanted (!info.realm.1.isEmpty && request) (stringAttr attrRealm info.realm attrKind_realm) msg
  let msg ← addWanted (!info.nonce.1.isEmpty && (request || isErrorResponse msg.hdr.type))
    (stringAttr attrNonce info.nonce attrKind_nonce) msg
  let msg ← addWanted (!info.username.1.isEmpty && !info.authKey.isEmpty) msgintAttr msg
  addWanted sess.useFingerprint fingerprintAttr msg

/-- `pj_stun_msg_encode` into a packet of `PJ_STUN_MAX_PKT_LEN`: the message as it is then. -/
def encodeMsg (env : StunEnv) (msg : StunMsg) (key : List UInt8) : Except StunStatus StunMsg :=
  match pjStunMsgEncode env msg (fun _ => 0) 800 0 (some key) with
  | .ok (msg, _) _ => .ok msg
  | .error status _ => .error status

/-- `PJ_STUN_MAX_TRANSMIT_COUNT` -/
def maxTransmitCount : Nat := 7

/-- `tsx_transmit_msg`: whether it succeeds is up to the callback. -/
def ClientTsx.transmit (tsx : ClientTsx) (modCount : Bool) (sent : SendResult) :
    ClientTsx × ReqStatus :=
  let tsx := if modCount then
      { tsx with
        retransmitTimer := tsx.retransmitTimer || tsx.requireRetransmit
        transmitCount := tsx.transmitCount + 1 }
    else tsx
  match sent with
  | .failed status =>
    if modCount || status = .einvalidop then
      ({ tsx with retransmitTimer := false }, .failed status)
    else (tsx, .failed status)
  | _ => (tsx, .success)

/-- `pj_stun_client_tsx_create` and `pj_stun_client_tsx_send_msg` -/
def ClientTsx.start (retransmit : Bool) (sent : SendResult) : ClientTsx × ReqStatus :=
  ClientTsx.transmit {
    complete := false
    requireRetransmit := retransmit
    transmitCount := if retransmit then 0 else maxTransmitCount
    -- over a stream the timer is for the timeout only
    retransmitTimer := !retransmit
    destroyTimer := false
    isDestroying := false
    notifies := true } true sent

/-- `pj_stun_client_tsx_schedule_destroy` -/
def ClientTsx.scheduleDestroy (tsx : ClientTsx) : ClientTsx :=
  if tsx.isDestroying then tsx
  else { tsx with
    isDestroying := true, destroyTimer := true, retransmitTimer := false, notifies := false }

/-- The message of `tdata` as it is in the packet, if there is a packet. -/
def packed (env : StunEnv) (sess : StunSession) (tdata : TxData) : Except StunStatus StunMsg := do
  let msg ← applyMsgOptions sess (some tdata.authInfo) tdata.msg
  encodeMsg env msg tdata.authInfo.authKey

/-- `tsx_add` -/
def StunSession.tsxAdd (sess : StunSession) (tdata : TxData) (tsx : ClientTsx) : StunSession :=
  { sess with
    next := sess.next + 1
    pending := { tdata with handle := sess.next, clientTsx := some tsx } :: sess.pending }

/-- The response is kept for the requests that come again. -/
def StunSession.keep (sess : StunSession) (tdata : TxData) : StunSession :=
  { sess with
    next := sess.next + 1
    cached := sess.cached ++ [{ tdata with handle := sess.next, resTimer := true }] }

/-- `pj_stun_session_send_msg`. What could not be sent is destroyed. -/
def sendMsg (env : StunEnv) (sess : StunSession) (cacheRes : Bool) (tdata : TxData)
    (sent : SendResult) : StunSession × List StunEvent × ReqStatus :=
  if sess.isDestroying then (sess, [], .failed .einvalidop)
  else
    match packed env sess tdata with
    | .error status => (sess, [], .failed status)
    | .ok msg =>
      if isRequest msg.hdr.type then
        match ClientTsx.start tdata.retransmit sent with
        | (tsx, .success) => (sess.tsxAdd { tdata with msg } tsx, [.sent msg], .success)
        | (_, status) => (sess, [.sent msg], status)
      else
        match sent.direct with
        | .success =>
          if cacheRes && (isSuccessResponse msg.hdr.type || isErrorResponse msg.hdr.type) then
            (sess.keep { tdata with msg }, [.sent msg], .success)
          else (sess, [.sent msg], .success)
        | status => (sess, [.sent msg], status)

/-- `get_auth` -/
def getAuth (env : StunEnv) (sess : StunSession) (msg : StunMsg) : Except StunStatus ReqCredInfo :=
  match sess.cred.cred with
  | .static cred =>
    .ok ⟨sess.serverRealm, cred.nonce, cred.username,
      pjStunCreateKey env (some sess.serverRealm) cred.username cred.dataType cred.data⟩
  | .dyn _ =>
    match sess.cred.getCred msg with
    | .error status => .error status
    | .ok (realm, username, nonce, dataType, password) =>
      .ok ⟨realm, nonce, username, pjStunCreateKey env (some realm) username dataType password⟩

def newTxData (msg : StunMsg) (authInfo : ReqCredInfo) (request : Nat) : TxData where
  handle := 0
  request
  msg
  token := 0
  retransmit := false
  msgMagic := msg.hdr.magic
  msgKey := msg.hdr.tsxId
  authInfo
  clientTsx := none
  resTimer := false

/-- `pj_stun_session_create_req` -/
def createReq (env : StunEnv) (sess : StunSession) (method : UInt16) (magic : UInt32)
    (tsxId : Octets 12) (request : Nat) : Except StunStatus TxData :=
  if sess.isDestroying then .error .einvalidop
  else
    let msg := createMsg method magic tsxId
    let none : ReqCredInfo := ⟨emptyText, emptyText, emptyText, []⟩
    match sess.authType with
    | .none => .ok (newTxData msg none request)
    | .shortTerm => (getAuth env sess msg).map fun info => newTxData msg info request
    | .longTerm =>
      if sess.nextNonce.1.isEmpty then .ok (newTxData msg none request)
      else (getAuth env sess msg).map fun info =>
        newTxData msg { info with nonce := sess.nextNonce, realm := sess.serverRealm } request

/-- `pj_stun_session_create_res`; the key is that of the request. -/
def createRes (sess : StunSession) (rdata : StunMsg) (info : ReqCredInfo) (errCode : Nat)
    (errMsg : Option Text) : Except StunStatus TxData :=
  if sess.isDestroying then .error .einvalidop
  else
    (createResponse rdata errCode errMsg).map fun msg => { newTxData msg info 0 with
      msgMagic := rdata.hdr.magic
      msgKey := rdata.hdr.tsxId }

/-! ## Responses -/

/-- What a response leaves to be done. -/
inductive AuthNext where
  | notifyUser
  | nothing
  | retry (tdata : TxData)

/-- The realm of a response, without the zeros at its end. -/
def trimRealm (realm : Text) : Text :=
  ⟨realm.1.rdropWhile (· = 0), by
    have shorter := (List.rdropWhile_prefix (· = 0) realm.1).length_le
    have room := realm.2
    omega⟩

/-- The attributes of a request that are copied to a retry. -/
def retryAttr (attr : Attr) : Bool :=
  !(attr.type = attrUsername || attr.type = attrRealm || attr.type = attrMessageIntegrity
    || attr.type = attrNonce)

/-- The request again, as far as it is not made anew. -/
def retryOf (request tdata : TxData) : TxData :=
  { tdata with
    msg := { tdata.msg with
      attrs := request.msg.attrs.filter retryAttr
      attrCount := (List.length_filter_le _ _).trans request.msg.attrCount }
    token := request.token
    retransmit := request.retransmit }

/-- What is kept of a challenge. -/
def StunSession.challenged (sess : StunSession) (response : StunMsg) (nonce : Text) : StunSession :=
  { sess with
    authRetry := sess.authRetry + 1
    nextNonce := nonce
    serverRealm := (response.findText attrRealm).elim sess.serverRealm trimRealm }

/-- `handle_auth_challenge`, up to the sending of a retry, which gets this transaction id. -/
def authChallenge (env : StunEnv) (sess : StunSession) (request : TxData)
    (response : Option StunMsg) (tsxId : Octets 12) : StunSession × AuthNext :=
  match response with
  | none => (sess, .notifyUser)
  | some response =>
    if sess.authType ≠ .longTerm then (sess, .notifyUser)
    else if !isErrorResponse response.hdr.type then ({ sess with authRetry := 0 }, .notifyUser)
    else
      match response.errCode with
      | none => (sess, .nothing)
      | some code =>
        if code = 401 ∨ code = 438 then
          match response.findText attrNonce with
          | none => (sess, .nothing)
          | some nonce =>
            if nonce = sess.nextNonce then (sess, .notifyUser)
            else if 3 < sess.authRetry + 1 then
              ({ sess with authRetry := sess.authRetry + 1 }, .notifyUser)
            else
              match createReq env (sess.challenged response nonce) request.msg.hdr.type
                request.msg.hdr.magic tsxId request.request with
              | .error _ => (sess.challenged response nonce, .notifyUser)
              | .ok tdata =>
                (sess.challenged response nonce, .retry (retryOf request tdata))
        else ({ sess with authRetry := 0 }, .notifyUser)

/-- `handle_auth_challenge`: whether the user is to be notified. -/
def handleAuthChallenge (env : StunEnv) (sess : StunSession) (request : TxData)
    (response : Option StunMsg) (tsxId : Octets 12) (sent : SendResult) :
    StunSession × List StunEvent × Bool :=
  match authChallenge env sess request response tsxId with
  | (sess, .notifyUser) => (sess, [], true)
  | (sess, .nothing) => (sess, [], false)
  | (sess, .retry tdata) =>
    -- what becomes of the retry is not looked at
    let (sess, events, _) := sendMsg env sess true tdata sent
    (sess, events, false)

def StunSession.modifyPending (sess : StunSession) (handle : Nat) (f : TxData → TxData) :
    StunSession :=
  { sess with pending := sess.pending.map fun t => if t.handle = handle then f t else t }

def TxData.modifyTsx (tdata : TxData) (f : ClientTsx → ClientTsx) : TxData :=
  { tdata with clientTsx := tdata.clientTsx.map f }

/-- `destroy_tdata` without force, for a request: it stays for a while. -/
def StunSession.scheduleDestroy (sess : StunSession) (handle : Nat) : StunSession :=
  sess.modifyPending handle (·.modifyTsx ClientTsx.scheduleDestroy)

def StunSession.erase (sess : StunSession) (handle : Nat) : StunSession :=
  { sess with pending := sess.pending.filter (·.handle ≠ handle) }

/-- How the transmit data of a complete transaction is disposed of. -/
def StunSession.dispose (sess : StunSession) (handle : Nat) (status : ReqStatus) : StunSession :=
  if status = .timedOut then sess.erase handle else sess.scheduleDestroy handle

@[simp] theorem dispose_cached (sess : StunSession) (handle : Nat) (status : ReqStatus) :
    (sess.dispose handle status).cached = sess.cached := by
  unfold StunSession.dispose
  split <;> rfl

@[simp] theorem dispose_next (sess : StunSession) (handle : Nat) (status : ReqStatus) :
    (sess.dispose handle status).next = sess.next := by
  unfold StunSession.dispose
  split <;> rfl

@[simp] theorem dispose_isDestroying (sess : StunSession) (handle : Nat) (status : ReqStatus) :
    (sess.dispose handle status).isDestroying = sess.isDestroying := by
  unfold StunSession.dispose
  split <;> rfl

/-- `stun_tsx_on_complete` -/
def stunTsxOnComplete (env : StunEnv) (sess : StunSession) (tdata : TxData) (status : ReqStatus)
    (response : Option StunMsg) (tsxId : Octets 12) (sent : SendResult) :
    StunSession × List StunEvent :=
  if sess.isDestroying then (sess.scheduleDestroy tdata.handle, [])
  else
    let (sess, events, notifyUser) := handleAuthChallenge env sess tdata response tsxId sent
    let told := if notifyUser then [.requestComplete tdata.request tdata.token status] else []
    (sess.dispose tdata.handle status, events ++ told)

/-- A transaction that has come to its end calls back, once. -/
def completeTsx (env : StunEnv) (sess : StunSession) (tdata : TxData) (tsx : ClientTsx)
    (status : ReqStatus) (response : Option StunMsg) (tsxId : Octets 12) (sent : SendResult) :
    StunSession × List StunEvent :=
  if tsx.complete then (sess, [])
  else
    let sess := sess.modifyPending tdata.handle (·.modifyTsx ({ · with complete := true }))
    if tsx.notifies then stunTsxOnComplete env sess tdata status response tsxId sent else (sess, [])

/-- `retransmit_timer_callback` -/
def retransmitTimerCallback (env : StunEnv) (sess : StunSession) (tdata : TxData) (tsx : ClientTsx)
    (sent : SendResult) : StunSession × List StunEvent :=
  let off := sess.modifyPending tdata.handle (·.modifyTsx ({ · with retransmitTimer := false }))
  if tsx.isDestroying then (off, [])
  else if maxTransmitCount ≤ tsx.transmitCount then
    completeTsx env off tdata tsx .timedOut none tdata.msgKey sent
  else
    let (after, status) := ClientTsx.transmit { tsx with retransmitTimer := false } true sent
    let sess := sess.modifyPending tdata.handle (·.modifyTsx fun _ => after)
    match status with
    | .success => (sess, [.sent tdata.msg])
    | _ =>
      let (sess, events) := completeTsx env sess tdata after status none tdata.msgKey sent
      (sess, .sent tdata.msg :: events)

/-- `pj_stun_client_tsx_on_rx_msg` -/
def clientTsxOnRxMsg (env : StunEnv) (sess : StunSession) (tdata : TxData) (tsx : ClientTsx)
    (msg : StunMsg) (tsxId : Octets 12) (sent : SendResult) : StunSession × List StunEvent :=
  let off := sess.modifyPending tdata.handle (·.modifyTsx ({ · with retransmitTimer := false }))
  match msg.errCode with
  | none => completeTsx env off tdata tsx .success (some msg) tsxId sent
  | some code =>
    -- a provisional response stops the retransmissions, and nothing else
    if code ≤ 200 then (off, [])
    else completeTsx env off tdata tsx (.failed (.stunCode code.toNat)) (some msg) tsxId sent

/-- `tsx_lookup` -/
def StunSession.lookup (sess : StunSession) (msg : StunMsg) : Option TxData :=
  sess.pending.find? fun t => t.msgMagic = msg.hdr.magic && t.msgKey = msg.hdr.tsxId

/-- The authentication of a response fails. -/
def StunSession.refuses (env : StunEnv) (sess : StunSession) (noAuthenticate : Bool)
    (pkt : List UInt8) (msg : StunMsg) (tdata : TxData) : Bool :=
  !(noAuthenticate || sess.authType = .none) && !tdata.authInfo.authKey.isEmpty
    && authValidForMsg msg
    && (pjStunAuthenticateResponse env pkt msg tdata.authInfo.authKey).toOption.isNone

/-- `on_incoming_response`, with `PJ_STUN_NO_AUTHENTICATE` or not. -/
def onIncomingResponse (env : StunEnv) (sess : StunSession) (noAuthenticate : Bool)
    (pkt : List UInt8) (msg : StunMsg) (tsxId : Octets 12) (sent : SendResult) :
    StunSession × List StunEvent :=
  match sess.lookup msg with
  | none => (sess, [])
  | some tdata =>
    if sess.refuses env noAuthenticate pkt msg tdata then (sess, [])
    else
      match tdata.clientTsx with
      | none => (sess, [])
      | some tsx => clientTsxOnRxMsg env sess tdata tsx msg tsxId sent

/-! ## Requests and indications -/

/-- `send_response`, of a response that is not kept. -/
def sendResponse (env : StunEnv) (sess : StunSession) (response : StunMsg)
    (authInfo : Option ReqCredInfo) : List StunEvent :=
  match applyMsgOptions sess authInfo response with
  | .error _ => []
  | .ok msg =>
    match encodeMsg env msg (authInfo.elim [] (·.authKey)) with
    | .error _ => []
    | .ok msg => [.sent msg]

/-- The response of the cache that `check_cached_response` finds. -/
def StunSession.findCached (sess : StunSession) (msg : StunMsg) : Option TxData :=
  sess.cached.find? fun t => t.msgMagic = msg.hdr.magic && t.msg.hdr.type = msg.hdr.type
    && t.msgKey = msg.hdr.tsxId

/-- `send_response`, of a response of the cache. -/
def resend (env : StunEnv) (tdata : TxData) : List StunEvent :=
  match encodeMsg env tdata.msg tdata.authInfo.authKey with
  | .error _ => []
  | .ok msg => [.resent msg]

/-- `on_incoming_request`, with `authenticate_req` -/
def onIncomingRequest (env : StunEnv) (sess : StunSession) (noAuthenticate : Bool)
    (pkt : List UInt8) (msg : StunMsg) : List StunEvent :=
  let auth := if noAuthenticate || sess.authType = .none then none
    else some (pjStunAuthenticateRequest env pkt msg sess.cred.cred true)
  match auth with
  | some ⟨.error _, info, response⟩ =>
    response.elim [] fun response => sendResponse env sess response (some info)
  | _ =>
    if sess.onRxRequest then [.rxRequest msg]
    else
      match createResponse msg 400 (some (printed80 "Callback is not set to handle request")) with
      | .error _ => []
      | .ok response => sendResponse env sess response none

/-- `pj_stun_session_on_rx_pkt`, of a packet that was parsed. -/
def onRxMsg (env : StunEnv) (sess : StunSession) (noAuthenticate : Bool) (pkt : List UInt8)
    (msg : StunMsg) (tsxId : Octets 12) (sent : SendResult) : StunSession × List StunEvent :=
  match sess.findCached msg with
  | some tdata => (sess, resend env tdata)
  | none =>
    if isSuccessResponse msg.hdr.type || isErrorResponse msg.hdr.type then
      onIncomingResponse env sess noAuthenticate pkt msg tsxId sent
    else if isRequest msg.hdr.type then (sess, onIncomingRequest env sess noAuthenticate pkt msg)
    else (sess, [.rxIndication msg])

/-- `pj_stun_session_on_rx_pkt` -/
def onRxPkt (env : StunEnv) (sess : StunSession) (options : UInt32) (pkt : List UInt8)
    (tsxId : Octets 12) (sent : SendResult) : StunSession × List StunEvent :=
  if sess.isDestroying then (sess, [])
  else
    match pjStunMsgDecode env pkt options true with
    | .outside => (sess, [])
    | .error e => (sess, e.response.elim [] fun response => sendResponse env sess response none)
    | .value (msg, _) => onRxMsg env sess (hasOption options 4) pkt msg tsxId sent

/-! ## Runs -/

/-- What happens to a session. -/
inductive StunAct where
  /-- `pj_stun_session_send_msg`, of a message that was made before. -/
  | sendMsg (token : Nat) (cacheRes retransmit : Bool) (tdata : TxData) (sent : SendResult)
  /-- `pj_stun_session_respond` -/
  | respond (rdata : StunMsg) (info : ReqCredInfo) (code : Nat) (errMsg : Option Text)
      (token : Nat) (cache : Bool) (sent : SendResult)
  | rxPkt (options : UInt32) (pkt : List UInt8) (tsxId : Octets 12) (sent : SendResult)
  | cancelReq (handle : Nat) (notify : Option StunStatus)
  | setCredential (authType : AuthType) (cred : SessCred)
  | setSoftwareName (name : Text)
  | useFingerprint (wanted : Bool)
  | retransmitReq (handle : Nat) (modCount : Bool) (sent : SendResult)
  | retransmitTimer (handle : Nat) (sent : SendResult)
  | destroyTimer (handle : Nat)
  | cacheTimeout (handle : Nat)
  | destroy

/-- The client transaction of a pending request. -/
def StunSession.tsxOf (sess : StunSession) (handle : Nat) : Option (TxData × ClientTsx) :=
  (sess.pending.find? (·.handle = handle)).bind fun t => t.clientTsx.map fun tsx => (t, tsx)

/-- `pj_stun_session_cancel_req` -/
def cancelReq (sess : StunSession) (tdata : TxData) (notify : Option StunStatus) :
    StunSession × List StunEvent :=
  if sess.isDestroying then (sess, [])
  else
    (sess.scheduleDestroy tdata.handle, match notify with
      | some status => [.requestComplete tdata.request tdata.token (.failed status)]
      | none => [.cancelled tdata.request])

/-- `pj_stun_session_retransmit_req`, with `pj_stun_client_tsx_retransmit` -/
def retransmitReq (sess : StunSession) (tdata : TxData) (tsx : ClientTsx) (modCount : Bool)
    (sent : SendResult) : StunSession × List StunEvent :=
  if sess.isDestroying || tsx.destroyTimer || tsx.isDestroying then (sess, [])
  else
    let tsx := { tsx with retransmitTimer := tsx.retransmitTimer && !modCount }
    (sess.modifyPending tdata.handle (·.modifyTsx fun _ => (tsx.transmit modCount sent).1),
      [.sent tdata.msg])

/-- `pj_stun_session_destroy` -/
def StunSession.destroy (sess : StunSession) : StunSession :=
  if sess.isDestroying then sess
  else { sess with
    isDestroying := true
    pending := sess.pending.map (·.modifyTsx
      ({ · with retransmitTimer := false, destroyTimer := false }))
    cached := [] }

/-- A message that the application sends; a request is a new one. -/
def sendNew (env : StunEnv) (sess : StunSession) (cacheRes : Bool) (tdata : TxData)
    (sent : SendResult) : StunSession × List StunEvent :=
  match sendMsg env sess cacheRes { tdata with request := sess.next } sent with
  | (after, events, .success) =>
    (after, if isRequest tdata.msg.hdr.type then events ++ [.accepted sess.next] else events)
  | (after, events, _) => (after, events)

/-- One step; a timer that is not scheduled does not expire. -/
def stunStep (env : StunEnv) (sess : StunSession) : StunAct → Option (StunSession × List StunEvent)
  | .sendMsg token cacheRes retransmit tdata sent =>
    some (sendNew env sess cacheRes { tdata with token, retransmit } sent)
  | .respond rdata info code errMsg token cache sent =>
    match createRes sess rdata info code errMsg with
    | .error _ => some (sess, [])
    | .ok tdata => some (sendNew env sess cache { tdata with token } sent)
  | .rxPkt options pkt tsxId sent => some (onRxPkt env sess options pkt tsxId sent)
  | .cancelReq handle notify =>
    (sess.tsxOf handle).map fun (tdata, _) => cancelReq sess tdata notify
  | .setCredential authType cred => some ({ sess with authType, cred }, [])
  | .setSoftwareName name => some ({ sess with srvName := name }, [])
  | .useFingerprint wanted => some ({ sess with useFingerprint := wanted }, [])
  | .retransmitReq handle modCount sent =>
    (sess.tsxOf handle).map fun (tdata, tsx) => retransmitReq sess tdata tsx modCount sent
  | .retransmitTimer handle sent =>
    (sess.tsxOf handle).bind fun (tdata, tsx) =>
      if tsx.retransmitTimer then some (retransmitTimerCallback env sess tdata tsx sent) else none
  | .destroyTimer handle =>
    (sess.tsxOf handle).bind fun (_, tsx) =>
      if tsx.destroyTimer then some (sess.erase handle, []) else none
  | .cacheTimeout handle =>
    if sess.cached.any (·.handle = handle) then
      some ({ sess with cached := sess.cached.filter (·.handle ≠ handle) }, [])
    else none
  | .destroy => some (sess.destroy, [])

end Pjsip.Pjnath.Stun
