import Pjsip.Sip.Dialog
import Pjsip.Sip.Lifetime.Routing
import Pjsip.Sip.Tsx.Transaction

/-!
# The lifetime of a dialog (`sip_dialog.c`)

A dialog counts the locks and sessions that hold it and the transactions that report to it, and goes
with the last of them. Its functions call the usages, and those call its functions again: what they
do in a callback is a list of calls, each with what is done in its own callbacks.
-/

namespace Pjsip.Sip.Lifetime

open Pjsip.Base Pjsip.Pjlib Pjsip.Sip.Dlg

/-- An entry of a transaction's `mod_data`. -/
inductive Slot where
  | null
  /-- It is the dialog. -/
  | dialog
  | other
  deriving DecidableEq, Repr

/-- A transaction, as far as a dialog looks at it. -/
structure DlgTsx where
  role : Role
  state : TsxState := .null
  statusCode : Nat := 0
  /-- `mod_data[ua->id]` -/
  user : Slot
  deriving DecidableEq, Repr

/-- What a dialog does that its counters are about. -/
inductive LifeEvent where
  /-- `pjsip_dlg_dec_lock` left the counters so. -/
  | unlocked (sessCount : Int) (tsxCount : Nat)
  | unregistered
  | destroyed
  /-- The usages are called, with `tsx_count` and the number of attached transactions. -/
  | reported (tsxCount attached : Nat)
  /-- `pjsip_dlg_on_tsx_state` detaches a transaction and takes it off this count. -/
  | countedOut (tsx tsxCount : Nat)
  /-- `pjsip_dlg_send_request` returns with the error that sending this transaction's request
  met with. -/
  | sendFailed (tsx : Nat)
  /-- The dialog is locked or unlocked after it was destroyed. -/
  | stale
  deriving DecidableEq, Repr

/-- A dialog with its transactions, numbered as they were made. -/
structure Life where
  dlg : Dialog
  sessCount : Int
  /-- `dlg_set` is there. -/
  registered : Bool := true
  destroyed : Bool := false
  tsxs : List DlgTsx
  /-- The locks and sessions that the callers have taken and not given back. -/
  held : Nat
  /-- The last one first. -/
  log : List LifeEvent := []
  deriving DecidableEq, Repr

/-- What code does that may call the dialog; `none` if it gives back a lock or a session that
nobody has taken. -/
abbrev Callback := Life → Option Life

namespace Life

def tell (s : Life) (event : LifeEvent) : Life := { s with log := event :: s.log }

/-- An access to the dialog. -/
def touch (s : Life) : Life := if s.destroyed then s.tell .stale else s

/-- The number of transactions whose `mod_data` points to the dialog. -/
def attached (s : Life) : Nat := s.tsxs.countP (·.user = .dialog)

/-- `pjsip_dlg_inc_lock` -/
def incLock (s : Life) : Life := { s.touch with sessCount := s.sessCount + 1 }

/-- `unregister_and_destroy_dialog` -/
def unregisterAndDestroy (s : Life) : Life :=
  if s.sessCount ≠ 0 then s
  else if s.dlg.tsxCount ≠ 0 then s
  else
    let s := if s.registered then { s.tell .unregistered with registered := false } else s
    { s.tell .destroyed with destroyed := true }

/-- `pjsip_dlg_dec_lock` -/
def decLock (s : Life) : Life :=
  let s := { s.touch with sessCount := s.sessCount - 1 }
  let s := s.tell (.unlocked s.sessCount s.dlg.tsxCount)
  if s.sessCount = 0 ∧ s.dlg.tsxCount = 0 then s.unregisterAndDestroy else s

/-- `pjsip_dlg_inc_session` -/
def incSession (s : Life) : Life :=
  let s := s.incLock
  { s with sessCount := s.sessCount + 1 }.decLock

/-- `pjsip_dlg_dec_session` -/
def decSession (s : Life) : Life :=
  let s := s.incLock
  { s with sessCount := s.sessCount - 1 }.decLock

/-- The usages' callbacks are called. -/
def callUsages (s : Life) (usages : Callback) : Option Life :=
  usages (s.tell (.reported s.dlg.tsxCount s.attached))

/-- The end of `pjsip_dlg_on_tsx_state`: a transaction that is terminated and still attached is
counted out. -/
def countOut (s : Life) (tsx : Nat) : Life :=
  match s.tsxs[tsx]? with
  | none => s
  | some t =>
    if t.state = .terminated ∧ t.user = .dialog then
      { s with
        dlg := s.dlg.tsxTerminated
        tsxs := s.tsxs.set tsx { t with user := .null }
        log := .countedOut tsx s.dlg.tsxCount :: s.log }
    else s

/-- `pjsip_dlg_on_tsx_state` -/
def dlgOnTsxState (s : Life) (tsx : Nat) (usages : Callback) : Option Life :=
  (s.incLock.callUsages usages).map fun s => (s.countOut tsx).decLock

/-- `mod_ua_on_tsx_state` -/
def onTsxState (s : Life) (tsx : Nat) (usages : Callback) : Option Life :=
  if (s.tsxs[tsx]?).any (·.user = .dialog) then s.dlgOnTsxState tsx usages else some s

/-- `mod_ua_on_rx_response`, for a response to this transaction. -/
def onRxResponse (s : Life) (tsx : Nat) (usages : Callback) : Option Life :=
  if (s.tsxs[tsx]?).any (·.user = .dialog) then
    (s.incLock.callUsages usages).map decLock
  else some s

/-- A transaction goes to this state, with this status code: `tsx_set_state`, which tells the
user of the response, if it was one, and of the state. A terminated transaction stays so until
it is destroyed, of which the dialog is not told. -/
def setState (s : Life) (tsx : Nat) (state : TsxState) (code : Nat) (response : Option Callback)
    (usages : Callback) : Option Life :=
  match s.tsxs[tsx]? with
  | none => some s
  | some t =>
    if t.state.rank < TsxState.terminated.rank ∧ t.state.rank ≤ state.rank
        ∧ state.rank ≤ TsxState.terminated.rank then
      let s := { s with tsxs := s.tsxs.set tsx { t with state, statusCode := code } }
      (match response with
        | none => some s
        | some response => s.onRxResponse tsx response).bind fun s => s.onTsxState tsx usages
    else some s

/-- `pjsip_tsx_terminate` -/
def tsxTerminate (s : Life) (tsx : Nat) (code : Nat) (usages : Callback) : Option Life :=
  if code < 200 then some s else s.setState tsx .terminated code none usages

end Life

/-- The user agent, as far as it is asked about requests. -/
structure UaCfg extends DestCfg where
  /-- The number of the user agent module. -/
  id : Int
  uriCmp : List UInt8 → List UInt8 → Bool

/-- A request to send. -/
structure Request where
  tdata : Dlg.TxData
  routed : Routed
  deriving DecidableEq, Repr

/-- `mod_data_id` and `mod_data` of `pjsip_dlg_send_request`. -/
structure ModData where
  id : Int
  data : Slot
  deriving DecidableEq, Repr

/-- `PJSIP_MAX_MODULE` -/
def maxModule : Int := 32

/-- What comes of a request with a destination before `pjsip_tsx_send_msg` returns. -/
inductive Sent where
  /-- It is sent, or will be. -/
  | calling
  /-- The server cannot be resolved, or no transport could send it. -/
  | failed (error : Fault)
  deriving DecidableEq

/-- The answer of `pjsip_tsx_create_uac`; `created` is what the rest of it meets with, once the
request has a CSeq header and a destination. -/
def tsxCreateUac (cfg : UaCfg) (request : Request) (created : SipStatus) : SipStatus :=
  if request.tdata.cseq.isNone then .emissinghdr
  else
    match getRequestDest cfg.toDestCfg request.routed with
    | .success => created
    | status => status

namespace Life

/-- A new client transaction, attached to the dialog, with the caller's data. -/
def newUac (cfg : UaCfg) (modData : ModData) : DlgTsx where
  role := .uac
  user := if 0 ≤ modData.id ∧ modData.id < maxModule ∧ modData.id = cfg.id then modData.data
    else .dialog

/-- `pjsip_tsx_send_msg`, for the request of a new client transaction. -/
def tsxSendMsg (cfg : UaCfg) (s : Life) (tsx : Nat) (request : Request) (sent : Sent)
    (usages : Callback) : Option (Life × SipStatus) :=
  match (processRouteSet cfg.toDestCfg request.routed).1, sent with
  | .success, .calling => (s.setState tsx .calling 0 none usages).map (·, .success)
  | .success, .failed error =>
    (s.setState tsx .terminated (Tsx.failureCode error) none usages).map (·, error.1)
  -- The transaction is told nothing.
  | status, _ => some (s, status)

/-- The failed send of `pjsip_dlg_send_request`; `tsxCount` is what its transaction made the
count. -/
def failSend (s : Life) (tsx : Nat) (tsxCount : Nat) (usages : Callback) : Option Life :=
  (if s.dlg.tsxCount = tsxCount then
    s.tsxTerminate tsx ((s.tsxs[tsx]?).elim 0 (·.statusCode)) usages
  else some s).map (·.tell (.sendFailed tsx))

/-- What `pjsip_dlg_send_request` does with the dialog locked. -/
def sendLocked (cfg : UaCfg) (s : Life) (request : Request) (created : SipStatus)
    (modData : ModData) (sent : Sent) (usages ended : Callback) : Option Life :=
  let (dlg, handed) := Dlg.sendRequest s.dlg request.tdata (tsxCreateUac cfg request created)
  let s := { s with dlg }
  match handed with
  | .error _ => some s
  | .ok tdata =>
    if tdata.method.id = .ack then some s
    else
      let tsx := s.tsxs.length
      let tsxCount := s.dlg.tsxCount
      let s := { s with tsxs := s.tsxs ++ [newUac cfg modData] }
      (s.tsxSendMsg cfg tsx request sent usages).bind fun (s, status) =>
        if status ≠ .success then s.failSend tsx tsxCount ended else some s

/-- `pjsip_dlg_send_request`; `usages` is what the usages do when they are told of the state that
the transaction is in after the send, and `ended` when they are told that it was terminated
here. -/
def sendRequest (cfg : UaCfg) (s : Life) (request : Request) (created : SipStatus)
    (modData : ModData) (sent : Sent) (usages ended : Callback) : Option Life :=
  if request.tdata.isRequest = false then some s
  -- Without a CSeq header the function returns with the dialog locked.
  else if exempt request.tdata.method = false ∧ request.tdata.cseq = none then some s.incLock
  else (s.incLock.sendLocked cfg request created modData sent usages ended).map decLock

/-- A new server transaction, attached to the dialog. -/
def newUas : DlgTsx where
  role := .uas
  user := .dialog

/-- `pjsip_tsx_recv_msg`, for the request of a new server transaction. -/
def tsxRecvMsg (s : Life) (tsx : Nat) (usages : Callback) : Option Life :=
  match s.tsxs[tsx]? with
  | none => some s
  | some t =>
    if t.state = .null then s.setState tsx .trying t.statusCode none usages else some s

/-- `pjsip_dlg_send_response`. `answer` is the state that the response brings the transaction to,
with its status code, or `none` if it cannot be sent. -/
def sendResponse (s : Life) (tsx : Nat) (answer : Option (TsxState × Nat)) (usages : Callback) :
    Option Life :=
  if (s.tsxs[tsx]?).any (·.user = .dialog) then
    let s := s.incLock
    (match answer with
      | none => some s
      | some (state, code) => s.setState tsx state code none usages).map decLock
  else some s

/-- What goes with a request that came in. -/
structure Reception where
  /-- The answer of `pjsip_tsx_create_uas2`. -/
  created : SipStatus
  /-- The answers of the usages that are asked. -/
  claims : List Bool
  /-- The answer of `pjsip_dlg_create_response`. -/
  response : SipStatus
  /-- What comes of sending that response. -/
  answer : Option (TsxState × Nat)
  deriving DecidableEq

/-- The response to a request that no usage has claimed. -/
def refuse (s : Life) (tsx : Nat) (reception : Reception) (refused : Callback) : Option Life :=
  if (s.tsxs[tsx]?).any (·.statusCode < 200) ∧ reception.response = .success then
    s.sendResponse tsx reception.answer refused
  else some s

/-- What `pjsip_dlg_on_rx_request` does with the dialog locked. -/
def receiveLocked (cfg : UaCfg) (s : Life) (rdata : RxRequest) (reception : Reception)
    (reported trying refused : Callback) : Option Life :=
  match Dlg.onRxRequest cfg.uriCmp s.dlg rdata reception.created reception.claims with
  | (_, .invalidCseq) => some s
  | (dlg, .refused _) => some { s with dlg }
  | (dlg, .reported processed) =>
    let s := { s with dlg }
    if rdata.hasTsx = false ∧ rdata.method.id ≠ .ack then
      let tsx := s.tsxs.length
      let s := { s with tsxs := s.tsxs ++ [newUas] }
      (s.callUsages reported).bind fun s =>
        (s.tsxRecvMsg tsx trying).bind fun s =>
          if processed = false then s.refuse tsx reception refused else some s
    else s.callUsages reported

/-- `pjsip_dlg_on_rx_request`; `reported`, `trying` and `refused` are what the usages do when
they are told of the request, of its transaction and of the response to it. -/
def onRxRequest (cfg : UaCfg) (s : Life) (rdata : RxRequest) (reception : Reception)
    (reported trying refused : Callback) : Option Life :=
  (s.incLock.receiveLocked cfg rdata reception reported trying refused).map decLock

end Life

/-- A call of the dialog's functions, or something that happens to one of its transactions. -/
inductive LifeAct where
  | incLock
  | decLock
  | incSession
  | decSession
  | sendRequest (request : Request) (created : SipStatus) (modData : ModData) (sent : Sent)
      (usages ended : List LifeAct)
  | sendResponse (tsx : Nat) (answer : Option (TsxState × Nat)) (usages : List LifeAct)
  | rxRequest (rdata : RxRequest) (reception : Life.Reception)
      (reported trying refused : List LifeAct)
  /-- A transaction that has left state Null goes to another state, by a timer or a message. -/
  | tsxState (tsx : Nat) (state : TsxState) (code : Nat) (usages : List LifeAct)
  /-- The same, by a response that the usages are told of as well. -/
  | rxResponse (tsx : Nat) (state : TsxState) (code : Nat) (response usages : List LifeAct)
  | terminate (tsx : Nat) (code : Nat) (usages : List LifeAct)

/-- The transaction has left state Null. -/
def Life.started (s : Life) (tsx : Nat) : Bool := (s.tsxs[tsx]?).any (·.state ≠ .null)

mutual

/-- One call, with the calls that the usages make in it. -/
def LifeAct.exec (cfg : UaCfg) : LifeAct → Callback
  | .incLock => fun s => some { s.incLock with held := s.held + 1 }
  | .decLock => fun s => if s.held = 0 then none else some { s with held := s.held - 1 }.decLock
  | .incSession => fun s => some { s with held := s.held + 1 }.incSession
  | .decSession => fun s =>
    if s.held = 0 then none else some { s with held := s.held - 1 }.decSession
  | .sendRequest request created modData sent usages ended => fun s =>
    s.sendRequest cfg request created modData sent (execAll cfg usages) (execAll cfg ended)
  | .sendResponse tsx answer usages => fun s => s.sendResponse tsx answer (execAll cfg usages)
  | .rxRequest rdata reception reported trying refused => fun s =>
    s.onRxRequest cfg rdata reception (execAll cfg reported) (execAll cfg trying)
      (execAll cfg refused)
  | .tsxState tsx state code usages => fun s =>
    if s.started tsx then s.setState tsx state code none (execAll cfg usages) else some s
  | .rxResponse tsx state code response usages => fun s =>
    if s.started tsx then
      s.setState tsx state code (some (execAll cfg response)) (execAll cfg usages)
    else some s
  | .terminate tsx code usages => fun s => s.tsxTerminate tsx code (execAll cfg usages)

/-- Calls one after the other. -/
def LifeAct.execAll (cfg : UaCfg) : List LifeAct → Callback
  | [] => some
  | act :: acts => fun s => (act.exec cfg s).bind (execAll cfg acts)

end

/-- What is done to a transaction; all else needs the dialog. -/
def LifeAct.ofTsx : LifeAct → Bool
  | .tsxState .. | .rxResponse .. | .terminate .. => true
  | _ => false

/-- The calls that are not made in a callback. Nobody calls a dialog that was destroyed. -/
def LifeAct.run (cfg : UaCfg) : List LifeAct → Callback
  | [] => some
  | act :: acts => fun s =>
    if s.destroyed ∧ act.ofTsx = false then none else (act.exec cfg s).bind (run cfg acts)

/-- A dialog as it is created: by a usage, out of another dialog, or for a request that came in,
with or without the lock. -/
inductive Life.Created : Life → Prop
  | uac (rand : Nat) (target : List UInt8) :
      Created { dlg := createUac rand target, sessCount := 0, tsxs := [], held := 0 }
  | fork (first : Dialog) (toTag contact : List UInt8) :
      Created { dlg := Dlg.fork first toTag contact, sessCount := 0, tsxs := [], held := 0 }
  | uas (rand : Nat) (rdata : RxRequest) (contact : List UInt8) (locked : Bool) :
      Created {
        dlg := createUas rand rdata contact
        sessCount := locked.toNat
        tsxs := [{ role := .uas, state := .trying, user := .dialog }]
        held := locked.toNat }

end Pjsip.Sip.Lifetime
