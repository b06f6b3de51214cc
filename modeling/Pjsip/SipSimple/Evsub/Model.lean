import Pjsip.Sip.Tsx.Transaction

/-!
# Event subscriptions (`evsub.c`)

A subscription is driven by the transactions of its dialog, by its timer and by its user, and calls
the user back while it handles any of these. What happens in a callback, or while a message is being
sent, is a list of calls and events, each with what happens in its own callbacks. The last fields of
`Evsub` are not in the source: which functions are being executed, and what has been done.
-/

namespace Pjsip.SipSimple

open Pjsip.Pjlib Pjsip.Sip

/-- `pjsip_evsub_state` -/
inductive EvsubState where
  | null | sent | accepted | pending | active | terminated | unknown
  deriving DecidableEq, Repr

/-- The timers of a subscription. -/
inductive TimerType where
  | uacRefresh | uasTimeout | uacTerminate | uacWaitNotify
  deriving DecidableEq, Repr

/-- `pjsip_subscribe_method` -/
def subscribeMethod : Method := ⟨.other, ascii "SUBSCRIBE".toList⟩

/-- `pjsip_notify_method` -/
def notifyMethod : Method := ⟨.other, ascii "NOTIFY".toList⟩

/-- `PJSIP_EXPIRES_NOT_SPECIFIED` -/
def expiresNotSpecified : Nat := 2 ^ 32 - 1

/-- `TIME_UAC_REFRESH` -/
def timeUacRefresh : Nat := 5

/-- `TIME_UAC_TERMINATE` -/
def timeUacTerminate : Nat := 5

/-- `TIME_UAC_WAIT_NOTIFY` -/
def timeUacWaitNotify : Nat := 5

/-- The callbacks of `pjsip_evsub_user` that the user has given. -/
structure EvsubUser where
  onEvsubState : Bool := true
  onTsxState : Bool := true
  onRxRefresh : Bool := true
  onRxNotify : Bool := true
  onClientRefresh : Bool := true
  onServerTimeout : Bool := true
  deriving DecidableEq, Repr

/-- A transaction of the dialog. -/
structure EvTsx where
  role : Role
  method : Method
  state : TsxState := .null
  statusCode : Nat := 0
  /-- `mod_data[mod_evsub.mod.id]` is the subscription. -/
  attached : Bool := false
  /-- `pending_tsx` no longer counts it. -/
  finished : Bool := false
  deriving DecidableEq, Repr

/-- It is attached, and has not been counted out. -/
def EvTsx.pending (t : EvTsx) : Bool := t.attached && !t.finished

/-- What a subscription does, and what it meets with on the way. -/
inductive EvEvent where
  /-- The state is written. -/
  | wrote (old new : EvsubState)
  /-- `set_timer` schedules the timer. -/
  | armed (state : EvsubState)
  /-- `evsub_destroy`, with so many transactions pending and `on_rx_refresh` being called so many
  times. -/
  | destroyed (state : EvsubState) (pending refreshing : Nat)
  /-- A NOTIFY for the state `dst` has been sent in this state. -/
  | notifySent (state dst : EvsubState)
  /-- A 2xx response to a SUBSCRIBE asks for a timer of so many seconds. -/
  | subscribed (state : EvsubState) (seconds : Nat)
  /-- So does a NOTIFY that the user has accepted. -/
  | extended (state : EvsubState) (seconds : Nat)
  /-- That NOTIFY has been answered; it says that the state is `new`. -/
  | notified (state new : EvsubState)
  /-- A NOTIFY has been rejected. -/
  | rejected (state : EvsubState)
  /-- A refresh that came in the state `old` has been refused. -/
  | refused (state old : EvsubState)
  /-- The user sets the timer of a server subscription. -/
  | timeoutSet (state : EvsubState) (seconds : Nat)
  /-- A transaction terminates; `busy` if an event of it is still being handled. -/
  | ended (busy : Bool)
  /-- `pending_tsx` is decremented to this number, while the user is being told that the
  subscription is terminated so many times. -/
  | countedOut (pendingTsx : Int) (terminating : Nat)
  deriving DecidableEq, Repr

/-- `pjsip_evsub` -/
structure Evsub where
  role : Role
  /-- `PJSIP_EVSUB_NO_EVENT_ID` -/
  noEventId : Bool
  user : EvsubUser
  callCb : Bool := true
  state : EvsubState := .null
  /-- `PJSIP_EVSUB_STATE_NULL` if none is to be set. -/
  dstState : EvsubState := .null
  method : Method
  /-- `expires->ivalue` -/
  expires : Nat
  /-- The timer that is running. -/
  timer : Option TimerType := none
  pendingTsx : Int
  /-- The number of a transaction. -/
  pendingSub : Option Nat := none
  /-- `pending_notify` is there. -/
  pendingNotify : Bool := false
  callingOnRxRefresh : Bool := false
  /-- It is in the dialog's list of subscriptions. -/
  listed : Bool := true
  /-- The transactions of the dialog, numbered as they were made. -/
  tsxs : List EvTsx
  /-- How many times `set_state` is telling the user of the termination. -/
  terminating : Nat := 0
  /-- How many refreshes are being answered by the user. -/
  refreshing : Nat := 0
  /-- The transactions whose events are being handled, the last one first. -/
  handling : List Nat := []
  /-- The last one first. -/
  log : List EvEvent := []
  deriving DecidableEq, Repr

/-- What happens while a subscription waits for something. -/
abbrev Script := Evsub → Evsub

/-- Where a message's Event header leads `on_new_transaction`. -/
inductive EvMatch where
  | none
  /-- To the subscription, by the event and its id. -/
  | exact
  /-- To the subscription, by the event alone; the subscription has no id yet. -/
  | anyId
  deriving DecidableEq, Repr

/-- Where an event of a transaction comes from. -/
inductive Source where
  | rx | tx | timer | other
  deriving DecidableEq, Repr

/-- The Subscription-State header. -/
structure SubStateHdr where
  /-- What `get_hdr_state` makes of it. -/
  state : EvsubState
  expiresParam : Nat := expiresNotSpecified
  deriving DecidableEq, Repr

/-- What an event of a transaction brings, and what its handling meets with. -/
structure EvInfo where
  source : Source := .other
  found : EvMatch := .exact
  /-- The Expires header of the message. -/
  expires : Option Nat := none
  /-- `pkg_expires` of the package that its Event header names. -/
  pkgExpires : Option Nat := none
  subState : Option SubStateHdr := none
  retryAfter : Bool := false
  /-- `auth_retry` of the request that was sent. -/
  authRetry : Bool := false
  /-- The answer of `on_rx_notify` or `on_rx_refresh`. -/
  stCode : Nat := 200
  /-- The response, or the request with credentials, can be created, -/
  created : Bool := true
  /-- and sent. -/
  sent : Bool := true
  /-- The NOTIFY that waits for the response can be sent. -/
  notifySent : Bool := true
  /-- `pj_rand` -/
  rand : Nat := 0
  deriving DecidableEq, Repr

namespace Evsub

def tell (s : Evsub) (event : EvEvent) : Evsub := { s with log := event :: s.log }

def write (s : Evsub) (state : EvsubState) : Evsub :=
  { s.tell (.wrote s.state state) with state }

def pendings (s : Evsub) : Nat := s.tsxs.countP EvTsx.pending

/-- `set_timer` with `TIMER_TYPE_NONE`. -/
def killTimer (s : Evsub) : Evsub := { s with timer := none }

/-- `set_timer` -/
def setTimer (s : Evsub) (id : TimerType) (seconds : Nat) : Evsub :=
  if seconds ≠ expiresNotSpecified then { s.tell (.armed s.state) with timer := some id }
  else s.killTimer

/-- `evsub_destroy` -/
def destroy (s : Evsub) : Evsub :=
  { (s.killTimer).tell (.destroyed s.state s.pendings s.refreshing) with listed := false }

/-- The state becomes Terminated, of which the user is to be told. -/
def enterTerminated (s : Evsub) : Evsub :=
  { s.write .terminated with terminating := s.terminating + 1 }

/-- The end of `set_state` for a subscription that has been terminated. -/
def leaveTerminated (s : Evsub) : Evsub :=
  let s := { s with terminating := s.terminating - 1 }.killTimer
  -- Not while the callback of a refresh is being called.
  if s.pendingTsx = 0 ∧ s.callingOnRxRefresh = false then s.destroy else s

/-- The user is told of the state. -/
def tellState (s : Evsub) (stateCb : Script) : Evsub :=
  if s.user.onEvsubState ∧ s.callCb then stateCb s else s

/-- `set_state` -/
def setState (s : Evsub) (state : EvsubState) (stateCb : Script) : Evsub :=
  if state = .terminated ∧ s.state ≠ .terminated then
    (s.enterTerminated.tellState stateCb).leaveTerminated
  else (s.write state).tellState stateCb

/-- `pjsip_evsub_terminate` -/
def terminate (s : Evsub) (notify : Bool) (stateCb : Script) : Evsub :=
  { s with callCb := notify }.setState .terminated stateCb

/-- `pjsip_evsub_initiate`; `created` if the request could be made. -/
def initiate (s : Evsub) (method : Option Method) (expires : Nat) (created : Bool) : Evsub :=
  let s := if s.state = .null then { s with method := method.getD subscribeMethod } else s
  if created ∧ expires ≠ expiresNotSpecified then { s with expires } else s

/-- `pjsip_evsub_notify`; `created` if the request could be made. -/
def notify (s : Evsub) (state : EvsubState) (created : Bool) : Evsub :=
  if created then { s with dstState := state } else s

/-- `pjsip_evsub_send_request`, for a request of this method. `sending` is what happens in
`pjsip_dlg_send_request`, which returns `sent`. -/
def sendRequest (s : Evsub) (method : Method) (sent : Bool) (sending stateCb : Script) : Evsub :=
  if s.callingOnRxRefresh ∧ methodCmp method notifyMethod then { s with pendingNotify := true }
  else
    let s := sending s
    if sent = false then s
    else if methodCmp method notifyMethod then
      if s.dstState = .null then s
      else
        let s := s.tell (.notifySent s.state s.dstState)
        { s.setState s.dstState stateCb with dstState := .null }
    else s

/-- `pjsip_evsub_accept`, for the request of this transaction. `created` and `sent` are the
answers of the functions that create and send the response, `sending` what happens meanwhile. -/
def accept (s : Evsub) (tsx : Nat) (stCode : Nat) (created sent : Bool) (sending : Script) : Evsub :=
  if s.role ≠ .uas then s
  else if stCode / 100 ≠ 2 then s
  else if (s.tsxs[tsx]?).all (!·.attached) then s
  else if created = false then s
  else
    let s := sending s
    if sent = false then s
    else if s.state ≠ .terminated then s.setTimer .uasTimeout s.expires else s

/-- `pjsip_evsub_uas_set_timeout` -/
def uasSetTimeout (s : Evsub) (seconds : Nat) : Evsub :=
  (s.tell (.timeoutSet s.state seconds)).setTimer .uasTimeout seconds

/-- The method is the one that established the subscription, or SUBSCRIBE. -/
def subscribes (s : Evsub) (method : Method) : Bool :=
  methodCmp method s.method || methodCmp method subscribeMethod

/-- A transaction belongs to the subscription, by its message's Event header. -/
def finds (s : Evsub) (t : EvTsx) : EvMatch → Bool
  | .none => false
  | .exact => s.listed && !(s.noEventId && s.state = .terminated)
  | .anyId => s.listed && s.role = .uac && s.noEventId && methodCmp t.method notifyMethod

/-- `on_new_transaction`, and whether the transaction was attached. What it leads to later is among
the events that follow: a NOTIFY that finds no subscription is answered 481, and an older request
that is still pending is terminated by a timer. -/
def onNewTransaction (s : Evsub) (tsx : Nat) (t : EvTsx) (found : EvMatch) : Evsub × Bool :=
  if s.finds t found = false ∨ t.role = .uas ∧ s.state = .terminated then (s, false)
  else
    let s := { s with
      tsxs := s.tsxs.set tsx { t with attached := true }
      pendingTsx := s.pendingTsx + 1 }
    let s :=
      if t.role = .uac ∧ t.state = .calling ∧ s.subscribes t.method then
        { s with pendingSub := some tsx }
      else s
    (s, true)

/-- The time after which a client refreshes a subscription of so many seconds. -/
def refreshTime (expires : Nat) : Nat :=
  if expires > timeUacRefresh then expires - timeUacRefresh else expires

/-- The same, brought forward at random. -/
def earlyRefreshTime (expires rand : Nat) : Nat :=
  let timeout := refreshTime expires
  if timeout > 10 then timeout - 10 + rand % 10 else timeout

/-- A final status code, whatever the user has answered. -/
def clampCode (stCode : Nat) : Nat :=
  let stCode := if stCode ≥ 200 then stCode else 200
  if stCode ≤ 699 then stCode else 500

/-- A request is sent again with credentials; if it cannot be, the subscription is terminated. -/
def authenticate (s : Evsub) (info : EvInfo) (sending stateCb : Script) : Evsub :=
  let s := if info.created then sending s else s
  if info.created ∧ info.sent then s else s.setState .terminated stateCb

/-- A 2xx response to a SUBSCRIBE. -/
def onSubscribed (s : Evsub) (info : EvInfo) (stateCb : Script) : Evsub :=
  let s :=
    if s.expires ≠ 0 then { s with expires := info.expires.getD s.expires } else s
  let seconds := if s.expires ≠ 0 then earlyRefreshTime s.expires info.rand else timeUacTerminate
  let s := s.tell (.subscribed s.state seconds)
  let s := s.setTimer (if s.expires ≠ 0 then .uacRefresh else .uacTerminate) seconds
  if s.state = .sent then s.setState .accepted stateCb else s

/-- The first half of `on_tsx_state_uac`: an event of a SUBSCRIBE that was sent. -/
def onSubscribeTsx (s : Evsub) (tsx : Nat) (t : EvTsx) (info : EvInfo)
    (sending stateCb : Script) : Evsub :=
  if s.state = .null ∧ t.state = .calling then s.setState .sent stateCb
  else if t.state ≠ .completed ∧ t.state ≠ .terminated then s
  else if s.pendingSub ≠ some tsx ∧ s.pendingSub ≠ none then s
  else
    let s := { s with pendingSub := none }
    if t.statusCode = 401 ∨ t.statusCode = 407 then
      if t.state = .terminated then s else s.authenticate info sending stateCb
    else if t.statusCode / 100 = 2 then
      if t.state = .terminated then s else s.onSubscribed info stateCb
    else if s.state = .terminated then s
    -- 490: an older SUBSCRIBE was given up.
    else if t.statusCode = 490 then s
    else s.setState .terminated stateCb

/-- A response is created and sent. -/
def respond (s : Evsub) (info : EvInfo) (sending : Script) : Evsub × Bool :=
  if info.created then (sending s, info.sent) else (s, false)

/-- A NOTIFY that the user rejects, or that has no Subscription-State header. -/
def rejectNotify (s : Evsub) (info : EvInfo) (sending stateCb : Script) : Evsub :=
  let (s, sent) := s.respond info sending
  if sent then (s.tell (.rejected s.state)).setTimer .uacWaitNotify timeUacWaitNotify
  else s.setState .terminated stateCb

/-- The Subscription-State header has an expiration to go by. -/
def extendable (s : Evsub) (hdr : SubStateHdr) : Bool :=
  s.expires ≠ 0 ∧ hdr.expiresParam ≠ expiresNotSpecified
    ∧ (hdr.state = .active ∨ hdr.state = .pending)

/-- A NOTIFY with this header that the user accepts. -/
def acceptNotify (s : Evsub) (hdr : SubStateHdr) (info : EvInfo) (sending stateCb : Script) :
    Evsub :=
  let s :=
    if s.extendable hdr then
      (s.tell (.extended s.state (refreshTime hdr.expiresParam))).setTimer .uacRefresh
        (refreshTime hdr.expiresParam)
    else s
  let (s, sent) := s.respond info sending
  if sent then (s.tell (.notified s.state hdr.state)).setState hdr.state stateCb
  else s.setState .terminated stateCb

/-- The second half of `on_tsx_state_uac`: a NOTIFY that came in. -/
def onNotifyTsx (s : Evsub) (t : EvTsx) (info : EvInfo) (appCb sending stateCb : Script) : Evsub :=
  if t.state ≠ .trying then s
  else
    match info.subState with
    | none => s.rejectNotify info sending stateCb
    | some hdr =>
      let asked : Bool := s.user.onRxNotify && s.callCb
      let s := if asked then appCb s else s
      let stCode := if asked then clampCode info.stCode else 200
      if stCode ≥ 300 then s.rejectNotify info sending stateCb
      else s.acceptNotify hdr info sending stateCb

/-- `on_tsx_state_uac` -/
def onTsxStateUac (s : Evsub) (tsx : Nat) (t : EvTsx) (info : EvInfo)
    (stateCb appCb sending : Script) : Evsub :=
  if s.subscribes t.method then s.onSubscribeTsx tsx t info sending stateCb
  else if methodCmp t.method notifyMethod then s.onNotifyTsx t info appCb sending stateCb
  else s

/-- The answer to a refresh is being made: `calling_on_rx_refresh` is set. -/
def enterRefresh (s : Evsub) : Evsub :=
  { s with callingOnRxRefresh := true, refreshing := s.refreshing + 1 }

def leaveRefresh (s : Evsub) : Evsub :=
  { s with callingOnRxRefresh := false, refreshing := s.refreshing - 1 }

/-- The response to a refresh has been sent, or not: a subscription whose refresh was refused
goes back to the state it had before. -/
def settleRefresh (s : Evsub) (stCode : Nat) (old : EvsubState) (stateCb : Script) : Evsub :=
  if stCode / 100 = 2 then
    let s := if s.state = .null then s.setState s.state stateCb else s
    if s.state ≠ .terminated then s.setTimer .uasTimeout s.expires else s
  else (s.tell (.refused s.state old)).write old

/-- A refresh sets the expiration, at most to the one of its package. -/
def requestExpires (s : Evsub) (info : EvInfo) : Evsub :=
  match info.pkgExpires, info.expires with
  | some pkgExpires, some expires => { s with expires := min expires pkgExpires }
  | _, _ => s

/-- A refresh is accepted for the time being, or the client unsubscribes with it. -/
def beginRefresh (s : Evsub) (stateCb : Script) : Evsub :=
  if s.expires = 0 then s.setState .terminated stateCb
  else if s.state = .null then s.write .accepted
  else s

/-- A SUBSCRIBE that came in, in `on_tsx_state_uas`. -/
def onRefreshTsx (s : Evsub) (t : EvTsx) (info : EvInfo)
    (stateCb appCb sending notifySending notifyCb : Script) : Evsub :=
  if t.state ≠ .trying then s
  else
    let s := s.requestExpires info
    let old := s.state
    let s := s.enterRefresh.beginRefresh stateCb
    let asked : Bool := s.user.onRxRefresh && s.callCb
    let s := if asked then appCb s else s
    -- Nobody is refused to unsubscribe.
    let stCode := if asked ∧ s.expires ≠ 0 then info.stCode else 200
    let s := (s.leaveRefresh.respond info sending).1
    let s := s.settleRefresh (clampCode stCode) old stateCb
    if s.pendingNotify then
      { s.sendRequest notifyMethod info.notifySent notifySending notifyCb with
        pendingNotify := false }
    else s

/-- The response to a NOTIFY is one that terminates the subscription. -/
def endsSubscription (t : EvTsx) (info : EvInfo) : Bool :=
  match info.source with
  | .rx => t.statusCode = 481 || !info.retryAfter
  | .timer => t.statusCode = 408
  | _ => false

/-- An event of a NOTIFY that was sent, in `on_tsx_state_uas`. -/
def onNotifiedTsx (s : Evsub) (t : EvTsx) (info : EvInfo) (sending stateCb : Script) : Evsub :=
  if t.state = .completed ∧ (t.statusCode = 401 ∨ t.statusCode = 407) then
    if info.authRetry then s else s.authenticate info sending stateCb
  else if s.state = .terminated then s
  else if t.statusCode / 100 ≠ 2 ∧ endsSubscription t info then s.setState .terminated stateCb
  else s

/-- `on_tsx_state_uas` -/
def onTsxStateUas (s : Evsub) (t : EvTsx) (info : EvInfo)
    (stateCb appCb sending notifySending notifyCb : Script) : Evsub :=
  if s.subscribes t.method then
    s.onRefreshTsx t info stateCb appCb sending notifySending notifyCb
  else if methodCmp t.method notifyMethod then s.onNotifiedTsx t info sending stateCb
  else s

/-- The end of `mod_evsub_on_tsx_state`, for a transaction that is terminated. -/
def countOut (s : Evsub) (tsx : Nat) (t : EvTsx) : Evsub :=
  let s := { s with
    pendingTsx := s.pendingTsx - 1
    tsxs := s.tsxs.set tsx { t with finished := true } }
  let s := s.tell (.countedOut s.pendingTsx s.terminating)
  if s.state = .terminated ∧ s.pendingTsx = 0 then s.destroy else s

/-- The callbacks of an event: `on_tsx_state`, `on_evsub_state`, `on_rx_notify` or
`on_rx_refresh`, what happens while a message is sent, and the last two for a NOTIFY that was
kept back. -/
structure Scripts where
  tsxCb : Script
  stateCb : Script
  appCb : Script
  sending : Script
  notifySending : Script
  notifyCb : Script

/-- `mod_evsub_on_tsx_state` for an attached transaction, up to "Check transaction TERMINATE
event". -/
def processTsx (s : Evsub) (tsx : Nat) (info : EvInfo) (scripts : Scripts) : Evsub :=
  let s := if s.user.onTsxState ∧ s.callCb then scripts.tsxCb s else s
  match s.tsxs[tsx]?, s.role with
  | none, _ => s
  | some t, .uac => s.onTsxStateUac tsx t info scripts.stateCb scripts.appCb scripts.sending
  | some t, .uas =>
    s.onTsxStateUas t info scripts.stateCb scripts.appCb scripts.sending
      scripts.notifySending scripts.notifyCb

/-- "Check transaction TERMINATE event" -/
def endTsx (s : Evsub) (tsx : Nat) : Evsub :=
  match s.tsxs[tsx]? with
  | none => s
  | some t => if t.state = .terminated then s.countOut tsx t else s

/-- `mod_evsub_on_tsx_state` for an attached transaction. -/
def handleTsx (s : Evsub) (tsx : Nat) (info : EvInfo) (scripts : Scripts) : Evsub :=
  let s := ({ s with handling := tsx :: s.handling }.processTsx tsx info scripts).endTsx tsx
  { s with handling := s.handling.tail }

/-- The transaction is now `t`. -/
def moveTsx (s : Evsub) (tsx : Nat) (t : EvTsx) : Evsub :=
  let s := { s with tsxs := s.tsxs.set tsx t }
  if t.state = .terminated then s.tell (.ended (s.handling.contains tsx)) else s

/-- The transaction is attached, if it can be. -/
def attachTsx (s : Evsub) (tsx : Nat) (t : EvTsx) (found : EvMatch) : Evsub × Bool :=
  if t.attached then (s, true) else s.onNewTransaction tsx t found

/-- A transaction goes to this state; a terminated one stays so until it is destroyed. -/
def tsxState (s : Evsub) (tsx : Nat) (state : TsxState) (code : Nat) (info : EvInfo)
    (scripts : Scripts) : Evsub :=
  match s.tsxs[tsx]? with
  | none => s
  | some t =>
    if t.state.rank < TsxState.terminated.rank ∧ t.state.rank ≤ state.rank
        ∧ state.rank ≤ TsxState.terminated.rank then
      let t := { t with state, statusCode := code }
      let (s, attached) := (s.moveTsx tsx t).attachTsx tsx t info.found
      if attached then s.handleTsx tsx info scripts else s
    else s

/-- What the default of a timer callback meets with: whether its request is created and sent. -/
structure TimerRequest where
  created : Bool := true
  sent : Bool := true
  deriving DecidableEq, Repr

/-- `on_timer`, for the timer that is running. `appCb` is `on_client_refresh` or
`on_server_timeout`. -/
def onTimer (s : Evsub) (request : TimerRequest) (appCb sending stateCb : Script) : Evsub :=
  match s.timer with
  | none => s
  | some id =>
    let s := { s with timer := none }
    match id with
    | .uacRefresh =>
      if s.user.onClientRefresh ∧ s.callCb then appCb s
      else
        let s := s.initiate none s.expires request.created
        if request.created then s.sendRequest subscribeMethod request.sent sending stateCb
        else s
    | .uasTimeout =>
      if s.user.onServerTimeout ∧ s.callCb then appCb s
      else
        let s := s.notify .terminated request.created
        if request.created then s.sendRequest notifyMethod request.sent sending stateCb else s
    | .uacTerminate => s.setState .terminated stateCb
    | .uacWaitNotify =>
      let s := s.initiate none 0 request.created
      if request.created then s.sendRequest subscribeMethod request.sent sending stateCb else s

end Evsub

/-- A call of the subscription's functions, or something that happens to it. -/
inductive EvAct where
  | terminate (notify : Bool) (stateCb : List EvAct)
  | initiate (method : Option Method) (expires : Nat) (created : Bool)
  | notify (state : EvsubState) (created : Bool)
  | sendRequest (method : Method) (sent : Bool) (sending stateCb : List EvAct)
  | accept (tsx : Nat) (stCode : Nat) (created sent : Bool) (sending : List EvAct)
  | uasSetTimeout (seconds : Nat)
  /-- The dialog makes a transaction. -/
  | newTsx (role : Role) (method : Method)
  | tsxState (tsx : Nat) (state : TsxState) (code : Nat) (info : EvInfo)
      (tsxCb stateCb appCb sending notifySending notifyCb : List EvAct)
  | timer (request : Evsub.TimerRequest) (appCb sending stateCb : List EvAct)

mutual

/-- One call or event, with all that happens in it. -/
def EvAct.exec : EvAct → Script
  | .terminate telling stateCb => fun s => s.terminate telling (execAll stateCb)
  | .initiate method expires created => fun s => s.initiate method expires created
  | .notify state created => fun s => s.notify state created
  | .sendRequest method sent sending stateCb => fun s =>
    s.sendRequest method sent (execAll sending) (execAll stateCb)
  | .accept tsx stCode created sent sending => fun s =>
    s.accept tsx stCode created sent (execAll sending)
  | .uasSetTimeout seconds => fun s => s.uasSetTimeout seconds
  | .newTsx role method => fun s => { s with tsxs := s.tsxs ++ [{ role, method }] }
  | .tsxState tsx state code info tsxCb stateCb appCb sending notifySending notifyCb => fun s =>
    s.tsxState tsx state code info
      { tsxCb := execAll tsxCb
        stateCb := execAll stateCb
        appCb := execAll appCb
        sending := execAll sending
        notifySending := execAll notifySending
        notifyCb := execAll notifyCb }
  | .timer request appCb sending stateCb => fun s =>
    s.onTimer request (execAll appCb) (execAll sending) (execAll stateCb)

/-- One thing after the other. -/
def EvAct.execAll : List EvAct → Script
  | [] => id
  | act :: acts => fun s => execAll acts (act.exec s)

end

/-- A subscription as it is created: by `pjsip_evsub_create_uac`, with this expiration of its
package, or by `pjsip_evsub_create_uas` for the request of the first transaction. -/
inductive Evsub.Created : Evsub → Prop
  | uac (user : EvsubUser) (noEventId : Bool) (expires : Nat) (tsxs : List EvTsx)
      (fresh : ∀ t ∈ tsxs, t.attached = false ∧ t.finished = false) :
      Created {
        role := .uac, noEventId, user, method := subscribeMethod, expires, pendingTsx := 0, tsxs }
  | uas (user : EvsubUser) (noEventId : Bool) (expires : Nat) (method : Method) (tsxs : List EvTsx)
      (fresh : ∀ t ∈ tsxs, t.attached = false ∧ t.finished = false) :
      Created {
        role := .uas, noEventId, user, method, expires, pendingTsx := 1
        tsxs := { role := .uas, method, state := .trying, attached := true } :: tsxs }

end Pjsip.SipSimple
