import Pjsip.Pjlib.TimeVal
import Pjsip.SipSimple.Evsub.Model

/-!
# NOTIFY requests and refreshes of a server subscription (`evsub.c`)

A NOTIFY is created for a state and passed to the subscription to be sent. The state waits in a
field of the subscription until the request has been sent, and a request that is passed while a
refresh is being answered waits in another one. Callbacks are lists of calls, as for `Evsub`; so are
the last fields not in the source.
-/

namespace Pjsip.SipSimple

open Pjsip.Pjlib Pjsip.Sip

/-- `evsub_state_names` -/
def evsubStateName : EvsubState → List UInt8
  | .null => ascii "NULL".toList
  | .sent => ascii "SENT".toList
  | .accepted => ascii "ACCEPTED".toList
  | .pending => ascii "PENDING".toList
  | .active => ascii "ACTIVE".toList
  | .terminated => ascii "TERMINATED".toList
  | .unknown => ascii "UNKNOWN".toList

/-- `sub_state` of the header that `sub_state_create` makes. -/
def subStateText (stateStr : List UInt8) : EvsubState → List UInt8
  | .null | .sent | .accepted | .pending => ascii "pending".toList
  | .active => ascii "active".toList
  | .terminated => ascii "terminated".toList
  | .unknown => stateStr

/-- A NOTIFY request. -/
structure NotifyRequest where
  state : EvsubState
  stateStr : Option (List UInt8)
  /-- `sub_state` of its Subscription-State header. -/
  subState : List UInt8
  deriving DecidableEq, Repr

/-- What a server subscription does. -/
inductive NotifierEvent where
  /-- A NOTIFY is created for this state. -/
  | created (state : EvsubState) (stateStr : Option (List UInt8))
  /-- A NOTIFY is passed; so many refreshes are being answered, `calling` is the flag that says
  so, `before` have been passed already, and `waiting` is kept back. -/
  | passed (id : Nat) (refreshing : Nat) (calling : Bool) (before : List Nat)
      (waiting : Option Nat)
  /-- It is handed to the dialog, while so many refreshes are being answered; if it has been kept
  back, `after` says whether the refresh has been responded to. -/
  | transmitted (id refreshing : Nat) (after : Option Bool)
  /-- It has been sent, and is to be applied; the state to be set is the one of `owner`. -/
  | applying (id : Nat) (owner : Option Nat)
  /-- It has been sent, and this is the state now. -/
  | sent (id : Nat) (state : EvsubState) (stateStr : List UInt8)
  /-- An assertion has failed. -/
  | asserted
  /-- A refresh comes in, while so many are being answered and `pendingNotify` is this. -/
  | refreshed (refreshing : Nat) (pendingNotify : Option Nat)
  /-- The response to it is handed to the dialog if it could be created, with `pendingNotify`. -/
  | responded (created : Bool) (pendingNotify : Option Nat)
  deriving DecidableEq, Repr

/-- The server side of `pjsip_evsub`. -/
structure Notifier where
  onEvsubState : Bool := true
  callCb : Bool := true
  state : EvsubState := .null
  stateStr : List UInt8 := evsubStateName .null
  /-- `PJSIP_EVSUB_STATE_NULL` if none is to be set. -/
  dstState : EvsubState := .null
  dstStateStr : List UInt8 := []
  /-- `expires->ivalue` -/
  expires : Nat
  refreshTime : PjTimeVal
  /-- The timer that is running, and its seconds. -/
  timer : Option (TimerType × Nat) := none
  callingOnRxRefresh : Bool := false
  /-- The number of a NOTIFY. -/
  pendingNotify : Option Nat := none
  /-- The NOTIFY requests, numbered as they were created. -/
  notifies : List NotifyRequest := []
  /-- How many refreshes are being answered by the user. -/
  refreshing : Nat := 0
  /-- The NOTIFY for which `dstState` has been set. -/
  owner : Option Nat := none
  /-- The NOTIFY that has been kept back and is still to be handed to the dialog. -/
  waiting : Option Nat := none
  /-- The refresh for which it has been kept back has been responded to. -/
  responded : Bool := false
  /-- The last one first. -/
  log : List NotifierEvent := []
  deriving DecidableEq, Repr

namespace NotifierEvent

/-- The NOTIFY that an event passes. -/
def passes : NotifierEvent → Option Nat
  | .passed id _ _ _ _ => some id
  | _ => none

/-- The NOTIFY that an event hands to the dialog. -/
def transmits : NotifierEvent → Option Nat
  | .transmitted id _ _ => some id
  | _ => none

end NotifierEvent

/-- A refresh as it comes in. -/
structure RefreshInfo where
  now : PjTimeVal
  /-- The Expires header. -/
  expires : Option Nat := none
  /-- `pkg_expires` of the package that the Event header names. -/
  pkgExpires : Option Nat := none
  /-- The answer of `on_rx_refresh`. -/
  stCode : Nat := 200
  /-- The response can be created. -/
  created : Bool := true
  /-- The NOTIFY that waits for the response can be sent. -/
  notifySent : Bool := true
  deriving DecidableEq, Repr

namespace Notifier

/-- What happens while a subscription waits for something. -/
abbrev Script := Notifier → Notifier

def tell (s : Notifier) (event : NotifierEvent) : Notifier := { s with log := event :: s.log }

/-- The requests that have been passed to `pjsip_evsub_send_request`, the last one first. -/
def passed (s : Notifier) : List Nat := s.log.filterMap NotifierEvent.passes

def transmitted (s : Notifier) : List Nat := s.log.filterMap NotifierEvent.transmits

/-- `update_expires` -/
def updateExpires (s : Notifier) (now : PjTimeVal) (interval : Nat) : Notifier :=
  { s with refreshTime := { now with sec := now.sec + interval } }

/-- `set_timer` -/
def setTimer (s : Notifier) (id : TimerType) (seconds : Nat) : Notifier :=
  { s with timer := if seconds ≠ expiresNotSpecified then some (id, seconds) else none }

def writeState (s : Notifier) (state : EvsubState) (stateStr : List UInt8) : Notifier :=
  { s with
    state
    stateStr := if stateStr ≠ [] then stateStr else evsubStateName state }

/-- The rest of `set_state`: the user is told of the state, and a timer is stopped if it has
become Terminated. -/
def tellState (s : Notifier) (old : EvsubState) (stateCb : Script) : Notifier :=
  let new := s.state
  let s := if s.onEvsubState ∧ s.callCb then stateCb s else s
  if new = .terminated ∧ old ≠ .terminated then { s with timer := none } else s

/-- `set_state`; no text is an empty one. -/
def setState (s : Notifier) (state : EvsubState) (stateStr : List UInt8) (stateCb : Script) :
    Notifier :=
  (s.writeState state stateStr).tellState s.state stateCb

/-- `pjsip_evsub_notify`; `created` if the request could be made. -/
def notify (s : Notifier) (state : EvsubState) (stateStr : Option (List UInt8)) (created : Bool) :
    Notifier :=
  if created then
    let s := s.tell (.created state stateStr)
    let s :=
      if state = .null ∨ state = .sent ∨ state = .unknown ∧ stateStr = none then s.tell .asserted
      else s
    { s with
      notifies := s.notifies ++ [⟨state, stateStr, subStateText (stateStr.getD []) state⟩]
      dstState := state
      dstStateStr := stateStr.getD []
      owner := some s.notifies.length }
  else s

/-- `pjsip_evsub_current_notify` -/
def currentNotify (s : Notifier) (created : Bool) : Notifier :=
  s.notify s.state (some s.stateStr) created

/-- "The new state was set in pjsip_evsub_notify(), but we apply the new state now" -/
def applyDst (s : Notifier) (id : Nat) (stateCb : Script) : Notifier :=
  if s.dstState = .null then s.tell .asserted
  else
    let old := s.state
    let s := s.writeState s.dstState s.dstStateStr
    let s := (s.tell (.sent id s.state s.stateStr)).tellState old stateCb
    { s with dstState := .null, dstStateStr := [], owner := none }

/-- The NOTIFY has been sent. -/
def applyNotify (s : Notifier) (id : Nat) (stateCb : Script) : Notifier :=
  (s.tell (.applying id s.owner)).applyDst id stateCb

/-- `pjsip_evsub_send_request` for a NOTIFY, after it was decided to send it now. `sending` is
what happens in `pjsip_dlg_send_request`, which returns `sent`. -/
def transmit (s : Notifier) (id : Nat) (after : Option Bool) (sent : Bool)
    (sending stateCb : Script) : Notifier :=
  let s := sending (s.tell (.transmitted id s.refreshing after))
  if sent then s.applyNotify id stateCb else s

/-- A NOTIFY waits for the response to a refresh. -/
def keepBack (s : Notifier) (id : Nat) : Notifier :=
  { s with pendingNotify := some id, waiting := some id, responded := false }

/-- `pjsip_evsub_send_request` for a NOTIFY, as the user calls it. -/
def sendNotify (s : Notifier) (id : Nat) (sent : Bool) (sending stateCb : Script) : Notifier :=
  let s := s.tell (.passed id s.refreshing s.callingOnRxRefresh s.passed s.waiting)
  if s.callingOnRxRefresh then s.keepBack id else s.transmit id none sent sending stateCb

/-- A refresh sets the expiration, at most to the one of its package. -/
def requestExpires (s : Notifier) (info : RefreshInfo) : Notifier :=
  match info.pkgExpires, info.expires with
  | some pkgExpires, some expires => { s with expires := min expires pkgExpires }
  | _, _ => s

/-- A refresh is accepted for the time being, or the client unsubscribes with it. -/
def beginRefresh (s : Notifier) (stateCb : Script) : Notifier :=
  if s.expires = 0 then s.setState .terminated [] stateCb
  else if s.state = .null then s.writeState .accepted []
  else s

/-- The response to a refresh has been sent: the timer is set, or the subscription goes back to
the state that it had. -/
def settleRefresh (s : Notifier) (stCode : Nat) (old : EvsubState) (oldStr : List UInt8)
    (stateCb : Script) : Notifier :=
  if stCode / 100 = 2 then
    let s := if s.state = .null then s.setState s.state [] stateCb else s
    if s.state ≠ .terminated then s.setTimer .uasTimeout s.expires else s
  else { s with state := old, stateStr := oldStr }

/-- The NOTIFY that has been kept back is sent. -/
def sendPending (s : Notifier) (sent : Bool) (sending stateCb : Script) : Notifier :=
  match s.pendingNotify with
  | none => s
  | some id =>
    -- `calling_on_rx_refresh` may have been set again meanwhile.
    let s :=
      if s.callingOnRxRefresh then s.keepBack id
      else { s with waiting := none }.transmit id (some s.responded) sent sending stateCb
    { s with pendingNotify := none }

/-- The callbacks of a refresh: `on_evsub_state`, `on_rx_refresh`, what happens while the response
is sent, and while the NOTIFY is sent that was kept back, and `on_evsub_state` for that. -/
structure RefreshScripts where
  stateCb : Script
  appCb : Script
  responding : Script
  sending : Script
  notifyCb : Script

/-- `calling_on_rx_refresh` is set. -/
def enterRefresh (s : Notifier) : Notifier :=
  { s with callingOnRxRefresh := true, refreshing := s.refreshing + 1 }

def leaveRefresh (s : Notifier) : Notifier :=
  { s with callingOnRxRefresh := false, refreshing := s.refreshing - 1 }

/-- The user is asked for a status code. -/
def askUser (s : Notifier) (info : RefreshInfo) (scripts : RefreshScripts) : Notifier × Nat :=
  let s := s.beginRefresh scripts.stateCb
  let asked := s.callCb
  let s := if asked then scripts.appCb s else s
  -- Nobody is refused to unsubscribe.
  (s, if asked ∧ s.expires ≠ 0 then info.stCode else 200)

/-- The refresh is responded to, and the state updated or taken back. -/
def respond (s : Notifier) (info : RefreshInfo) (stCode : Nat) (old : EvsubState)
    (oldStr : List UInt8) (scripts : RefreshScripts) : Notifier :=
  let s := { s.tell (.responded info.created s.pendingNotify) with responded := info.created }
  let s := if info.created then scripts.responding s else s
  s.settleRefresh stCode old oldStr scripts.stateCb

/-- `on_tsx_state_uas` for a refresh that comes in, after "Update time". -/
def answer (s : Notifier) (info : RefreshInfo) (scripts : RefreshScripts) : Notifier :=
  let asked := s.enterRefresh.askUser info scripts
  let answered :=
    asked.1.leaveRefresh.respond info (Evsub.clampCode asked.2) s.state s.stateStr scripts
  answered.sendPending info.notifySent scripts.sending scripts.notifyCb

/-- `on_tsx_state_uas` for a refresh that comes in. -/
def onRefresh (s : Notifier) (info : RefreshInfo) (scripts : RefreshScripts) : Notifier :=
  let s := (s.tell (.refreshed s.refreshing s.pendingNotify)).requestExpires info
  (s.updateExpires info.now s.expires).answer info scripts

end Notifier

/-- A call of a server subscription's functions, or something that happens to it. -/
inductive NotifierAct where
  | notify (state : EvsubState) (stateStr : Option (List UInt8)) (created : Bool)
  | currentNotify (created : Bool)
  /-- `pjsip_evsub_send_request` for the NOTIFY of this number. -/
  | sendNotify (id : Nat) (sent : Bool) (sending stateCb : List NotifierAct)
  | refresh (info : RefreshInfo) (stateCb appCb responding sending notifyCb : List NotifierAct)
  /-- `pjsip_evsub_accept`, when its response has been sent. -/
  | accept
  | uasSetTimeout (seconds : Nat)
  | terminate (notify : Bool) (stateCb : List NotifierAct)
  /-- A NOTIFY fails for good. -/
  | notifyFailed (stateCb : List NotifierAct)
  /-- The timer expires; what the user's callback does then, or its default, comes next. -/
  | timer
  deriving Repr

mutual

/-- One call or event, with all that happens in it. -/
def NotifierAct.exec : NotifierAct → Notifier.Script
  | .notify state stateStr created => fun s => Notifier.notify s state stateStr created
  | .currentNotify created => fun s => Notifier.currentNotify s created
  | .sendNotify id sent sending stateCb => fun s =>
    Notifier.sendNotify s id sent (execAll sending) (execAll stateCb)
  | .refresh info stateCb appCb responding sending notifyCb => fun s =>
    s.onRefresh info
      { stateCb := execAll stateCb
        appCb := execAll appCb
        responding := execAll responding
        sending := execAll sending
        notifyCb := execAll notifyCb }
  | .accept => fun s =>
    if s.state ≠ .terminated then s.setTimer .uasTimeout s.expires else s
  | .uasSetTimeout seconds => fun s => s.setTimer .uasTimeout seconds
  | .terminate telling stateCb => fun s =>
    { s with callCb := telling }.setState .terminated [] (execAll stateCb)
  | .notifyFailed stateCb => fun s =>
    if s.state = .terminated then s else s.setState .terminated [] (execAll stateCb)
  | .timer => fun s => { s with timer := none }

/-- One thing after the other. -/
def NotifierAct.execAll : List NotifierAct → Notifier.Script
  | [] => id
  | act :: acts => fun s => execAll acts (act.exec s)

end

/-- A server subscription as `pjsip_evsub_create_uas` makes it. -/
def Notifier.create (onEvsubState : Bool) (expires : Nat) (now : PjTimeVal) : Notifier :=
  { onEvsubState
    expires
    refreshTime := { now with sec := now.sec + expires } }

end Pjsip.SipSimple
