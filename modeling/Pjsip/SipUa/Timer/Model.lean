import Pjsip.Sip.Method

/-!
# Session timers (`sip_timer.c`)

The part of RFC 4028 that each side of a session runs: the headers of its own INVITE and UPDATE
requests, the requests of the other side, the responses in both directions, and two timers. Who
refreshes is kept as the UAC or the UAS of the latest exchange, next to the role of this side in it.
Times are in seconds.
-/

namespace Pjsip.SipUa.Timer

open Pjsip.Pjlib Pjsip.Sip

/-- `timer_refresher` -/
inductive TimerRefresher where
  | unknown | uac | uas
  deriving DecidableEq, Repr

/-- The options of the invite session that are looked at. -/
structure InvOptions where
  supportTimer : Bool
  requireTimer : Bool
  alwaysUseTimer : Bool
  deriving DecidableEq, Repr

/-- `pjsip_timer_setting` -/
structure TimerSetting where
  minSe : Nat
  sessExpires : Nat
  deriving DecidableEq, Repr

/-- `pj_timer_entry`; `due` is the time that the timer heap holds it for, if it does. -/
structure TimerEntry where
  id : Nat
  due : Option Nat
  deriving DecidableEq, Repr

/-- `pjsip_timer`; `refreshTdata` is the number of a message. -/
structure PjsipTimer where
  active : Bool
  setting : TimerSetting
  refresher : TimerRefresher
  lastRefresh : Nat
  timer : TimerEntry
  useUpdate : Bool
  withSdp : Bool
  role : Role
  refreshTdata : Option Nat
  expireTimer : TimerEntry
  last422Cseq : Int32
  deriving DecidableEq, Repr

/-! ## Messages -/

/-- `pjsip_sess_expires_hdr` -/
structure SessExpiresHdr where
  sessExpires : Nat
  refresher : List UInt8
  deriving DecidableEq, Repr

def strUac : List UInt8 := ascii ['u', 'a', 'c']

def strUas : List UInt8 := ascii ['u', 'a', 's']

def strTimer : List UInt8 := ascii ['t', 'i', 'm', 'e', 'r']

def pjsipInviteMethod : Method := ⟨.invite, ascii ['I', 'N', 'V', 'I', 'T', 'E']⟩

def pjsipUpdateMethod : Method := ⟨.other, ascii ['U', 'P', 'D', 'A', 'T', 'E']⟩

/-- What is read of a request, or written to it. -/
structure Request where
  method : Method
  sessExpires : Option SessExpiresHdr
  minSe : Option Nat
  supported : Option (List (List UInt8))
  deriving DecidableEq, Repr

/-- What is read of a response, or written to it. -/
structure Response where
  code : Nat
  method : Method
  cseq : Int32
  sessExpires : Option SessExpiresHdr
  minSe : Option Nat
  require : Option (List (List UInt8))
  deriving DecidableEq, Repr

/-- Neither an INVITE nor an UPDATE. -/
def otherMethod (method : Method) : Bool :=
  method.id ≠ .invite && !methodCmp method pjsipUpdateMethod

inductive TimerStatus where
  | success | einval | etoosmall | einvalidstatus | emissinghdr
  /-- `PJSIP_ERRNO_FROM_SIP_STATUS` -/
  | sip (code : Nat)
  deriving DecidableEq, Repr

/-! ## Settings -/

def absMinSe : Nat := 90

/-- `pjsip_timer_setting_default` -/
def pjsipTimerSettingDefault : TimerSetting := ⟨absMinSe, 1800⟩

/-- The timer reset to 0, with its setting. -/
def resetTimer (setting : TimerSetting) : PjsipTimer :=
  ⟨false, setting, .unknown, 0, ⟨0, none⟩, false, false, .uac, none, ⟨0, none⟩, 0⟩

/-- `pjsip_timer_init_session`; where the source finds no timer, it comes here without a
setting. -/
def pjsipTimerInitSession (setting : Option TimerSetting) : Except TimerStatus PjsipTimer :=
  match setting with
  | some setting =>
    if setting.minSe < absMinSe then .error .etoosmall
    else if setting.sessExpires < setting.minSe then .error .einval
    else .ok (resetTimer setting)
  | none => .ok (resetTimer pjsipTimerSettingDefault)

/-- This side is to refresh the session. -/
def PjsipTimer.asRefresher (timer : PjsipTimer) : Bool :=
  (timer.refresher = .uac ∧ timer.role = .uac) ∨ (timer.refresher = .uas ∧ timer.role = .uas)

/-- The Session-Expires header of `add_timer_headers`. -/
def addSessExpires (timer : PjsipTimer) : SessExpiresHdr where
  sessExpires := timer.setting.sessExpires
  refresher := match timer.refresher with
    | .unknown => []
    | .uac => strUac
    | .uas => strUas

/-! ## Starting and stopping -/

def refresherExpireTimerId : Nat := 2

/-- `stop_timer` -/
def stopTimer (timer : PjsipTimer) : PjsipTimer :=
  let timer := if timer.timer.id ≠ 0 then { timer with timer := ⟨0, none⟩ } else timer
  if timer.expireTimer.id ≠ 0 then { timer with expireTimer := ⟨0, none⟩ } else timer

/-- `PJ_MAX(sess_expires - 32, sess_expires - sess_expires/3)` -/
def expireDelay (sessExpires : Nat) : Nat := max (sessExpires - 32) (sessExpires - sessExpires / 3)

/-- `start_timer`; `update` tells whether the other side takes UPDATE. No result stands for the
assertion, and for the initialisation of an entry that the timer heap holds. -/
def startTimer (update : Bool) (now : Nat) (timer : PjsipTimer) : Option PjsipTimer :=
  if timer.active = false then none
  else
    let timer := stopTimer timer
    let timer := { timer with useUpdate := update, withSdp := timer.withSdp || !update }
    if timer.timer.due.isSome then none
    else if timer.asRefresher then
      if timer.expireTimer.due.isSome then none
      else some { timer with
        expireTimer := ⟨refresherExpireTimerId, some (now + timer.setting.sessExpires)⟩
        timer := ⟨1, some (now + timer.setting.sessExpires / 2)⟩
        lastRefresh := now }
    else some { timer with
      timer := ⟨1, some (now + expireDelay timer.setting.sessExpires)⟩
      lastRefresh := now }

/-- `pjsip_timer_end_session` -/
def pjsipTimerEndSession (timer : PjsipTimer) : PjsipTimer :=
  stopTimer { timer with active := false }

/-! ## Requests -/

/-- The timer's part of `pjsip_timer_update_req`: the roles are those of the new exchange. -/
def takeUacRole (timer : PjsipTimer) : PjsipTimer :=
  if timer.refresher ≠ .unknown then
    { timer with role := .uac, refresher := if timer.asRefresher then .uac else .uas }
  else timer

/-- `pjsip_timer_update_req` -/
def pjsipTimerUpdateReq (options : InvOptions) (timer : PjsipTimer) (req : Request) :
    PjsipTimer × Request :=
  if options.supportTimer = false then (timer, req)
  else
    let timer := takeUacRole timer
    (timer, { req with
      sessExpires := some (addSessExpires timer)
      minSe := some timer.setting.minSe })

/-- The refresher that `pjsip_timer_process_req` comes to. -/
def requestRefresher (timer : PjsipTimer) (req : Request) : TimerRefresher :=
  let named (refresher : List UInt8) : Bool :=
    match req.sessExpires with
    | some hdr => stricmp hdr.refresher refresher = 0
    | none => false
  if named strUac then .uac
  else if named strUas then .uas
  else if timer.refresher ≠ .unknown then if timer.asRefresher then .uas else .uac
  else
    let uacSupportsTimer := (req.supported.getD []).any fun value => stricmp value strTimer = 0
    if uacSupportsTimer ∧ req.sessExpires.isSome then .uac else .uas

/-- `pjsip_timer_process_req`; an error is the status to answer with. -/
def pjsipTimerProcessReq (options : InvOptions) (timer : PjsipTimer) (req : Request) :
    Except Nat PjsipTimer :=
  if options.supportTimer = false then .ok timer
  else if otherMethod req.method then .ok timer
  else
    let minSe := max (req.minSe.getD 0) timer.setting.minSe
    let update (sessExpires : Nat) : PjsipTimer := { timer with
      setting := { timer.setting with sessExpires }
      refresher := requestRefresher timer req
      role := .uas
      active := true }
    match req.sessExpires with
    | some hdr => if hdr.sessExpires < minSe then .error 422 else .ok (update hdr.sessExpires)
    | none =>
      let sessExpires := max timer.setting.sessExpires minSe
      if options.requireTimer = false ∧ options.alwaysUseTimer = false then
        .ok (pjsipTimerEndSession { timer with setting := { timer.setting with sessExpires } })
      else .ok (update sessExpires)

/-- The Require header that `pjsip_timer_update_resp` leaves; whatever is not `timer` counts as
`timer` in it. -/
def requireTimer (require : Option (List (List UInt8))) : List (List UInt8) :=
  match require with
  | none => [strTimer]
  | some values =>
    if values.any fun value => stricmp value strTimer ≠ 0 then values else values ++ [strTimer]

/-- `pjsip_timer_update_resp` -/
def pjsipTimerUpdateResp (options : InvOptions) (update : Bool) (now : Nat) (timer : PjsipTimer)
    (res : Response) : Option (PjsipTimer × Response) :=
  if options.supportTimer = false then some (timer, res)
  else if res.code / 100 = 2 then
    if timer.active then
      let res := { res with
        sessExpires := some (addSessExpires timer)
        require :=
          if timer.refresher = .uac then some (requireTimer res.require) else res.require }
      (startTimer update now timer).map (·, res)
    else some (timer, res)
  else if res.code = 422 then some (timer, { res with minSe := some timer.setting.minSe })
  else some (timer, res)

/-! ## Responses -/

/-- What `pjsip_timer_process_resp` has the invite session do. -/
inductive RespAction where
  | nothing
  /-- The request is sent again with these headers. -/
  | resend (sessExpires : SessExpiresHdr) (minSe : Nat)
  /-- `timer_cb` is called. -/
  | callback
  deriving DecidableEq, Repr

/-- The 422 branch of `pjsip_timer_process_resp`. -/
def processTooSmall (confirmed : Bool) (timer : PjsipTimer) (res : Response) :
    TimerStatus × PjsipTimer × RespAction :=
  match res.minSe with
  | none => (.emissinghdr, pjsipTimerEndSession timer, .nothing)
  | some minSe =>
    -- a request that is already the second one is not sent again
    if res.cseq = timer.last422Cseq + 1 then
      (if confirmed then .success else .sip 422, timer, .nothing)
    else
      let minSe := max minSe timer.setting.minSe
      let timer := { timer with
        last422Cseq := res.cseq
        setting := ⟨minSe, max timer.setting.sessExpires minSe⟩ }
      (.success, timer, .resend (addSessExpires timer) timer.setting.minSe)

/-- The setting after a 2xx with this Session-Expires header. -/
def acceptedSetting (setting : TimerSetting) (hdr : Option SessExpiresHdr) : TimerSetting :=
  match hdr with
  | none => setting
  | some hdr =>
    let setting := if hdr.sessExpires < setting.minSe ∧ absMinSe ≤ hdr.sessExpires then
      ⟨hdr.sessExpires, hdr.sessExpires⟩ else setting
    if hdr.sessExpires ≤ setting.sessExpires ∧ setting.minSe ≤ hdr.sessExpires then
      { setting with sessExpires := hdr.sessExpires } else setting

/-- The refresher after a 2xx with this Session-Expires header. -/
def acceptedRefresher (hdr : Option SessExpiresHdr) : TimerRefresher :=
  match hdr with
  | none => .uac
  | some hdr =>
    if stricmp hdr.refresher strUac = 0 then .uac
    else if stricmp hdr.refresher strUas = 0 then .uas
    else .uac

/-- The 2xx branch of `pjsip_timer_process_resp`. -/
def processAccepted (options : InvOptions) (update : Bool) (now : Nat) (timer : PjsipTimer)
    (res : Response) : Option (TimerStatus × PjsipTimer × RespAction) :=
  if res.sessExpires = none ∧ options.requireTimer then
    some (.sip 421, pjsipTimerEndSession timer, .nothing)
  else if res.sessExpires = none ∧ options.alwaysUseTimer = false then
    some (.success, pjsipTimerEndSession timer, .nothing)
  else
    (startTimer update now { timer with
      setting := acceptedSetting timer.setting res.sessExpires
      refresher := acceptedRefresher res.sessExpires
      role := .uac
      active := true }).map (.success, ·, .nothing)

/-- `pjsip_timer_process_resp`; `confirmed` is the state of the session. -/
def pjsipTimerProcessResp (options : InvOptions) (confirmed update : Bool) (now : Nat)
    (timer : PjsipTimer) (res : Response) : Option (TimerStatus × PjsipTimer × RespAction) :=
  if options.supportTimer = false then
    some (if res.code = 422 then .einvalidstatus else .success, timer, .nothing)
  else if otherMethod res.method then some (.success, timer, .nothing)
  else if res.code = 422 then some (processTooSmall confirmed timer res)
  else if res.code / 100 = 2 then processAccepted options update now timer res
  else if methodCmp res.method pjsipUpdateMethod ∧ 400 ≤ res.code ∧ res.code < 600 then
    -- an UPDATE without SDP is tried again with SDP
    if timer.timer.id = 0 ∧ timer.useUpdate ∧ timer.withSdp = false then
      some (.success, { timer with withSdp := true }, .callback)
    else some (.success, timer, .nothing)
  else some (.success, timer, .nothing)

end Pjsip.SipUa.Timer
