import Pjsip.Base.Run
import Pjsip.SipUa.Timer.Entries

/-!
# The timers of an invite session

One side of a session: requests that come in and are answered at once or later, requests of its own
and the responses to them, and `timer_cb` when an entry is due. What the invite session does besides
is part of the event. Beside the timers the state holds the exchange under way and the last one that
was accepted.
-/

namespace Pjsip.SipUa.Timer

open Pjsip.Base Pjsip.Pjlib Pjsip.Sip

inductive Pending where
  /-- A request that `pjsip_timer_process_req` has taken, with the timers before that. -/
  | incoming (before : PjsipTimer) (req : Request)
  | outgoing (tdata : Nat) (method : Method)
  deriving DecidableEq, Repr

/-- What an accepted exchange has agreed on: the interval, and whether this side refreshes. -/
structure Accepted where
  time : Nat
  sessExpires : Nat
  asRefresher : Bool
  deriving DecidableEq, Repr

structure Session where
  options : InvOptions
  confirmed : Bool
  timer : PjsipTimer
  now : Nat
  nextTdata : Nat
  pending : Option Pending
  /-- The last accepted exchange, if it left the timers running. -/
  accepted : Option Accepted
  ended : Bool
  deriving DecidableEq, Repr

/-- Where the refresh request gets to. -/
inductive RefreshResult where
  | notCreated
  /-- The request has been made, the offer has not. -/
  | notReady
  | notSent
  | sent
  deriving DecidableEq, Repr

/-- What `timer_cb` finds in the invite session. -/
structure CbEnv where
  inviteTsx : Bool
  negDone : Bool
  result : RefreshResult
  deriving DecidableEq, Repr

inductive Outcome where
  | quiet
  /-- `timer_cb` ends the session because no refresh came in, or no response to one. -/
  | notRefreshed
  deriving DecidableEq, Repr

/-- `pjsip_endpt_schedule_timer`; an entry that the heap holds stays as it is. -/
def TimerEntry.schedule (entry : TimerEntry) (time : Nat) : TimerEntry :=
  if entry.due.isSome then entry else { entry with due := some time }

/-- The refresh cannot be sent now. -/
def refreshBusy (timer : PjsipTimer) (env : CbEnv) : Bool :=
  (!timer.useUpdate && (env.inviteTsx || !env.negDone))
    || (timer.useUpdate && timer.withSdp && !env.negDone)

/-- The refresh request of `timer_cb`. -/
def sendRefresh (s : Session) (result : RefreshResult) : Session :=
  let method := if s.timer.useUpdate then pjsipUpdateMethod else pjsipInviteMethod
  let timer := (pjsipTimerUpdateReq s.options s.timer ⟨method, none, none, none⟩).1
  match result with
  | .notCreated => s
  | .notReady => { s with timer }
  | .notSent =>
    { s with
      timer := { timer with refreshTdata := some s.nextTdata }
      nextTdata := s.nextTdata + 1 }
  | .sent =>
    { s with
      timer := { timer with refreshTdata := some s.nextTdata }
      nextTdata := s.nextTdata + 1
      pending := some (.outgoing s.nextTdata method) }

/-- `timer_cb`, for an entry with this id. -/
def timerCb (s : Session) (entryId : Nat) (env : CbEnv) : Session × Outcome :=
  if s.timer.asRefresher ∧ entryId ≠ refresherExpireTimerId then
    let timer := { s.timer with timer := { s.timer.timer with id := 0 } }
    if refreshBusy timer env then
      ({ s with timer := { timer with
          timer := TimerEntry.schedule { timer.timer with id := 1 } (s.now + 1) } }, .quiet)
    else (sendRefresh { s with timer } env.result, .quiet)
  else
    let timer :=
      if s.timer.asRefresher then
        { s.timer with expireTimer := { s.timer.expireTimer with id := 0 } }
      else { s.timer with timer := { s.timer.timer with id := 0 } }
    ({ s with timer := pjsipTimerEndSession timer, ended := true }, .notRefreshed)

/-- `pjsip_timer_handle_refresh_error` -/
def pjsipTimerHandleRefreshError (s : Session) (tdata stCode : Nat) : Session :=
  if s.options.supportTimer = false then s
  else if s.timer.active ∧ s.timer.asRefresher ∧ s.timer.refreshTdata = some tdata then
    if stCode = 503 then
      { s with timer := { s.timer with
          timer := TimerEntry.schedule { s.timer.timer with id := 1 } (s.now + 10) } }
    else { s with timer := pjsipTimerEndSession s.timer, ended := true }
  else s

/-- The exchange has been accepted, with what the timers have become. -/
def accept (s : Session) (timer : PjsipTimer) : Session :=
  { s with
    confirmed := true
    timer
    pending := none
    accepted :=
      if timer.active then some ⟨s.now, timer.setting.sessExpires, timer.asRefresher⟩ else none }

/-- A request comes in. Some are answered before the timers are looked at. -/
def rxRequest (s : Session) (req : Request) (reached : Bool) : Session :=
  if reached then
    match pjsipTimerProcessReq s.options s.timer req with
    | .ok timer => { s with timer, pending := some (.incoming s.timer req) }
    | .error _ => s
  else s

/-- The final response to the request that has come in. -/
def txResponse (s : Session) (res : Response) (update : Bool) : Option Session :=
  (pjsipTimerUpdateResp s.options update s.now s.timer res).map fun result =>
    if res.code / 100 = 2 then accept s result.1
    else { s with timer := result.1, pending := none }

def txRequest (s : Session) (method : Method) : Session :=
  { s with
    timer := (pjsipTimerUpdateReq s.options s.timer ⟨method, none, none, none⟩).1
    nextTdata := s.nextTdata + 1
    pending := some (.outgoing s.nextTdata method) }

/-- The invite session shows the timers these responses: of an INVITE only 2xx and 422, of an
UPDATE all but those that end the session or ask for credentials. -/
def shownResponse (res : Response) : Bool :=
  if res.method.id = .invite then res.code / 100 = 2 ∨ res.code = 422
  else !(res.code = 401 ∨ res.code = 407 ∨ res.code = 408 ∨ res.code = 481)

/-- The final response to the request of this side. -/
def rxResponse (s : Session) (tdata : Nat) (method : Method) (res : Response) (update : Bool)
    (env : CbEnv) : Option (Session × Outcome) :=
  if shownResponse res then
    match pjsipTimerProcessResp s.options s.confirmed update s.now s.timer res with
    | none => none
    | some (status, timer, action) =>
      if res.code / 100 = 2 then
        let s := accept s timer
        -- an INVITE without the timers that are required ends the session
        if status ≠ .success ∧ res.method.id = .invite then
          some ({ s with ended := true }, .quiet)
        else some (s, .quiet)
      else
        match action with
        | .resend _ _ => some ({ s with timer, pending := some (.outgoing tdata method) }, .quiet)
        | .callback =>
          let (s, outcome) := timerCb { s with timer, pending := none } timer.timer.id env
          if res.code = 502 ∨ res.code = 503 then
            some (pjsipTimerHandleRefreshError s tdata res.code, outcome)
          else some (s, outcome)
        | .nothing =>
          let s := { s with timer, pending := none }
          if res.code = 502 ∨ res.code = 503 then
            some (pjsipTimerHandleRefreshError s tdata res.code, .quiet)
          else some (s, .quiet)
  else
    let s := { s with pending := none }
    if res.code = 502 ∨ res.code = 503 then
      some (pjsipTimerHandleRefreshError s tdata res.code, .quiet)
    else some (s, .quiet)

inductive Entry where
  | timer | expireTimer
  deriving DecidableEq, Repr

def PjsipTimer.entry (timer : PjsipTimer) : Entry → TimerEntry
  | .timer => timer.timer
  | .expireTimer => timer.expireTimer

/-- The heap takes the entry out, and calls `timer_cb`. -/
def expires (s : Session) (entry : Entry) (env : CbEnv) : Session × Outcome :=
  let timer := match entry with
    | .timer => { s.timer with timer := { s.timer.timer with due := none } }
    | .expireTimer => { s.timer with expireTimer := { s.timer.expireTimer with due := none } }
  timerCb { s with timer } (s.timer.entry entry).id env

inductive Act where
  | tick (seconds : Nat)
  | rxRequest (req : Request) (reached : Bool)
  | txResponse (res : Response) (update : Bool)
  | txRequest (method : Method)
  | rxResponse (res : Response) (update : Bool) (env : CbEnv)
  | expires (entry : Entry) (env : CbEnv)
  /-- The invite session ends for its own reasons. -/
  | disconnect
  deriving DecidableEq, Repr

def sessionStep (s : Session) : Act → Option (Session × Outcome)
  | .tick seconds => some ({ s with now := s.now + seconds }, .quiet)
  | .rxRequest req reached => some (rxRequest s req reached, .quiet)
  | .txResponse res update => (txResponse s res update).map (·, .quiet)
  | .txRequest method => some (txRequest s method, .quiet)
  | .rxResponse res update env =>
    match s.pending with
    | some (.outgoing tdata method) => rxResponse s tdata method res update env
    | _ => none
  | .expires entry env => some (expires s entry env)
  | .disconnect => some ({ s with timer := pjsipTimerEndSession s.timer, ended := true }, .quiet)

def initSession (options : InvOptions) (timer : PjsipTimer) (now : Nat) : Session :=
  ⟨options, false, timer, now, 0, none, none, false⟩

end Pjsip.SipUa.Timer

/-!
# Timers that follow the accepted exchanges

Between exchanges, both entries are due no earlier than the last accepted one says, and the side
that refreshes is the one it names. A request that comes in changes the role and the timers
before it is known whether it will be accepted: as long as it is under way, the role that the
entries were scheduled for is the one from before the request.
-/

namespace Pjsip.SipUa.Timer

open Pjsip.Base Pjsip.Pjlib Pjsip.Sip

/-! ## What is wanted -/

/-- Who refreshes, whether the timers are active, and which entries are scheduled. -/
def view (timer : PjsipTimer) : Bool × Bool × Bool × Bool :=
  (timer.asRefresher, timer.active, timer.timer.due.isSome, timer.expireTimer.due.isSome)

/-- A rejected request leaves the view as it was: neither taking it nor the response changes
it. -/
def KeepsRejected (s : Session) (act : Act) (s' : Session) : Prop :=
  match act, s.pending with
  | .rxRequest _ _, none => s'.pending = none → view s'.timer = view s.timer
  | .txResponse res _, some (.incoming before req) =>
    res.code / 100 ≠ 2 →
      (∀ taken, pjsipTimerProcessReq s.options before req = .ok taken → view taken = view before)
        ∧ view s'.timer = view s.timer
  | _, _ => True

/-- The refreshee has waited until shortly before the interval is over, or the refresher for the
whole of it. -/
def Overdue (accepted : Option Accepted) (now : Nat) : Prop :=
  ∃ last, accepted = some last ∧ if last.asRefresher then last.time + last.sessExpires ≤ now
    else last.time + (last.sessExpires - min 32 (last.sessExpires / 3)) ≤ now

structure FollowsAccepted (s : Session) (act : Act) (s' : Session) (outcome : Outcome) : Prop where
  keeps : KeepsRejected s act s'
  tells : IdsTell s'.timer
  overdue : outcome = .notRefreshed → Overdue s.accepted s.now

/-! ## What is done with the session -/

/-- Exchanges do not overlap, and an entry does not fire before it is due. -/
def Legal (s : Session) (act : Act) : Prop :=
  s.ended = false ∧
  match act with
  | .tick _ => True
  | .rxRequest req _ => s.pending = none ∧ otherMethod req.method = false
  | .txResponse res _ => (∃ before req, s.pending = some (.incoming before req)) ∧ 200 ≤ res.code
  | .txRequest method => s.pending = none ∧ otherMethod method = false
  | .rxResponse res _ _ =>
    (∃ tdata, s.pending = some (.outgoing tdata res.method)) ∧ otherMethod res.method = false
      ∧ 200 ≤ res.code
  | .expires entry env =>
    (∃ due, (s.timer.entry entry).due = some due ∧ due ≤ s.now)
      ∧ (s.pending ≠ none → env.result ≠ .sent)
  | .disconnect => True

/-- To a taken request, this side refreshes if it did before. -/
def KeepsRole (timer : PjsipTimer) (req : Request) : Prop :=
  (requestRefresher timer req = .uas) ↔ timer.asRefresher = true

/-- Taking the request changes nothing that is in force: it has, or is given, an interval where
the timers are active, and keeps the roles; or it has none where they are not. -/
def Harmless (options : InvOptions) (timer : PjsipTimer) (req : Request) : Prop :=
  if req.sessExpires = none ∧ options.requireTimer = false ∧ options.alwaysUseTimer = false then
    timer.active = false ∧ timer.timer.due = none ∧ timer.expireTimer.due = none
  else timer.active = true ∧ KeepsRole timer req

/-- The response has an UPDATE tried again, as if it were a refresh. -/
def TriesAgain (timer : PjsipTimer) (res : Response) : Prop :=
  methodCmp res.method pjsipUpdateMethod ∧ 400 ≤ res.code ∧ res.code < 600 ∧ res.code ≠ 422
    ∧ shownResponse res ∧ timer.timer.id = 0 ∧ timer.useUpdate ∧ timer.withSdp = false

/-- No request is rejected that changes what is in force, nothing fires while such a request has
taken the role of the refresher away, and an UPDATE is tried again only by the refresher. -/
def Calm (s : Session) (act : Act) : Prop :=
  match act with
  | .txResponse res _ =>
    ∀ before req, s.pending = some (.incoming before req) → res.code / 100 ≠ 2 →
      Harmless s.options before req
  | .expires _ _ =>
    ∀ before req, s.pending = some (.incoming before req) → before.asRefresher = true →
      s.timer.asRefresher = true
  | .rxResponse res _ _ => TriesAgain s.timer res → s.timer.asRefresher = true
  | _ => True

/-! ## The invariant -/

/-- The role that the entries were scheduled for. -/
def roleInForce (s : Session) : Bool :=
  match s.pending with
  | some (.incoming before _) => before.asRefresher
  | _ => s.timer.asRefresher

/-- The entries go with the last accepted exchange. -/
structure Scheduled (role : Bool) (timer : PjsipTimer) (accepted : Option Accepted) : Prop where
  expire : ∀ due, timer.expireTimer.due = some due →
    role = true ∧ ∃ last, accepted = some last ∧ last.asRefresher = true
      ∧ last.time + last.sessExpires ≤ due
  refresh : ∀ due, timer.timer.due = some due → role = false →
    ∃ last, accepted = some last ∧ last.asRefresher = false
      ∧ last.time + (last.sessExpires - min 32 (last.sessExpires / 3)) ≤ due

/-- What a request that is under way has made of the timers. -/
def Taken (s : Session) : Prop :=
  ∀ before req, s.pending = some (.incoming before req) →
    otherMethod req.method = false ∧ IdsTell before
      ∧ (∃ taken, pjsipTimerProcessReq s.options before req = .ok taken
        ∧ s.timer.asRefresher = taken.asRefresher)
      ∧ (s.timer.active = false → s.timer.timer.due = none ∧ s.timer.expireTimer.due = none)

structure Inv (s : Session) : Prop where
  enabled : s.options.supportTimer = true
  tells : IdsTell s.timer
  ids : s.timer.timer.id ≠ refresherExpireTimerId
    ∧ (s.timer.expireTimer.id = 0 ∨ s.timer.expireTimer.id = refresherExpireTimerId)
  scheduled : Scheduled (roleInForce s) s.timer s.accepted
  taken : Taken s

end Pjsip.SipUa.Timer
