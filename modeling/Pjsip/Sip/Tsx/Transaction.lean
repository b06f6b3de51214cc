import Pjsip.Errno
import Pjsip.Sip.Method
import Mathlib.Data.List.Basic

/-!
# A transaction (`pjsip_transaction`)

The state of one transaction, its two timers and what its transport does with its messages.
What the transports and the resolver do is up to the environment: every attempt to send comes
with their answers, the calls they make before they return included.
-/

namespace Pjsip.Sip

/-- `pjsip_tsx_state_e` -/
inductive TsxState where
  | null | calling | trying | proceeding | completed | confirmed | terminated | destroyed
  deriving DecidableEq, Repr

/-- The number of a state. -/
def TsxState.rank : TsxState → Nat
  | .null => 0
  | .calling => 1
  | .trying => 2
  | .proceeding => 3
  | .completed => 4
  | .confirmed => 5
  | .terminated => 6
  | .destroyed => 7

/-- The `id` of a timer entry. -/
inductive TimerId where
  | inactive | retransmit | timeout | transportErr | transportDisc | terminate
  deriving DecidableEq, Repr

/-- `pj_timer_entry`, with the delay it is scheduled for. -/
structure TimerEntry where
  id : TimerId := .inactive
  delay : Option Nat := none
  deriving DecidableEq, Repr

/-- `pj_timer_entry_running` -/
def TimerEntry.running (entry : TimerEntry) : Bool := entry.delay.isSome

/-- `tsx_schedule_timer`: an entry that is running stays as it is. -/
def TimerEntry.schedule (entry : TimerEntry) (delay : Nat) (id : TimerId) : TimerEntry :=
  if entry.running then entry else ⟨id, some delay⟩

/-- `tsx_cancel_timer` -/
def TimerEntry.cancel (entry : TimerEntry) : TimerEntry := if entry.running then {} else entry

/-- The times of `pjsip_cfg` in milliseconds, and `max_retrans_count` unless it is -1. -/
structure TsxCfg where
  t1 : Nat
  t2 : Nat
  t4 : Nat
  td : Nat
  /-- `timeout_timer_val` -/
  timeout : Nat
  maxRetransCount : Option Nat

/-- A message, as far as a transaction looks at it. -/
inductive Msg where
  | request (method : MethodId)
  /-- A response with its status code and the method of its CSeq header. -/
  | response (code : Nat) (cseqMethod : MethodId)
  deriving DecidableEq, Repr

def Msg.isRequest : Msg → Bool
  | .request _ => true
  | .response _ _ => false

/-- `pjsip_tx_data` -/
structure TxData where
  id : Nat
  msg : Msg
  deriving DecidableEq, Repr

abbrev Fault := { status : SipStatus // status ≠ .success }

structure Transport where
  id : Nat
  reliable : Bool
  /-- `is_shutdown` or `is_destroying` -/
  closing : Bool
  deriving DecidableEq, Repr

/-- What a stateless send reports to `send_msg_callback`. -/
inductive Outcome where
  | sent (transport : Transport)
  /-- Failed on a transport, if one was found; `cont` if there is another server to try. -/
  | failed (error : Fault) (transport : Option Nat) (cont : Bool)

/-- No report follows this one. -/
def Outcome.final : Outcome → Bool
  | .sent _ => true
  | .failed _ _ cont => !cont

/-- The answer of `pjsip_transport_send`. -/
inductive Direct where
  | sent | pending
  | error (error : Fault)

/-- The answer of `pjsip_endpt_send_request_stateless` and `pjsip_endpt_send_response`: an
error, or what was reported before they returned. -/
inductive Stateless where
  | refused (error : Fault)
  | begun (reports : List Outcome)

/-- What an attempt to send meets with. -/
structure Attempt where
  /-- `tdata->is_pending` -/
  isPending : Bool
  direct : Direct
  stateless : Stateless

/-- Nothing is known yet when the functions return. -/
def Attempt.waiting : Attempt := ⟨false, .pending, .begun []⟩

/-- A send that will be reported later. -/
inductive Flight where
  /-- By `transport_callback`. -/
  | direct
  /-- By `send_msg_callback`. -/
  | stateless (tdata : TxData)
  deriving DecidableEq

/-- `pjsip_transaction` -/
structure Tsx where
  role : Role
  method : MethodId
  statusCode : Nat := 0
  state : TsxState := .null
  /-- `handle_200resp` -/
  handle200resp : Bool := true
  /-- `tsx_user` is there. -/
  hasUser : Bool := true
  transport : Option Transport := none
  isReliable : Bool
  /-- The flags of `transport_flag`. -/
  pendingTransport : Bool := false
  pendingResched : Bool := false
  pendingSend : Bool := false
  pendingDestroy : Bool := false
  resolvedServer : Bool := false
  transportErr : SipStatus := .success
  pendingTx : Option Nat := none
  lastTx : Option TxData := none
  retransmitCount : Nat := 0
  retransmitTimer : TimerEntry := {}
  timeoutTimer : TimerEntry := {}
  /-- The transmit data whose `mod_data` is this transaction. -/
  attached : List Nat := []
  /-- The sends that are still to be reported. -/
  inFlight : List Flight := []
  /-- The calls of `tsx_set_state`, the last one first: the state before, and the new one. -/
  moves : List (TsxState × TsxState) := []
  /-- The states that the transaction user was told of, the last one first. -/
  told : List TsxState := []

namespace Tsx

/-- `tdata->mod_data[..] = NULL` -/
def detach (tsx : Tsx) (id : Nat) : Tsx := { tsx with attached := tsx.attached.filter (· ≠ id) }

/-- The timeout timer is cancelled, and scheduled again. -/
def restartTimeout (tsx : Tsx) (delay : Nat) (id : TimerId) : Tsx :=
  { tsx with timeoutTimer := tsx.timeoutTimer.cancel.schedule delay id }

def cancelRetransmit (tsx : Tsx) : Tsx := { tsx with retransmitTimer := tsx.retransmitTimer.cancel }

/-- The retransmission timer is started, or will be when the transport is known. -/
def startRetransmit (tsx : Tsx) (delay : Nat) : Tsx :=
  if tsx.pendingTransport then { tsx with pendingResched := true }
  else { tsx with retransmitTimer := tsx.retransmitTimer.schedule delay .retransmit }

/-- `tsx_tp_state_callback`, for a transport that was disconnected. -/
def disconnected (tsx : Tsx) (status : SipStatus) : Tsx :=
  let tsx := { tsx with transportErr := status }
  if tsx.state.rank < TsxState.completed.rank then tsx.restartTimeout 0 .transportDisc else tsx

/-- `PJSIP_SC_TSX_TRANSPORT_ERROR`, taken for a status. -/
def tsxTransportError : SipStatus := .other 503

/-- `tsx_update_transport` -/
def updateTransport (tsx : Tsx) (tp : Option Transport) : Tsx :=
  let tsx := { tsx with transport := tp }
  match tp with
  | none => tsx
  | some tp => if tp.closing then tsx.disconnected tsxTransportError else tsx

/-- `tsx_shutdown`; the transport selector and the references are left out. -/
def shutdown (tsx : Tsx) : Tsx :=
  let tsx := tsx.updateTransport none
  let tsx := { tsx with
    lastTx := none
    timeoutTimer := tsx.timeoutTimer.cancel
    retransmitTimer := tsx.retransmitTimer.cancel
    pendingResched := false
    pendingSend := false }
  if tsx.pendingTransport then { tsx with pendingDestroy := true, hasUser := false } else tsx

/-- The flags of `tsx_set_state`. -/
structure SetFlags where
  noNotify : Bool := false
  noScheduleHandler : Bool := false

/-- The transaction user is told of the state. -/
def notify (tsx : Tsx) (state : TsxState) : Tsx :=
  if tsx.hasUser then { tsx with told := state :: tsx.told } else tsx

/-- A terminated transaction gives up the message that it still waits for. -/
def abandonSend (tsx : Tsx) : Tsx :=
  if tsx.pendingTransport then
    { tsx with
      attached := tsx.attached.filter (tsx.pendingTx ≠ some ·)
      pendingTx := none
      pendingTransport := false }
  else tsx

/-- `tsx_set_state`. The transaction leaves the tables of the layer when it is destroyed. -/
def setState (tsx : Tsx) (state : TsxState) (flags : SetFlags) : Tsx :=
  let tsx := { tsx with state, moves := (tsx.state, state) :: tsx.moves }
  let tsx := if flags.noNotify then tsx else tsx.notify state
  if state = .terminated then
    let tsx := tsx.abandonSend
    let cancelled := tsx.timeoutTimer.cancel
    { tsx with
      timeoutTimer := if flags.noScheduleHandler then cancelled else cancelled.schedule 0 .timeout }
  else if state = .destroyed then tsx.shutdown
  else tsx

/-- `tsx_set_status_code` and then `tsx_set_state`. -/
def setStatus (tsx : Tsx) (code : Nat) (state : TsxState) (flags : SetFlags) : Tsx :=
  { tsx with statusCode := code }.setState state flags

/-- `PJSIP_TSX_1XX_RETRANS_DELAY` in milliseconds. -/
def provisionalDelay : Nat := 60000

/-- The delay that `tsx_resched_retransmission` computes. -/
def retransmitDelay (cfg : TsxCfg) (tsx : Tsx) : Nat :=
  let msecTime :=
    if tsx.role = .uac ∧ tsx.statusCode ≥ 100 then cfg.t2
    else 2 ^ tsx.retransmitCount * cfg.t1 % 2 ^ 32
  match tsx.role with
  | .uac => if msecTime > cfg.t2 ∧ tsx.method ≠ .invite then cfg.t2 else msecTime
  | .uas =>
    if tsx.statusCode < 200 then provisionalDelay
    else if msecTime > cfg.t2 then cfg.t2 else msecTime

/-- `tsx_resched_retransmission` -/
def reschedRetransmission (cfg : TsxCfg) (tsx : Tsx) : Tsx :=
  let msecTime := tsx.retransmitDelay cfg
  if msecTime ≠ 0 then
    { tsx with retransmitTimer := tsx.retransmitTimer.schedule msecTime .retransmit }
  else tsx

/-- What both callbacks of a send do with a retransmission that waits for the transport. -/
def reschedIfPending (cfg : TsxCfg) (tsx : Tsx) : Tsx :=
  if tsx.pendingResched ∧ !tsx.pendingTransport then
    let tsx := { tsx with pendingResched := false }
    if tsx.isReliable then tsx else tsx.reschedRetransmission cfg
  else tsx

/-- How a message is sent: what `tsx_send_msg` is to the callbacks it runs in. -/
abbrev Sender := Tsx → Option TxData → Tsx × SipStatus

/-- The message that waits for the transport is sent, and the retransmission rescheduled. -/
def flush (cfg : TsxCfg) (again : Sender) (tsx : Tsx) : Tsx :=
  let tsx :=
    if tsx.pendingSend then (again { tsx with pendingSend := false } tsx.lastTx).1 else tsx
  tsx.reschedIfPending cfg

/-- The status code of a failure to send: 502 if the server could not be resolved. -/
def failureCode (error : Fault) : Nat :=
  if error.1 = .eresolve ∨ error.1 = .ednsNxdomain then 502 else 503

/-- `tdata->mod_data[..] = tsx` -/
def attach (tsx : Tsx) (id : Nat) : Tsx :=
  { tsx with attached := id :: tsx.attached, pendingTx := some id }

/-- A send is reported: its transmit data no longer belongs to the transaction. -/
def settle (tsx : Tsx) (id : Nat) : Tsx := { tsx.detach id with pendingTx := none }

/-- The transport that a message was sent on is used from now on. -/
def adoptTransport (tsx : Tsx) (tp : Transport) : Tsx :=
  let tsx :=
    if tsx.transport.map Transport.id ≠ some tp.id then
      { tsx.updateTransport (some tp) with isReliable := tp.reliable }
    else tsx
  { tsx with pendingTransport := false, resolvedServer := true }

/-- `send_msg_callback` for a message that was sent. -/
def onSent (cfg : TsxCfg) (again : Sender) (tsx : Tsx) (tp : Transport) : Tsx :=
  let tsx := tsx.adoptTransport tp
  if tsx.pendingDestroy then tsx.setState .destroyed {} else tsx.flush cfg again

/-- The transport is released if it is the one that failed. -/
def releaseTransport (tsx : Tsx) (tp : Option Nat) : Tsx :=
  if tp = tsx.transport.map Transport.id then tsx.updateTransport none else tsx

/-- The message of a report could not be sent, and no other server is tried. -/
def markFailed (tsx : Tsx) (error : Fault) : Tsx :=
  { tsx with transportErr := error.1, pendingTransport := false, resolvedServer := true }

/-- `send_msg_callback` for a message that could not be sent. -/
def onSendFailed (cfg : TsxCfg) (tsx : Tsx) (error : Fault) : Tsx :=
  let tsx := tsx.markFailed error
  let sc := failureCode error
  if (tsx.role = .uac ∨ sc = 502) ∧ tsx.state ≠ .terminated ∧ tsx.state ≠ .destroyed then
    tsx.setStatus sc .terminated {}
  else if tsx.pendingDestroy then tsx.setStatus sc .destroyed {}
  else if tsx.role = .uas ∧ tsx.pendingResched ∧ tsx.state ≠ .terminated
      ∧ tsx.state ≠ .destroyed then
    { tsx with pendingResched := false }.reschedRetransmission cfg
  else tsx

/-- `send_msg_callback` for a message that the next server is tried for. -/
def onNextServer (cfg : TsxCfg) (tsx : Tsx) (id : Nat) : Tsx :=
  let tsx := { tsx with retransmitCount := 0 }
  let tsx :=
    if tsx.timeoutTimer.id ≠ .inactive then tsx.restartTimeout cfg.timeout .timeout else tsx
  tsx.attach id

/-- `send_msg_callback` -/
def sendMsgCallback (cfg : TsxCfg) (again : Sender) (tdata : TxData) (tsx : Tsx)
    (outcome : Outcome) : Tsx :=
  if tdata.id ∉ tsx.attached then tsx
  else
    let tsx := tsx.settle tdata.id
    match outcome with
    | .sent tp => tsx.onSent cfg again tp
    | .failed error tp cont =>
      let tsx := tsx.releaseTransport tp
      if !cont ∨ tsx.pendingDestroy then tsx.onSendFailed cfg error
      else tsx.onNextServer cfg tdata.id

/-- `transport_callback`; `error` is none if the message was sent. -/
def transportCallback (cfg : TsxCfg) (again : Sender) (tsx : Tsx) (error : Option Fault) : Tsx :=
  let tsx := { tsx with pendingTransport := false }
  match error with
  | none => if tsx.pendingDestroy then tsx.setState .destroyed {} else tsx.flush cfg again
  | some error =>
    if tsx.role = .uas then
      if tsx.pendingDestroy then tsx.setState .destroyed {} else tsx.flush cfg again
    else
      let tsx := { tsx with transportErr := error.1 }
      if tsx.state.rank < TsxState.completed.rank then tsx.restartTimeout 0 .transportErr
      else tsx

/-- The answer of the stateless send. `pjsip_endpt_send_response` fails on nothing but
`res_addr.transport`, which a transaction that has not ended gives up together with its own:
without it a response is taken, and its fate reported. -/
def sendStateless (tsx : Tsx) (tdata : TxData) (attempt : Attempt) : Stateless :=
  if tdata.msg.isRequest ∨ TsxState.terminated.rank ≤ tsx.state.rank then attempt.stateless
  else
    match attempt.stateless with
    | .refused _ => .begun []
    | .begun reports => .begun reports

/-- The second half of `tsx_send_msg`: there is no transport, or it failed with `status`. -/
def resolveAndSend (cfg : TsxCfg) (again : Sender) (attempt : Attempt) (tsx : Tsx) (tdata : TxData)
    (status : SipStatus) : Tsx × SipStatus :=
  if tsx.role = .uac ∧ tsx.resolvedServer then
    (tsx.setStatus 503 .terminated {}, if status = .success then .eunknown else status)
  else
    let answer := tsx.sendStateless tdata attempt
    let tsx := { tsx.attach tdata.id with pendingTransport := true }
    match answer with
    | .refused error =>
      ({ tsx.settle tdata.id with pendingTransport := false }, error.1)
    | .begun reports =>
      let tsx := reports.foldl (sendMsgCallback cfg again tdata) tsx
      let tsx :=
        if reports.any Outcome.final then tsx
        else { tsx with inFlight := .stateless tdata :: tsx.inFlight }
      (tsx, if tsx.state = .terminated then tsx.transportErr else .success)

/-- `tsx_send_msg`, with `again` for the calls that the callbacks make. -/
def sendWith (cfg : TsxCfg) (again : Sender) (attempt : Attempt) : Sender := fun tsx tdata =>
  match tdata with
  | none => (tsx, .einval)
  | some tdata =>
    if tsx.pendingTransport then ({ tsx with pendingSend := true }, .success)
    else if attempt.isPending then (tsx, .success)
    else if tsx.transport.isSome then
      match attempt.direct with
      | .sent => (tsx, .success)
      | .pending =>
        ({ tsx with pendingTransport := true, inFlight := .direct :: tsx.inFlight }, .success)
      | .error error =>
        resolveAndSend cfg again attempt (tsx.updateTransport none) tdata error.1
    else resolveAndSend cfg again attempt tsx tdata .success

/-- `tsx_send_msg`; each call takes the next attempt, and waits when there is none. -/
def sendMsg (cfg : TsxCfg) : List Attempt → Sender
  | [] => sendWith cfg (fun tsx _ => (tsx, .success)) .waiting
  | attempt :: attempts => sendWith cfg (sendMsg cfg attempts) attempt

/-- `tsx_retransmit` -/
def retransmit (cfg : TsxCfg) (attempts : List Attempt) (tsx : Tsx) (resched : Bool) :
    Tsx × SipStatus :=
  if resched ∧ tsx.retransmitTimer.running then (tsx, .success)
  else
    match tsx.lastTx with
    | none => (tsx, .ebug)
    | some tdata =>
      if cfg.maxRetransCount.any (· ≤ tsx.retransmitCount) ∧ tdata.msg.isRequest then
        (tsx.restartTimeout 0 .timeout, .success)
      else
        let tsx := { tsx with retransmitCount := tsx.retransmitCount + 1 }
        let tsx :=
          if resched then
            if tsx.pendingTransport then { tsx with pendingResched := true }
            else tsx.reschedRetransmission cfg
          else tsx
        sendMsg cfg attempts tsx (some tdata)

end Tsx

end Pjsip.Sip
