import Pjsip.Sip.Tsx.Transaction

/-!
# The transaction state machine (`tsx_on_state_*`)

One handler for each state, and what the transaction user, the transports and the timers can do
to a transaction. Assertions other than those that return an error are left out.
-/

namespace Pjsip.Sip

/-- `pjsip_event`, as the handlers get it. -/
inductive TsxEvent where
  | retransmitTimer
  | timeoutTimer
  /-- A received message; `ack` is the answer of `pjsip_endpt_create_ack`, if it is asked. -/
  | rxMsg (msg : Msg) (ack : Except Fault Nat)
  | txMsg (tdata : TxData)

/-- `PJSIP_IS_STATUS_IN_CLASS` -/
def isStatusInClass (statusCode codeClass : Nat) : Bool := statusCode / 100 = codeClass / 100

namespace Tsx

section Handlers

variable (cfg : TsxCfg) (attempts : List Attempt)

/-- `tsx_on_state_null` -/
def onStateNull (tsx : Tsx) (event : TsxEvent) : Tsx × SipStatus :=
  if tsx.role = .uas then (tsx.setState .trying {}, .success)
  else
    match event with
    | .txMsg tdata =>
      let tsx := { tsx with lastTx := some tdata }
      let (tsx, status) := sendMsg cfg attempts tsx (some tdata)
      if status ≠ .success then (tsx, status)
      else
        let tsx := tsx.restartTimeout cfg.timeout .timeout
        let tsx :=
          if tsx.isReliable then tsx else { tsx with retransmitCount := 0 }.startRetransmit cfg.t1
        (tsx.setState .calling {}, .success)
    | _ => (tsx, .ebug)

/-- How long a completed transaction waits for retransmissions of the final response. -/
def lingerTime (tsx : Tsx) : Nat :=
  if tsx.isReliable then 0 else if tsx.method = .invite then cfg.td else cfg.t4

/-- The end of `tsx_on_state_proceeding_uac` for a final response from 300 on. -/
def completeUac (tsx : Tsx) (ack : Option TxData) : Tsx × SipStatus :=
  let tsx := tsx.setState .completed {}
  let tsx := if ack.isSome then { tsx with lastTx := ack } else tsx
  (tsx.restartTimeout (tsx.lingerTime cfg) .timeout, .success)

/-- The ACK for a final response to an INVITE, from 300 on. -/
def acknowledge (tsx : Tsx) (ack : Except Fault Nat) : Tsx × SipStatus :=
  match ack with
  | .error error => (tsx, error.1)
  | .ok id =>
    let ack : TxData := ⟨id, .request .ack⟩
    let (tsx, status) := sendMsg cfg attempts tsx (some ack)
    if status ≠ .success then (tsx, status) else tsx.completeUac cfg (some ack)

/-- `tsx_on_state_proceeding_uac` -/
def onStateProceedingUac (tsx : Tsx) (event : TsxEvent) : Tsx × SipStatus :=
  match event with
  | .txMsg _ => (tsx, .einvalidop)
  | .retransmitTimer => retransmit cfg attempts tsx true
  | .timeoutTimer => (tsx.setStatus 408 .terminated {}, .success)
  | .rxMsg (.request _) _ => (tsx, .enotresponsemsg)
  | .rxMsg (.response code _) ack =>
    let tsx := { tsx with statusCode := code }
    if isStatusInClass code 100 then (tsx.setState .proceeding {}, .success)
    else if isStatusInClass code 200 then
      let tsx := { tsx with timeoutTimer := tsx.timeoutTimer.cancel }
      if tsx.method = .invite then (tsx.setState .terminated {}, .success)
      else
        let delay := tsx.lingerTime cfg
        let tsx := { tsx with timeoutTimer := tsx.timeoutTimer.schedule delay .timeout }
        (tsx.cancelRetransmit.setState .completed {}, .success)
    else if 300 ≤ code ∧ code ≤ 699 then
      let tsx := tsx.cancelRetransmit
      let tsx := { tsx with timeoutTimer := tsx.timeoutTimer.cancel }
      if tsx.method = .invite then tsx.acknowledge cfg attempts ack
      else if tsx.method = .bye ∧ (code = 408 ∨ code = 481) then
        (tsx.setState .terminated {}, .success)
      else tsx.completeUac cfg none
    else (tsx, .ebug)

/-- The timers when a response is received in state Calling. -/
def onFirstResponse (tsx : Tsx) (code : Nat) : Tsx :=
  let tsx := tsx.cancelRetransmit
  let tsx :=
    if code ≥ 200 then
      if tsx.timeoutTimer.id ≠ .inactive then
        { tsx with timeoutTimer := tsx.timeoutTimer.cancel }
      else tsx
    else if tsx.method = .invite then { tsx with timeoutTimer := tsx.timeoutTimer.cancel }
    else if tsx.isReliable then tsx
    else { tsx with retransmitTimer := tsx.retransmitTimer.schedule cfg.t2 .retransmit }
  { tsx with pendingResched := false }

/-- `tsx_on_state_calling` -/
def onStateCalling (tsx : Tsx) (event : TsxEvent) : Tsx × SipStatus :=
  match event with
  | .retransmitTimer => retransmit cfg attempts tsx true
  | .timeoutTimer =>
    ({ tsx.cancelRetransmit with pendingResched := false }.setStatus 408 .terminated {}, .success)
  | .rxMsg (.request _) _ => (tsx, .enotresponsemsg)
  | .rxMsg (.response code cseqMethod) ack =>
    let tsx := tsx.onFirstResponse cfg code
    -- What the handler of state Proceeding returns is dropped.
    ((tsx.onStateProceedingUac cfg attempts (.rxMsg (.response code cseqMethod) ack)).1, .success)
  | .txMsg _ => (tsx, .ebug)

/-- The final response `tdata` is kept for retransmissions, and the transaction completed. -/
def completeUas (tsx : Tsx) (tdata : TxData) (retransmits : Bool) : Tsx :=
  let tsx := { tsx with lastTx := some tdata }
  let delay := if tsx.method = .invite ∨ !tsx.isReliable then cfg.timeout else 0
  let tsx := tsx.restartTimeout delay .timeout
  let tsx :=
    if retransmits then { tsx with retransmitCount := 0 }.startRetransmit cfg.t1 else tsx
  tsx.setState .completed {}

/-- The response `tdata` has been sent. -/
def onAnswered (tsx : Tsx) (tdata : TxData) (cseqMethod : MethodId) : Tsx :=
  if isStatusInClass tsx.statusCode 100 then
    let tsx := { tsx with lastTx := some tdata }.setState .proceeding {}
    if tsx.method = .invite ∧ tsx.statusCode > 100 then
      { tsx.cancelRetransmit with retransmitCount := 0 }.startRetransmit provisionalDelay
    else tsx
  else if isStatusInClass tsx.statusCode 200 then
    let tsx := tsx.cancelRetransmit
    if tsx.method = .invite ∧ !tsx.handle200resp then tsx.setState .terminated {}
    else tsx.completeUas cfg tdata (tsx.method = .invite)
  else if tsx.statusCode ≥ 300 then
    tsx.cancelRetransmit.completeUas cfg tdata (!tsx.isReliable && cseqMethod = .invite)
  else tsx

/-- `tsx_on_state_proceeding_uas` -/
def onStateProceedingUas (tsx : Tsx) (event : TsxEvent) : Tsx × SipStatus :=
  match event with
  | .rxMsg _ _ =>
    if tsx.lastTx.isNone then (tsx, .ebug)
    else if tsx.pendingTransport then ({ tsx with pendingSend := true }, .success)
    else sendMsg cfg attempts tsx tsx.lastTx
  | .txMsg ⟨_, .request _⟩ => (tsx, .enotresponsemsg)
  | .txMsg ⟨id, .response code cseqMethod⟩ =>
    let tdata : TxData := ⟨id, .response code cseqMethod⟩
    let tsx := { tsx with statusCode := code }
    let tsx := if tsx.lastTx ≠ some tdata then { tsx with lastTx := none } else tsx
    let (tsx, status) := sendMsg cfg attempts tsx (some tdata)
    if status ≠ .success then (tsx, status) else (tsx.onAnswered cfg tdata cseqMethod, .success)
  | .retransmitTimer => retransmit cfg attempts tsx true
  | .timeoutTimer => (tsx.setStatus 408 .terminated {}, .ebug)

/-- `tsx_on_state_trying` -/
def onStateTrying (tsx : Tsx) (event : TsxEvent) : Tsx × SipStatus :=
  match event with
  | .txMsg tdata =>
    let (tsx, status) := tsx.onStateProceedingUas cfg attempts (.txMsg tdata)
    if status = .success ∧ tsx.state = .trying then (tsx.setState .proceeding {}, status)
    else (tsx, status)
  | _ => (tsx, .success)

/-- `tsx_on_state_completed_uas` -/
def onStateCompletedUas (tsx : Tsx) (event : TsxEvent) : Tsx × SipStatus :=
  match event with
  | .rxMsg (.response _ _) _ => (tsx, .enotrequestmsg)
  | .rxMsg (.request method) _ =>
    if method ≠ .ack then retransmit cfg attempts tsx false
    else if tsx.method ≠ .invite then (tsx, .einvalidmethod)
    else
      let tsx := { tsx.cancelRetransmit with pendingResched := false }
      let tsx := tsx.restartTimeout (if tsx.isReliable then 0 else cfg.t4) .timeout
      (tsx.setState .confirmed {}, .success)
  | .retransmitTimer => retransmit cfg attempts tsx true
  | .timeoutTimer =>
    if tsx.method = .invite then (tsx.setStatus 408 .terminated {}, .success)
    else (tsx.setState .terminated {}, .success)
  | .txMsg tdata => (tsx, if some tdata ≠ tsx.lastTx then .einvalidop else .success)

/-- `tsx_on_state_completed_uac` -/
def onStateCompletedUac (tsx : Tsx) (event : TsxEvent) : Tsx × SipStatus :=
  match event with
  | .retransmitTimer => (tsx, .success)
  | .timeoutTimer => (tsx.setState .terminated {}, .success)
  | .rxMsg msg _ =>
    if tsx.method = .invite then
      match msg with
      | .response code _ =>
        if code ≥ 200 then retransmit cfg attempts tsx false else (tsx, .success)
      | .request _ => (tsx, .success)
    else (tsx, .success)
  | .txMsg _ => (tsx, .einvalidop)

/-- `tsx_on_state_confirmed` -/
def onStateConfirmed (tsx : Tsx) (event : TsxEvent) : Tsx × SipStatus :=
  match event with
  | .rxMsg (.response _ _) _ => (tsx, .enotrequestmsg)
  | .rxMsg (.request _) _ => (tsx, .success)
  | .retransmitTimer => (tsx, .success)
  | .timeoutTimer => (tsx.setState .terminated {}, .success)
  | .txMsg _ => (tsx, .ebug)

/-- `tsx_on_state_terminated` -/
def onStateTerminated (tsx : Tsx) (event : TsxEvent) : Tsx × SipStatus :=
  match event with
  | .retransmitTimer => (tsx.setState .destroyed {}, .success)
  | .timeoutTimer => (tsx.setState .destroyed {}, .success)
  | _ => (tsx, .eignored)

/-- The call of `tsx->state_handler`; there is none for a state that the role does not have. -/
def handle (tsx : Tsx) (event : TsxEvent) : Option (Tsx × SipStatus) :=
  match tsx.state, tsx.role with
  | .null, _ => some (tsx.onStateNull cfg attempts event)
  | .calling, .uac => some (tsx.onStateCalling cfg attempts event)
  | .calling, .uas => none
  | .trying, .uac => none
  | .trying, .uas => some (tsx.onStateTrying cfg attempts event)
  | .proceeding, .uac => some (tsx.onStateProceedingUac cfg attempts event)
  | .proceeding, .uas => some (tsx.onStateProceedingUas cfg attempts event)
  | .completed, .uac => some (tsx.onStateCompletedUac cfg attempts event)
  | .completed, .uas => some (tsx.onStateCompletedUas cfg attempts event)
  | .confirmed, _ => some (tsx.onStateConfirmed event)
  | .terminated, _ => some (tsx.onStateTerminated event)
  | .destroyed, _ => some (tsx, .eignored)

/-- `pjsip_tsx_terminate` -/
def terminate (tsx : Tsx) (code : Nat) : Tsx × SipStatus :=
  if code < 200 then (tsx, .einval)
  else if tsx.state.rank < TsxState.terminated.rank then
    (tsx.setStatus code .terminated {}, .success)
  else (tsx, .success)

/-- `PJSIP_TSX_UAS_CONTINUE_ON_TP_ERROR`: an INVITE without final answer waits for another
transport. -/
def continuesOnTpError (tsx : Tsx) : Bool :=
  tsx.method = .invite ∧ tsx.role = .uas ∧ tsx.statusCode < 200 ∧ !tsx.pendingTransport
    ∧ !tsx.pendingDestroy

/-- Nothing is known of the transport any more. -/
def forgetTransport (tsx : Tsx) : Tsx :=
  { tsx with
    pendingTransport := false, pendingResched := false, pendingSend := false
    pendingDestroy := false, resolvedServer := false }

/-- The transaction is terminated, and its user told when the lock is released. -/
def failOnTransport (tsx : Tsx) : Tsx :=
  let tsx := if tsx.statusCode < 200 then { tsx with statusCode := 503 } else tsx
  let tsx := (tsx.setState .terminated ⟨true, true⟩).notify .terminated
  { tsx with timeoutTimer := tsx.timeoutTimer.schedule 0 .timeout }

/-- The part of `tsx_timer_callback` for an error of the transport, posted by `id`. -/
def onTransportTimer (tsx : Tsx) (id : TimerId) : Tsx :=
  let tsx := { tsx with timeoutTimer := { tsx.timeoutTimer with id := .inactive } }
  if tsx.state.rank < TsxState.terminated.rank then
    let tsx := tsx.updateTransport none
    if id = .transportDisc ∧ tsx.continuesOnTpError then tsx.forgetTransport
    else tsx.failOnTransport
  else tsx

/-- `tsx_timer_callback` for the timeout timer, which has just left the heap. -/
def onTimeout (tsx : Tsx) : Option (Tsx × SipStatus) :=
  let id := tsx.timeoutTimer.id
  let tsx := { tsx with timeoutTimer := { tsx.timeoutTimer with delay := none } }
  if tsx.state = .destroyed then some (tsx, .success)
  else
    match id with
    | .terminate =>
      some (if tsx.state.rank < TsxState.terminated.rank then
        ((tsx.terminate tsx.statusCode).1, .success) else (tsx, .success))
    | .transportErr => some (tsx.onTransportTimer .transportErr, .success)
    | .transportDisc => some (tsx.onTransportTimer .transportDisc, .success)
    | _ =>
      { tsx with timeoutTimer := { tsx.timeoutTimer with id := .inactive } }.handle cfg attempts
        .timeoutTimer

/-- `tsx_timer_callback` for the retransmission timer. -/
def onRetransmit (tsx : Tsx) : Option (Tsx × SipStatus) :=
  let tsx := { tsx with retransmitTimer := {} }
  if tsx.state = .destroyed then some (tsx, .success)
  else tsx.handle cfg attempts .retransmitTimer

end Handlers

/-- `pjsip_tsx_set_timeout` -/
def setTimeout (tsx : Tsx) (millisec : Nat) : Tsx × SipStatus :=
  if tsx.role = .uac ∧ tsx.method = .invite then
    if tsx.statusCode ≥ 200 ∧ tsx.timeoutTimer.id ≠ .inactive then (tsx, .eexists)
    else (tsx.restartTimeout millisec .timeout, .success)
  else (tsx, .einvalidop)

/-- `pjsip_tsx_stop_retransmit` -/
def stopRetransmit (tsx : Tsx) : Tsx × SipStatus :=
  if tsx.role = .uac ∧ tsx.method = .invite then (tsx.cancelRetransmit, .success)
  else (tsx, .einvalidop)

/-- A client transaction as `pjsip_tsx_create_uac2` makes it for a request. -/
def ofUac (method : MethodId) (isReliable : Bool) (id : Nat) : Tsx :=
  { role := .uac, method, isReliable, lastTx := some ⟨id, .request method⟩ }

/-- A server transaction as `pjsip_tsx_create_uas2` makes it, on the transport that its
response goes to if that is decided. -/
def ofUas (method : MethodId) (isReliable handle200resp : Bool) (transport : Option Transport) :
    Tsx :=
  let tsx : Tsx := { role := .uas, method, isReliable, handle200resp }
  match transport with
  | none => tsx
  | some tp => { tsx.updateTransport (some tp) with isReliable := tp.reliable }

end Tsx

/-- What can happen to a transaction. -/
inductive TsxAct where
  /-- `pjsip_tsx_send_msg`; none for the last message. -/
  | sendMsg (tdata : Option TxData) (attempts : List Attempt)
  /-- `pjsip_tsx_recv_msg` -/
  | recvMsg (msg : Msg) (ack : Except Fault Nat) (attempts : List Attempt)
  | retransmitTimer (attempts : List Attempt)
  | timeoutTimer (attempts : List Attempt)
  | sendMsgCallback (tdata : TxData) (outcome : Outcome) (attempts : List Attempt)
  | transportCallback (error : Option Fault) (attempts : List Attempt)
  /-- The transport is disconnected. -/
  | disconnected (status : SipStatus)
  | terminate (code : Nat)
  | terminateAsync (code : Nat)
  | setTimeout (millisec : Nat)
  | stopRetransmit
  /-- `pjsip_tsx_retransmit_no_state` -/
  | retransmitNoState (tdata : Option TxData) (attempts : List Attempt)

/-- A status code that a received response can have. -/
def Msg.valid : Msg → Bool
  | .request _ => true
  | .response code _ => 100 ≤ code ∧ code ≤ 699

/-- One event, if it can happen: a timer that is running expires, a send that is in flight is
reported, a transport that is in use is disconnected. -/
def tsxStep (cfg : TsxCfg) (tsx : Tsx) : TsxAct → Option (Tsx × SipStatus)
  | .sendMsg tdata attempts =>
    match tdata.or tsx.lastTx with
    | none => some (tsx, .einvalidop)
    | some tdata => tsx.handle cfg attempts (.txMsg tdata)
  | .recvMsg msg ack attempts =>
    if msg.valid then tsx.handle cfg attempts (.rxMsg msg ack) else none
  | .retransmitTimer attempts =>
    if tsx.retransmitTimer.running then tsx.onRetransmit cfg attempts else none
  | .timeoutTimer attempts =>
    if tsx.timeoutTimer.running then tsx.onTimeout cfg attempts else none
  | .sendMsgCallback tdata outcome attempts =>
    if .stateless tdata ∈ tsx.inFlight then
      -- A transaction that has cancelled itself from the report wants no other one.
      let tsx :=
        if outcome.final ∨ tdata.id ∉ tsx.attached then
          { tsx with inFlight := tsx.inFlight.erase (.stateless tdata) }
        else tsx
      some (Tsx.sendMsgCallback cfg (Tsx.sendMsg cfg attempts) tdata tsx outcome, .success)
    else none
  | .transportCallback error attempts =>
    if .direct ∈ tsx.inFlight then
      let tsx := { tsx with inFlight := tsx.inFlight.erase .direct }
      some (tsx.transportCallback cfg (Tsx.sendMsg cfg attempts) error, .success)
    else none
  | .disconnected status =>
    if tsx.transport.isSome then some (tsx.disconnected status, .success) else none
  | .terminate code => some (tsx.terminate code)
  | .terminateAsync code =>
    some (if code < 200 then (tsx, .einval)
      else (tsx.restartTimeout 100 .terminate, .success))
  | .setTimeout millisec => some (tsx.setTimeout millisec)
  | .stopRetransmit => some tsx.stopRetransmit
  | .retransmitNoState tdata attempts =>
    some (Tsx.sendMsg cfg attempts tsx (tdata.or tsx.lastTx))

end Pjsip.Sip
