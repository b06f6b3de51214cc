import Pjsip.Sip.Tsx.Progress

/-!
# The calls of `tsx_resched_retransmission`

A send, and the report of one, may schedule retransmissions on the way. Here are the
transactions at which they do, in order, and the rule for what holds of all of them: a relation
that the elementary steps of a transaction respect is respected by every send and every report.
-/

namespace Pjsip.Sip

namespace Tsx

abbrev Calls := Tsx → Option TxData → List Tsx

/-- The calls of `reschedIfPending`. -/
def reschedIfPendingCalls (tsx : Tsx) : List Tsx :=
  if tsx.pendingResched ∧ !tsx.pendingTransport then
    if tsx.isReliable then [] else [{ tsx with pendingResched := false }]
  else []

/-- The calls of `flush`. -/
def flushCalls (again : Sender) (calls : Calls) (tsx : Tsx) : List Tsx :=
  if tsx.pendingSend then
    calls { tsx with pendingSend := false } tsx.lastTx ++
      (again { tsx with pendingSend := false } tsx.lastTx).1.reschedIfPendingCalls
  else tsx.reschedIfPendingCalls

/-- The calls of `onSent`. -/
def onSentCalls (again : Sender) (calls : Calls) (tsx : Tsx) (tp : Transport) : List Tsx :=
  if (tsx.adoptTransport tp).pendingDestroy then []
  else (tsx.adoptTransport tp).flushCalls again calls

/-- The calls of `onSendFailed`. -/
def onSendFailedCalls (tsx : Tsx) (error : Fault) : List Tsx :=
  let tsx := tsx.markFailed error
  if (tsx.role = .uac ∨ failureCode error = 502) ∧ tsx.state ≠ .terminated
      ∧ tsx.state ≠ .destroyed then []
  else if tsx.pendingDestroy then []
  else if tsx.role = .uas ∧ tsx.pendingResched ∧ tsx.state ≠ .terminated
      ∧ tsx.state ≠ .destroyed then [{ tsx with pendingResched := false }]
  else []

/-- The calls of `send_msg_callback`. -/
def sendMsgCallbackCalls (again : Sender) (calls : Calls) (tdata : TxData) (tsx : Tsx)
    (outcome : Outcome) : List Tsx :=
  if tdata.id ∉ tsx.attached then []
  else
    let tsx := tsx.settle tdata.id
    match outcome with
    | .sent tp => tsx.onSentCalls again calls tp
    | .failed error tp cont =>
      let tsx := tsx.releaseTransport tp
      if !cont ∨ tsx.pendingDestroy then tsx.onSendFailedCalls error else []

/-- The calls of the reports that come in before a stateless send returns. -/
def reportsCalls (cfg : TsxCfg) (again : Sender) (calls : Calls) (tdata : TxData) :
    List Outcome → Tsx → List Tsx
  | [], _ => []
  | outcome :: reports, tsx =>
    sendMsgCallbackCalls again calls tdata tsx outcome ++ reportsCalls cfg again calls tdata reports
        (sendMsgCallback cfg again tdata tsx outcome)

/-- The calls of `transport_callback`. -/
def transportCallbackCalls (again : Sender) (calls : Calls) (tsx : Tsx) (error : Option Fault) :
    List Tsx :=
  let tsx := { tsx with pendingTransport := false }
  if error.isNone ∨ tsx.role = .uas then
    if tsx.pendingDestroy then [] else tsx.flushCalls again calls
  else []

/-- The calls of the second half of `tsx_send_msg`. -/
def resolveAndSendCalls (cfg : TsxCfg) (again : Sender) (calls : Calls) (attempt : Attempt)
    (tsx : Tsx) (tdata : TxData) : List Tsx :=
  if tsx.role = .uac ∧ tsx.resolvedServer then []
  else
    match tsx.sendStateless tdata attempt with
    | .refused _ => []
    | .begun reports =>
      reportsCalls cfg again calls tdata reports
        { tsx.attach tdata.id with pendingTransport := true }

/-- The calls of `tsx_send_msg`, with `calls` for those of the callbacks. -/
def sendWithCalls (cfg : TsxCfg) (again : Sender) (calls : Calls) (attempt : Attempt) : Calls :=
  fun tsx tdata =>
    match tdata with
    | none => []
    | some tdata =>
      if tsx.pendingTransport ∨ attempt.isPending then []
      else if tsx.transport.isSome then
        match attempt.direct with
        | .sent => []
        | .pending => []
        | .error _ => resolveAndSendCalls cfg again calls attempt (tsx.updateTransport none) tdata
      else resolveAndSendCalls cfg again calls attempt tsx tdata

/-- The calls of `tsx_send_msg`. -/
def sendMsgCalls (cfg : TsxCfg) : List Attempt → Calls
  | [] => sendWithCalls cfg (fun tsx _ => (tsx, .success)) (fun _ _ => []) .waiting
  | attempt :: attempts =>
    sendWithCalls cfg (sendMsg cfg attempts) (sendMsgCalls cfg attempts) attempt

/-- The transaction at the call that `tsx_retransmit` makes itself. -/
def counted (tsx : Tsx) : Tsx := { tsx with retransmitCount := tsx.retransmitCount + 1 }

/-- The calls of `tsx_retransmit`. -/
def retransmitCalls (cfg : TsxCfg) (attempts : List Attempt) (tsx : Tsx) (resched : Bool) :
    List Tsx :=
  if resched ∧ tsx.retransmitTimer.running then []
  else
    match tsx.lastTx with
    | none => []
    | some tdata =>
      if cfg.maxRetransCount.any (· ≤ tsx.retransmitCount) ∧ tdata.msg.isRequest then []
      else if resched then
        if tsx.pendingTransport then
          sendMsgCalls cfg attempts { tsx.counted with pendingResched := true } (some tdata)
        else
          tsx.counted ::
            sendMsgCalls cfg attempts (tsx.counted.reschedRetransmission cfg) (some tdata)
      else sendMsgCalls cfg attempts tsx.counted (some tdata)

/-- Nothing has changed that a retransmission depends on, nor the timer. -/
structure Aside (tsx tsx' : Tsx) : Prop where
  role : tsx'.role = tsx.role
  method : tsx'.method = tsx.method
  state : tsx'.state = tsx.state
  lastTx : tsx'.lastTx = tsx.lastTx
  statusCode : tsx'.statusCode = tsx.statusCode
  retransmitCount : tsx'.retransmitCount = tsx.retransmitCount
  retransmitTimer : tsx'.retransmitTimer = tsx.retransmitTimer
  pendingResched : tsx'.pendingResched = tsx.pendingResched

/-- A relation between the transaction before, the calls on the way and the transaction after
that the elementary steps respect. -/
structure Closed (cfg : TsxCfg) (R : Tsx → List Tsx → Tsx → Prop) : Prop where
  trans : ∀ {tsx tsx' tsx'' calls calls'},
    R tsx calls tsx' → R tsx' calls' tsx'' → R tsx (calls ++ calls') tsx''
  aside : ∀ {tsx tsx'}, Aside tsx tsx' → R tsx [] tsx'
  clear : ∀ tsx, R tsx [] { tsx with pendingResched := false }
  /-- A retransmission is waiting to be scheduled. -/
  resched : ∀ tsx : Tsx, tsx.pendingResched = true → R tsx [{ tsx with pendingResched := false }]
      ({ tsx with pendingResched := false }.reschedRetransmission cfg)
  reset : ∀ tsx, R tsx [] { tsx with retransmitCount := 0 }
  terminated : ∀ tsx code, 100 ≤ code → R tsx [] (tsx.setStatus code .terminated {})
  destroyed : ∀ tsx : Tsx, R tsx [] (tsx.setState .destroyed {})
  failed : ∀ tsx code, 100 ≤ code → R tsx [] (tsx.setStatus code .destroyed {})

section Asides

variable {tsx tsx' tsx'' : Tsx}

theorem Aside.refl (tsx : Tsx) : Aside tsx tsx := by constructor <;> rfl

theorem Aside.trans (first : Aside tsx tsx') (second : Aside tsx' tsx'') : Aside tsx tsx'' where
  role := second.role.trans first.role
  method := second.method.trans first.method
  state := second.state.trans first.state
  lastTx := second.lastTx.trans first.lastTx
  statusCode := second.statusCode.trans first.statusCode
  retransmitCount := second.retransmitCount.trans first.retransmitCount
  retransmitTimer := second.retransmitTimer.trans first.retransmitTimer
  pendingResched := second.pendingResched.trans first.pendingResched

theorem restartTimeout_aside (tsx : Tsx) (delay : Nat) (id : TimerId) :
    Aside tsx (tsx.restartTimeout delay id) := by
  constructor <;> rfl

theorem disconnected_aside (tsx : Tsx) (status : SipStatus) :
    Aside tsx (tsx.disconnected status) := by
  have erred : Aside tsx { tsx with transportErr := status } := by constructor <;> rfl
  rw [disconnected]
  split
  · exact erred.trans (restartTimeout_aside _ 0 .transportDisc)
  · exact erred

theorem updateTransport_aside (tsx : Tsx) (tp : Option Transport) :
    Aside tsx (tsx.updateTransport tp) := by
  have taken : Aside tsx { tsx with transport := tp } := by constructor <;> rfl
  cases tp with
  | none => exact taken
  | some tp =>
    simp only [updateTransport]
    split
    · exact taken.trans (disconnected_aside _ _)
    · exact taken

theorem ofUas_fresh (method : MethodId) (isReliable handle200resp : Bool)
    (transport : Option Transport) :
    (ofUas method isReliable handle200resp transport).role = .uas ∧
      (ofUas method isReliable handle200resp transport).state = .null ∧
      (ofUas method isReliable handle200resp transport).lastTx = none := by
  cases transport with
  | none => exact ⟨rfl, rfl, rfl⟩
  | some tp =>
    have same :=
      updateTransport_aside { role := .uas, method, isReliable, handle200resp } (some tp)
    exact ⟨same.role, same.state, same.lastTx⟩

theorem adoptTransport_aside (tsx : Tsx) (tp : Transport) : Aside tsx (tsx.adoptTransport tp) := by
  have moved := updateTransport_aside tsx (some tp)
  rw [adoptTransport]
  split
  · refine moved.trans ?_
    constructor <;> rfl
  · constructor <;> rfl

theorem releaseTransport_aside (tsx : Tsx) (tp : Option Nat) :
    Aside tsx (tsx.releaseTransport tp) := by
  rw [releaseTransport]
  split
  · exact updateTransport_aside tsx none
  · exact .refl tsx

end Asides

section Closure

variable {cfg : TsxCfg} {R : Tsx → List Tsx → Tsx → Prop} {again : Sender} {calls : Calls}
  {tsx tsx' tsx'' : Tsx}

theorem Closed.refl (closed : Closed cfg R) (tsx : Tsx) : R tsx [] tsx := closed.aside (.refl tsx)

theorem Closed.after (closed : Closed cfg R) {made : List Tsx} (first : R tsx [] tsx')
    (second : R tsx' made tsx'') : R tsx made tsx'' := closed.trans first second

theorem Closed.before (closed : Closed cfg R) {made : List Tsx} (first : R tsx made tsx')
    (second : R tsx' [] tsx'') : R tsx made tsx'' := by
  have both := closed.trans first second
  rwa [List.append_nil] at both

theorem Closed.reschedIfPending (closed : Closed cfg R) (tsx : Tsx) :
    R tsx tsx.reschedIfPendingCalls (tsx.reschedIfPending cfg) := by
  rw [reschedIfPendingCalls, Tsx.reschedIfPending]
  split
  · next waits =>
    dsimp only
    split
    · exact closed.clear tsx
    · exact closed.resched tsx waits.1
  · exact closed.refl tsx

/-- The callbacks send in turn. -/
def Closed.Respects (R : Tsx → List Tsx → Tsx → Prop) (again : Sender) (calls : Calls) : Prop :=
  ∀ tsx tdata, R tsx (calls tsx tdata) (again tsx tdata).1

theorem Closed.flush (closed : Closed cfg R) (respects : Respects R again calls) (tsx : Tsx) :
    R tsx (tsx.flushCalls again calls) (tsx.flush cfg again) := by
  have queued : R tsx [] { tsx with pendingSend := false } :=
    closed.aside (by constructor <;> rfl)
  rw [flushCalls, Tsx.flush]
  split
  · exact closed.trans (closed.after queued (respects _ _)) (closed.reschedIfPending _)
  · exact closed.reschedIfPending tsx

theorem Closed.onSent (closed : Closed cfg R) (respects : Respects R again calls) (tsx : Tsx)
    (tp : Transport) : R tsx (tsx.onSentCalls again calls tp) (tsx.onSent cfg again tp) := by
  have adopted := closed.aside (adoptTransport_aside tsx tp)
  rw [onSentCalls, Tsx.onSent]
  split
  · exact closed.after adopted (closed.destroyed _)
  · exact closed.after adopted (closed.flush respects _)

theorem Closed.onSendFailed (closed : Closed cfg R) (tsx : Tsx) (error : Fault) :
    R tsx (tsx.onSendFailedCalls error) (tsx.onSendFailed cfg error) := by
  have marked : R tsx [] (tsx.markFailed error) := closed.aside (by constructor <;> rfl)
  have coded : 100 ≤ failureCode error := by
    rw [failureCode]
    split <;> omega
  rw [onSendFailedCalls, Tsx.onSendFailed]
  split
  · exact closed.after marked (closed.terminated _ _ coded)
  split
  · exact closed.after marked (closed.failed _ _ coded)
  split
  · next waits => exact closed.after marked (closed.resched _ waits.2.1)
  · exact marked

theorem Closed.onNextServer (closed : Closed cfg R) (tsx : Tsx) (id : Nat) :
    R tsx [] (tsx.onNextServer cfg id) := by
  have attached : ∀ tsx : Tsx, R tsx [] (tsx.attach id) := fun tsx =>
    closed.aside (by constructor <;> rfl)
  refine closed.after (closed.reset tsx) ?_
  rw [Tsx.onNextServer]
  split
  · exact closed.after (closed.aside (restartTimeout_aside _ cfg.timeout .timeout)) (attached _)
  · exact attached _

theorem Closed.sendMsgCallback (closed : Closed cfg R) (respects : Respects R again calls)
    (tdata : TxData) (tsx : Tsx) (outcome : Outcome) :
    R tsx (sendMsgCallbackCalls again calls tdata tsx outcome)
      (sendMsgCallback cfg again tdata tsx outcome) := by
  have settled : R tsx [] (tsx.settle tdata.id) := closed.aside (by constructor <;> rfl)
  rw [sendMsgCallbackCalls, Tsx.sendMsgCallback]
  split
  · exact closed.refl tsx
  cases outcome with
  | sent tp => exact closed.after settled (closed.onSent respects _ tp)
  | failed error tp cont =>
    have released := closed.after settled (closed.aside (releaseTransport_aside _ tp))
    dsimp only
    split
    · exact closed.after released (closed.onSendFailed _ error)
    · exact closed.after released (closed.onNextServer _ tdata.id)

theorem Closed.reports (closed : Closed cfg R) (respects : Respects R again calls)
    (tdata : TxData) (reports : List Outcome) (tsx : Tsx) :
    R tsx (reportsCalls cfg again calls tdata reports tsx)
      (reports.foldl (Tsx.sendMsgCallback cfg again tdata) tsx) := by
  induction reports generalizing tsx with
  | nil => exact closed.refl tsx
  | cons outcome reports ih =>
    exact closed.trans (closed.sendMsgCallback respects tdata tsx outcome) (ih _)

theorem Closed.transportCallback (closed : Closed cfg R) (respects : Respects R again calls)
    (tsx : Tsx) (error : Option Fault) :
    R tsx (tsx.transportCallbackCalls again calls error)
      (tsx.transportCallback cfg again error) := by
  have reported : R tsx [] { tsx with pendingTransport := false } :=
    closed.aside (by constructor <;> rfl)
  have flushed : R tsx (if { tsx with pendingTransport := false }.pendingDestroy then []
        else { tsx with pendingTransport := false }.flushCalls again calls)
      (if { tsx with pendingTransport := false }.pendingDestroy then
        { tsx with pendingTransport := false }.setState .destroyed {}
        else { tsx with pendingTransport := false }.flush cfg again) := by
    split
    · exact closed.after reported (closed.destroyed _)
    · exact closed.after reported (closed.flush respects _)
  cases error with
  | none => exact flushed
  | some error =>
    rw [transportCallbackCalls, Tsx.transportCallback]
    by_cases server : tsx.role = .uas
    · rw [if_pos (.inr server)]
      rw [if_pos server]
      exact flushed
    · rw [if_neg (not_or.2 ⟨by simp, server⟩)]
      dsimp only
      rw [if_neg server]
      have erred : R tsx [] { tsx with pendingTransport := false, transportErr := error.1 } :=
        closed.aside (by constructor <;> rfl)
      split
      · exact closed.after erred (closed.aside (restartTimeout_aside _ 0 .transportErr))
      · exact erred

theorem Closed.resolveAndSend (closed : Closed cfg R) (respects : Respects R again calls)
    (attempt : Attempt) (tsx : Tsx) (tdata : TxData) (status : SipStatus) :
    R tsx (resolveAndSendCalls cfg again calls attempt tsx tdata)
      (resolveAndSend cfg again attempt tsx tdata status).1 := by
  have attached : R tsx [] { tsx.attach tdata.id with pendingTransport := true } :=
    closed.aside (by constructor <;> rfl)
  rw [resolveAndSendCalls, Tsx.resolveAndSend]
  split
  · exact closed.terminated tsx 503 (by omega)
  cases tsx.sendStateless tdata attempt with
  | refused error => exact closed.aside (by constructor <;> rfl)
  | begun reports =>
    have reported := closed.after attached (closed.reports respects tdata reports _)
    dsimp only
    split
    · exact reported
    · exact closed.before reported (closed.aside (by constructor <;> rfl))

theorem Closed.sendWith (closed : Closed cfg R) (respects : Respects R again calls)
    (attempt : Attempt) :
    Respects R (sendWith cfg again attempt) (sendWithCalls cfg again calls attempt) := by
  intro tsx tdata
  cases tdata with
  | none => exact closed.refl tsx
  | some tdata =>
    rw [sendWithCalls, Tsx.sendWith]
    by_cases waits : tsx.pendingTransport = true
    · rw [if_pos (.inl waits), if_pos waits]
      exact closed.aside (by constructor <;> rfl)
    by_cases pending : attempt.isPending = true
    · rw [if_pos (.inr pending), if_neg waits, if_pos pending]
      exact closed.refl tsx
    rw [if_neg (not_or.2 ⟨waits, pending⟩), if_neg waits, if_neg pending]
    split
    · cases attempt.direct with
      | sent => exact closed.refl tsx
      | pending => exact closed.aside (by constructor <;> rfl)
      | error error =>
        exact closed.after (closed.aside (updateTransport_aside tsx none))
          (closed.resolveAndSend respects attempt _ tdata error.1)
    · exact closed.resolveAndSend respects attempt tsx tdata .success

theorem Closed.sendMsg (closed : Closed cfg R) (attempts : List Attempt) :
    Respects R (sendMsg cfg attempts) (sendMsgCalls cfg attempts) := by
  induction attempts with
  | nil => exact closed.sendWith (fun tsx _ => closed.refl tsx) .waiting
  | cons attempt attempts ih => exact closed.sendWith ih attempt

end Closure

end Tsx

end Pjsip.Sip
