import Pjsip.Sip.Tsx.Responses

/-!
# The retransmission schedule (`tsx_resched_retransmission`, `tsx_retransmit`)

The intervals between retransmissions double from T1 up to T2, computed in 32 bits from a
counter. The timer advances it, and so does every request that the peer sends again while a
server transaction is completed.
-/

namespace Pjsip.Sip

open Base

namespace Tsx

section Calls

variable (cfg : TsxCfg) (attempts : List Attempt)

/-- The calls of `onStateNull`. -/
def onStateNullCalls (tsx : Tsx) : TsxEvent → List Tsx
  | .txMsg tdata =>
    if tsx.role = .uas then []
    else sendMsgCalls cfg attempts { tsx with lastTx := some tdata } (some tdata)
  | _ => []

/-- The calls of `onStateProceedingUac` for a response. -/
def onResponseCalls (tsx : Tsx) (code : Nat) (ack : Except Fault Nat) : List Tsx :=
  if 300 ≤ code ∧ code ≤ 699 ∧ tsx.method = .invite then
    match ack with
    | .error _ => []
    | .ok id =>
      sendMsgCalls cfg attempts { { tsx with statusCode := code }.cancelRetransmit with
          timeoutTimer := tsx.timeoutTimer.cancel } (some ⟨id, .request .ack⟩)
  else []

/-- The calls of `onStateProceedingUac`. -/
def onStateProceedingUacCalls (tsx : Tsx) : TsxEvent → List Tsx
  | .retransmitTimer => retransmitCalls cfg attempts tsx true
  | .rxMsg (.response code _) ack => tsx.onResponseCalls cfg attempts code ack
  | _ => []

/-- The calls of `onStateCalling`. -/
def onStateCallingCalls (tsx : Tsx) : TsxEvent → List Tsx
  | .retransmitTimer => retransmitCalls cfg attempts tsx true
  | .rxMsg (.response code _) ack =>
    (tsx.onFirstResponse cfg code).onResponseCalls cfg attempts code ack
  | _ => []

/-- The calls of `onStateProceedingUas`. -/
def onStateProceedingUasCalls (tsx : Tsx) : TsxEvent → List Tsx
  | .rxMsg _ _ => sendMsgCalls cfg attempts tsx tsx.lastTx
  | .txMsg ⟨id, .response code cseqMethod⟩ =>
    let tdata : TxData := ⟨id, .response code cseqMethod⟩
    let tsx := { tsx with statusCode := code }
    let tsx := if tsx.lastTx ≠ some tdata then { tsx with lastTx := none } else tsx
    sendMsgCalls cfg attempts tsx (some tdata)
  | .retransmitTimer => retransmitCalls cfg attempts tsx true
  | _ => []

/-- The calls of `onStateTrying`. -/
def onStateTryingCalls (tsx : Tsx) : TsxEvent → List Tsx
  | .txMsg tdata => tsx.onStateProceedingUasCalls cfg attempts (.txMsg tdata)
  | _ => []

/-- The calls of `onStateCompletedUas`. -/
def onStateCompletedUasCalls (tsx : Tsx) : TsxEvent → List Tsx
  | .rxMsg (.request method) _ =>
    if method ≠ .ack then retransmitCalls cfg attempts tsx false else []
  | .retransmitTimer => retransmitCalls cfg attempts tsx true
  | _ => []

/-- The calls of `onStateCompletedUac`. -/
def onStateCompletedUacCalls (tsx : Tsx) : TsxEvent → List Tsx
  | .rxMsg (.response code _) _ =>
    if tsx.method = .invite ∧ code ≥ 200 then retransmitCalls cfg attempts tsx false else []
  | _ => []

/-- The calls of `tsx->state_handler`. -/
def handleCalls (tsx : Tsx) (event : TsxEvent) : List Tsx :=
  match tsx.state, tsx.role with
  | .null, _ => tsx.onStateNullCalls cfg attempts event
  | .calling, .uac => tsx.onStateCallingCalls cfg attempts event
  | .trying, .uas => tsx.onStateTryingCalls cfg attempts event
  | .proceeding, .uac => tsx.onStateProceedingUacCalls cfg attempts event
  | .proceeding, .uas => tsx.onStateProceedingUasCalls cfg attempts event
  | .completed, .uac => tsx.onStateCompletedUacCalls cfg attempts event
  | .completed, .uas => tsx.onStateCompletedUasCalls cfg attempts event
  | _, _ => []

end Calls

end Tsx

/-- The transactions at the calls of `tsx_resched_retransmission` that an event makes. -/
def reschedCalls (cfg : TsxCfg) (tsx : Tsx) : TsxAct → List Tsx
  | .sendMsg tdata attempts =>
    match tdata.or tsx.lastTx with
    | none => []
    | some tdata => tsx.handleCalls cfg attempts (.txMsg tdata)
  | .recvMsg msg ack attempts => tsx.handleCalls cfg attempts (.rxMsg msg ack)
  | .retransmitTimer attempts =>
    { tsx with retransmitTimer := {} }.handleCalls cfg attempts .retransmitTimer
  | .sendMsgCallback tdata outcome attempts =>
    let tsx :=
      if outcome.final ∨ tdata.id ∉ tsx.attached then
        { tsx with inFlight := tsx.inFlight.erase (.stateless tdata) }
      else tsx
    Tsx.sendMsgCallbackCalls (Tsx.sendMsg cfg attempts) (Tsx.sendMsgCalls cfg attempts) tdata tsx
      outcome
  | .transportCallback error attempts =>
    { tsx with inFlight := tsx.inFlight.erase .direct }.transportCallbackCalls
      (Tsx.sendMsg cfg attempts) (Tsx.sendMsgCalls cfg attempts) error
  | .retransmitNoState tdata attempts => Tsx.sendMsgCalls cfg attempts tsx (tdata.or tsx.lastTx)
  | _ => []

namespace Tsx

/-- The interval of a retransmission is computed without overflow, and is the one that it
should be. -/
structure Timely (cfg : TsxCfg) (tsx : Tsx) : Prop where
  /-- Neither the shift, of a signed 1, nor the product leaves 32 bits. -/
  fits : ¬(tsx.role = .uac ∧ 100 ≤ tsx.statusCode) →
    2 ^ tsx.retransmitCount < 2 ^ 31 ∧ 2 ^ tsx.retransmitCount * cfg.t1 < 2 ^ 32
  client : tsx.role = .uac → tsx.statusCode < 100 → tsx.method = .invite →
    tsx.retransmitDelay cfg = cfg.t1 * 2 ^ tsx.retransmitCount
  early : tsx.role = .uac → 100 ≤ tsx.statusCode → tsx.retransmitDelay cfg = cfg.t2
  provisional : tsx.role = .uas → tsx.statusCode < 200 → tsx.retransmitDelay cfg = provisionalDelay
  capped : (tsx.role = .uac ∧ tsx.statusCode < 100 ∧ tsx.method ≠ .invite ∨
      tsx.role = .uas ∧ 200 ≤ tsx.statusCode) →
    cfg.t1 ≤ tsx.retransmitDelay cfg ∧ tsx.retransmitDelay cfg ≤ cfg.t2

/-- With `n` retransmissions counted the interval can be computed in 32 bits. A client that has a
provisional response computes none. -/
def Fits (cfg : TsxCfg) (tsx : Tsx) (n : Nat) : Prop :=
  tsx.role = .uac ∧ 100 ≤ tsx.statusCode ∨ n < 31 ∧ 2 ^ n * cfg.t1 < 2 ^ 32

section Intervals

variable {cfg : TsxCfg} {tsx : Tsx}

theorem Fits.timely (ordered : cfg.t1 ≤ cfg.t2) (fits : Fits cfg tsx tsx.retransmitCount) :
    Timely cfg tsx := by
  have positive : 1 ≤ 2 ^ tsx.retransmitCount := Nat.one_le_two_pow
  have above : cfg.t1 ≤ 2 ^ tsx.retransmitCount * cfg.t1 := Nat.le_mul_of_pos_left _ positive
  rcases fits with ⟨client, early⟩ | ⟨short, fits⟩
  · refine ⟨fun late => absurd ⟨client, early⟩ late, fun _ late => by omega, fun _ _ => ?_,
      fun server => ?_, fun others => ?_⟩
    · simp [retransmitDelay, client, early]
    · rw [client] at server
      cases server
    · rcases others with ⟨_, late, _⟩ | ⟨server, _⟩
      · omega
      · rw [client] at server
        cases server
  · have same : 2 ^ tsx.retransmitCount * cfg.t1 % 2 ^ 32 = 2 ^ tsx.retransmitCount * cfg.t1 :=
      Nat.mod_eq_of_lt fits
    have shifted : 2 ^ tsx.retransmitCount < 2 ^ 31 := Nat.pow_lt_pow_right (by omega) short
    refine ⟨fun _ => ⟨shifted, fits⟩, fun client late invite => ?_, fun client early => ?_,
      fun server early => ?_, fun others => ?_⟩
    · rw [retransmitDelay, same, client]
      simp [Nat.not_le.2 late, invite, Nat.mul_comm]
    · simp [retransmitDelay, client, early]
    · simp [retransmitDelay, server, early]
    · rw [retransmitDelay, same]
      rcases others with ⟨client, late, other⟩ | ⟨server, final⟩
      · simp only [client, Nat.not_le.2 late, and_false, if_false, ne_eq, other,
          not_false_eq_true, and_true]
        split
        · exact ⟨ordered, Nat.le_refl _⟩
        · omega
      · simp only [server, reduceCtorEq, false_and, if_false, Nat.not_lt.2 final]
        split
        · exact ⟨ordered, Nat.le_refl _⟩
        · omega

theorem Timely.delay_pos (positive : 0 < cfg.t1) (ordered : cfg.t1 ≤ cfg.t2)
    (timely : Timely cfg tsx) : tsx.retransmitDelay cfg ≠ 0 := by
  cases role : tsx.role with
  | uac =>
    by_cases early : 100 ≤ tsx.statusCode
    · rw [timely.early role early]
      omega
    by_cases invite : tsx.method = .invite
    · rw [timely.client role (by omega) invite]
      have power : 0 < 2 ^ tsx.retransmitCount := Nat.two_pow_pos _
      exact Nat.mul_ne_zero (by omega) (by omega)
    · have bounds := (timely.capped (.inl ⟨role, by omega, invite⟩)).1
      omega
  | uas =>
    by_cases early : tsx.statusCode < 200
    · rw [timely.provisional role early]
      simp [provisionalDelay]
    · have bounds := (timely.capped (.inr ⟨role, by omega⟩)).1
      omega

end Intervals

/-- The calls on the way find no more retransmissions counted than there were, and only a
retransmission that was waiting to be scheduled leads to one. -/
structure Ripe (tsx : Tsx) (calls : List Tsx) (tsx' : Tsx) : Prop where
  role : tsx'.role = tsx.role
  count : tsx'.retransmitCount ≤ tsx.retransmitCount
  coded : tsx.role = .uac → 100 ≤ tsx.statusCode → 100 ≤ tsx'.statusCode
  marked : tsx'.pendingResched = true → tsx.pendingResched = true
  calls : ∀ call ∈ calls, tsx.pendingResched = true ∧ call.role = tsx.role ∧
    call.retransmitCount ≤ tsx.retransmitCount ∧
    (tsx.role = .uac → 100 ≤ tsx.statusCode → 100 ≤ call.statusCode)

/-- An interval that a handler starts the timer with. -/
def Begun (cfg : TsxCfg) (delay : Nat) : Prop :=
  delay = cfg.t1 ∨ delay = cfg.t2 ∨ delay = provisionalDelay

/-- The timer ends up idle, as it was, just started, or with the interval of one of the calls. -/
structure Accounted (cfg : TsxCfg) (tsx : Tsx) (calls : List Tsx) (tsx' : Tsx) : Prop where
  role : tsx'.role = tsx.role
  timer : ∀ delay ∈ tsx'.retransmitTimer.delay, tsx.retransmitTimer.delay = some delay ∨
    Begun cfg delay ∨ ∃ call ∈ calls, call.retransmitDelay cfg = delay

/-- A timer that is running stays as it is while the transaction lives. -/
structure Ticks (tsx tsx' : Tsx) : Prop where
  ended : 6 ≤ tsx.state.rank → 6 ≤ tsx'.state.rank
  timer : tsx.retransmitTimer.running = true →
    6 ≤ tsx'.state.rank ∨ tsx'.retransmitTimer = tsx.retransmitTimer

section Relations

variable {cfg : TsxCfg} {tsx tsx' : Tsx}

theorem Ripe.of_same (role : tsx'.role = tsx.role)
    (count : tsx'.retransmitCount ≤ tsx.retransmitCount)
    (code : tsx'.statusCode = tsx.statusCode)
    (marked : tsx'.pendingResched = true → tsx.pendingResched = true) : Ripe tsx [] tsx' := by
  refine ⟨role, count, fun _ early => ?_, marked, fun _ member => by cases member⟩
  rwa [code]

theorem reschedRetransmission_same (cfg : TsxCfg) (tsx : Tsx) : ∃ timer,
    tsx.reschedRetransmission cfg = { tsx with retransmitTimer := timer } ∧
      (timer = tsx.retransmitTimer ∨ timer = ⟨.retransmit, some (tsx.retransmitDelay cfg)⟩) ∧
      (tsx.retransmitTimer.running = true → timer = tsx.retransmitTimer) := by
  simp only [reschedRetransmission, TimerEntry.schedule]
  by_cases zero : tsx.retransmitDelay cfg = 0
  · rw [if_neg (not_not.2 zero)]
    exact ⟨tsx.retransmitTimer, rfl, .inl rfl, fun _ => rfl⟩
  · rw [if_pos zero]
    by_cases running : tsx.retransmitTimer.running = true
    · rw [if_pos running]
      exact ⟨tsx.retransmitTimer, rfl, .inl rfl, fun _ => rfl⟩
    · rw [if_neg running]
      exact ⟨_, rfl, .inr rfl, fun now => absurd now running⟩

theorem Ripe.closed (cfg : TsxCfg) : Closed cfg Ripe where
  trans := by
    intro tsx tsx' tsx'' calls calls' first second
    refine ⟨second.role.trans first.role, second.count.trans first.count, fun client early => ?_,
      fun marked => first.marked (second.marked marked), fun call mem => ?_⟩
    · exact second.coded (first.role.trans client) (first.coded client early)
    · rcases List.mem_append.1 mem with mem | mem
      · exact first.calls call mem
      · obtain ⟨marked, role, count, coded⟩ := second.calls call mem
        refine ⟨first.marked marked, role.trans first.role, count.trans first.count, ?_⟩
        intro client early
        exact coded (first.role.trans client) (first.coded client early)
  aside same := by
    refine .of_same same.role (Nat.le_of_eq same.retransmitCount) same.statusCode fun marked => ?_
    rwa [same.pendingResched] at marked
  clear _ := .of_same rfl (Nat.le_refl _) rfl fun marked => Bool.noConfusion marked
  resched tsx marked := by
    obtain ⟨timer, eq, -⟩ := reschedRetransmission_same cfg { tsx with pendingResched := false }
    rw [eq]
    refine ⟨rfl, Nat.le_refl _, fun _ => id, fun marked' => Bool.noConfusion marked', fun call mem => ?_⟩
    rw [List.mem_singleton.1 mem]
    exact ⟨marked, rfl, Nat.le_refl _, fun _ => id⟩
  reset tsx := .of_same rfl (Nat.zero_le _) rfl id
  terminated tsx code coded := by
    obtain ⟨_, _, eq⟩ := setState_terminated { tsx with statusCode := code } {}
    rw [setStatus, eq]
    exact ⟨rfl, Nat.le_refl _, fun _ _ => coded, id, fun _ member => by cases member⟩
  destroyed tsx := by
    obtain ⟨_, _, _, _, eq⟩ := setState_destroyed tsx
    rw [eq]
    exact .of_same rfl (Nat.le_refl _) rfl fun marked => Bool.noConfusion marked
  failed tsx code coded := by
    obtain ⟨_, _, _, _, eq⟩ := setState_destroyed { tsx with statusCode := code }
    rw [setStatus, eq]
    exact ⟨rfl, Nat.le_refl _, fun _ _ => coded, fun marked => Bool.noConfusion marked,
      fun _ member => by cases member⟩

theorem Accounted.of_same {calls : List Tsx} (role : tsx'.role = tsx.role)
    (timer : tsx'.retransmitTimer = tsx.retransmitTimer) :
    Accounted cfg tsx calls tsx' := by
  refine ⟨role, fun delay mem => ?_⟩
  rw [timer] at mem
  exact .inl mem

theorem Accounted.of_idle {calls : List Tsx} (role : tsx'.role = tsx.role)
    (idle : tsx'.retransmitTimer.running = false) :
    Accounted cfg tsx calls tsx' := by
  refine ⟨role, fun delay mem => ?_⟩
  rw [TimerEntry.running, Option.mem_def.1 mem] at idle
  cases idle

theorem Accounted.closed (cfg : TsxCfg) : Closed cfg (Accounted cfg) where
  trans := by
    intro tsx tsx' tsx'' calls calls' first second
    refine ⟨second.role.trans first.role, fun delay mem => ?_⟩
    rcases second.timer delay mem with before | begun | ⟨call, made, interval⟩
    · rcases first.timer delay before with before | begun | ⟨call, made, interval⟩
      · exact .inl before
      · exact .inr (.inl begun)
      · exact .inr (.inr ⟨call, List.mem_append_left _ made, interval⟩)
    · exact .inr (.inl begun)
    · exact .inr (.inr ⟨call, List.mem_append_right _ made, interval⟩)
  aside same := .of_same same.role same.retransmitTimer
  clear _ := .of_same rfl rfl
  resched tsx _ := by
    obtain ⟨timer, eq, kinds, -⟩ :=
      reschedRetransmission_same cfg { tsx with pendingResched := false }
    rw [eq]
    refine ⟨rfl, fun delay mem => ?_⟩
    rcases kinds with same | fresh
    · exact .inl (by rwa [same] at mem)
    · refine .inr (.inr ⟨_, List.mem_singleton.2 rfl, ?_⟩)
      rw [fresh] at mem
      exact Option.some.inj mem
  reset _ := .of_same rfl rfl
  terminated tsx code _ := by
    obtain ⟨_, _, eq⟩ := setState_terminated { tsx with statusCode := code } {}
    rw [setStatus, eq]
    exact .of_same rfl rfl
  destroyed tsx := by
    obtain ⟨_, _, _, _, eq⟩ := setState_destroyed tsx
    rw [eq]
    exact .of_idle rfl (cancel_running _)
  failed tsx code _ := by
    obtain ⟨_, _, _, _, eq⟩ := setState_destroyed { tsx with statusCode := code }
    rw [setStatus, eq]
    exact .of_idle rfl (cancel_running _)

theorem Ticks.of_same (state : tsx'.state = tsx.state)
    (timer : tsx'.retransmitTimer = tsx.retransmitTimer) : Ticks tsx tsx' := by
  refine ⟨fun ended => ?_, fun _ => .inr timer⟩
  rwa [state]

theorem Ticks.of_ended (ended : 6 ≤ tsx'.state.rank) : Ticks tsx tsx' :=
  ⟨fun _ => ended, fun _ => .inl ended⟩

theorem Ticks.closed (cfg : TsxCfg) : Closed cfg (fun tsx _ tsx' => Ticks tsx tsx') where
  trans := by
    intro tsx tsx' tsx'' calls calls' first second
    refine ⟨fun ended => second.ended (first.ended ended), fun running => ?_⟩
    rcases first.timer running with ended | same
    · exact .inl (second.ended ended)
    · rw [← same] at running ⊢
      exact second.timer running
  aside same := .of_same same.state same.retransmitTimer
  clear _ := .of_same rfl rfl
  resched tsx _ := by
    obtain ⟨timer, eq, -, stays⟩ :=
      reschedRetransmission_same cfg { tsx with pendingResched := false }
    rw [eq]
    exact ⟨id, fun running => .inr (stays running)⟩
  reset _ := .of_same rfl rfl
  terminated tsx code _ := by
    obtain ⟨_, _, eq⟩ := setState_terminated { tsx with statusCode := code } {}
    rw [setStatus, eq]
    exact .of_ended (Nat.le_refl 6)
  destroyed tsx := by
    obtain ⟨_, _, _, _, eq⟩ := setState_destroyed tsx
    rw [eq]
    exact .of_ended (by simp [TsxState.rank])
  failed tsx code _ := by
    obtain ⟨_, _, _, _, eq⟩ := setState_destroyed { tsx with statusCode := code }
    rw [setStatus, eq]
    exact .of_ended (by simp [TsxState.rank])

end Relations

section Retransmissions

variable {cfg : TsxCfg} {attempts : List Attempt} {tsx tsx' : Tsx}

theorem retransmit_accounted (resched : Bool) :
    Accounted cfg tsx (retransmitCalls cfg attempts tsx resched)
      (retransmit cfg attempts tsx resched).1 := by
  have closed := Accounted.closed cfg
  have counts : Accounted cfg tsx [] tsx.counted := .of_same rfl rfl
  have sends : ∀ tsx tdata, Accounted cfg tsx (sendMsgCalls cfg attempts tsx tdata)
      (sendMsg cfg attempts tsx tdata).1 := closed.sendMsg attempts
  rw [retransmitCalls, retransmit]
  split
  · exact closed.refl tsx
  cases last : tsx.lastTx with
  | none => exact closed.refl tsx
  | some tdata =>
    dsimp only
    rw [← last]
    split
    · exact closed.aside (restartTimeout_aside tsx 0 .timeout)
    split
    · split
      · have marked : Accounted cfg tsx [] { tsx.counted with pendingResched := true } :=
          .of_same rfl rfl
        exact closed.after marked (sends _ _)
      · obtain ⟨timer, eq, kinds, -⟩ := reschedRetransmission_same cfg tsx.counted
        have called : Accounted cfg tsx [tsx.counted] (tsx.counted.reschedRetransmission cfg) := by
          rw [eq]
          refine ⟨rfl, fun delay mem => ?_⟩
          rcases kinds with same | fresh
          · exact .inl (by rwa [same] at mem)
          · refine .inr (.inr ⟨_, List.mem_singleton.2 rfl, ?_⟩)
            rw [fresh] at mem
            exact Option.some.inj mem
        exact closed.trans called (sends _ _)
    · exact closed.after counts (sends _ _)

theorem startRetransmit_accounted {delay : Nat} (begun : Begun cfg delay) (tsx : Tsx) :
    Accounted cfg tsx [] (tsx.startRetransmit delay) := by
  rw [startRetransmit, TimerEntry.schedule]
  split
  · exact .of_same rfl rfl
  split
  · exact .of_same rfl rfl
  · refine ⟨rfl, fun started mem => .inr (.inl ?_)⟩
    cases mem
    exact begun

theorem setState_low_accounted (state : TsxState) (low : state.rank < 6) (tsx : Tsx) :
    Accounted cfg tsx [] (tsx.setState state {}) := by
  rw [setState_low low]
  exact .of_same rfl rfl

theorem setState_terminated_accounted (flags : SetFlags) (tsx : Tsx) :
    Accounted cfg tsx [] (tsx.setState .terminated flags) := by
  obtain ⟨_, _, eq⟩ := setState_terminated tsx flags
  rw [eq]
  exact .of_same rfl rfl

theorem cancelRetransmit_accounted (cfg : TsxCfg) (tsx : Tsx) :
    Accounted cfg tsx [] tsx.cancelRetransmit :=
  .of_idle rfl (cancel_running _)

end Retransmissions

section Handlers

variable {cfg : TsxCfg} {attempts : List Attempt} {tsx : Tsx} {event : TsxEvent}

theorem sendMsg_accounted (cfg : TsxCfg) (attempts : List Attempt) (tsx : Tsx)
    (tdata : Option TxData) : Accounted cfg tsx (sendMsgCalls cfg attempts tsx tdata)
      (sendMsg cfg attempts tsx tdata).1 := (Accounted.closed cfg).sendMsg attempts tsx tdata

theorem onStateNull_accounted (tsx : Tsx) :
    Accounted cfg tsx (tsx.onStateNullCalls cfg attempts event)
      (tsx.onStateNull cfg attempts event).1 := by
  have closed := Accounted.closed cfg
  unfold onStateNull
  by_cases server : tsx.role = .uas
  · have trying : Accounted cfg tsx [] (tsx.setState .trying {}) :=
      setState_low_accounted .trying (by simp [TsxState.rank]) tsx
    rw [if_pos server]
    cases event with
    | txMsg tdata =>
      rw [onStateNullCalls, if_pos server]
      exact trying
    | rxMsg msg ack => exact trying
    | retransmitTimer => exact trying
    | timeoutTimer => exact trying
  rw [if_neg server]
  cases event with
  | txMsg tdata =>
    have stored : Accounted cfg tsx [] { tsx with lastTx := some tdata } := .of_same rfl rfl
    have sent := closed.after stored (sendMsg_accounted cfg attempts _ (some tdata))
    rw [onStateNullCalls, if_neg server]
    dsimp only
    generalize sendMsg cfg attempts { tsx with lastTx := some tdata } (some tdata) = answer
      at sent ⊢
    split
    · exact sent
    · have timed := closed.before sent
        (closed.aside (restartTimeout_aside _ cfg.timeout .timeout))
      refine closed.before ?_ (setState_low_accounted .calling (by simp [TsxState.rank]) _)
      split
      · exact timed
      · have reset := closed.before timed (closed.reset _)
        exact closed.before reset (startRetransmit_accounted (.inl rfl) _)
  | rxMsg msg ack => exact closed.refl tsx
  | retransmitTimer => exact closed.refl tsx
  | timeoutTimer => exact closed.refl tsx

theorem completeUac_accounted (ack : Option TxData) (tsx : Tsx) :
    Accounted cfg tsx [] (tsx.completeUac cfg ack).1 := by
  have closed := Accounted.closed cfg
  have completed : Accounted cfg tsx [] (tsx.setState .completed {}) :=
    setState_low_accounted .completed (by simp [TsxState.rank]) tsx
  refine closed.after completed (closed.before ?_ (closed.aside (restartTimeout_aside _ _ _)))
  split
  · exact .of_same rfl rfl
  · exact closed.refl _

theorem onResponse_accounted (code : Nat) (cseqMethod : MethodId) (ack : Except Fault Nat) :
    Accounted cfg tsx (tsx.onResponseCalls cfg attempts code ack)
      (tsx.onStateProceedingUac cfg attempts (.rxMsg (.response code cseqMethod) ack)).1 := by
  have closed := Accounted.closed cfg
  have coded : Accounted cfg tsx [] { tsx with statusCode := code } := .of_same rfl rfl
  rw [onStateProceedingUac]
  unfold onResponseCalls
  by_cases provisional : isStatusInClass code 100 = true
  · have range : code / 100 = 100 / 100 := of_decide_eq_true provisional
    rw [if_pos provisional, if_neg (by omega)]
    exact closed.after coded (setState_low_accounted .proceeding (by simp [TsxState.rank]) _)
  rw [if_neg provisional]
  by_cases successful : isStatusInClass code 200 = true
  · have range : code / 100 = 200 / 100 := of_decide_eq_true successful
    have stopped : Accounted cfg tsx []
        { tsx with statusCode := code, timeoutTimer := tsx.timeoutTimer.cancel } :=
      .of_same rfl rfl
    rw [if_pos successful, if_neg (by omega)]
    dsimp only
    split
    · exact closed.after stopped (setState_terminated_accounted {} _)
    · have lingers : Accounted cfg tsx []
          { tsx with
            statusCode := code
            timeoutTimer := tsx.timeoutTimer.cancel.schedule (lingerTime cfg { tsx with
                statusCode := code, timeoutTimer := tsx.timeoutTimer.cancel }) .timeout } :=
        .of_same rfl rfl
      exact closed.after (closed.after lingers (cancelRetransmit_accounted cfg _))
        (setState_low_accounted .completed (by simp [TsxState.rank]) _)
  rw [if_neg successful]
  by_cases final : 300 ≤ code ∧ code ≤ 699
  · have cancelled : Accounted cfg tsx []
        { { tsx with statusCode := code }.cancelRetransmit with
          timeoutTimer := tsx.timeoutTimer.cancel } := .of_idle rfl (cancel_running _)
    rw [if_pos final]
    by_cases invite : tsx.method = .invite
    · have same : ({ tsx with statusCode := code }.cancelRetransmit).method = .invite := invite
      rw [if_pos ⟨final.1, final.2, invite⟩, if_pos same]
      cases ack with
      | error error => exact cancelled
      | ok id =>
        rw [acknowledge]
        have sent := closed.after cancelled
          (sendMsg_accounted cfg attempts _ (some ⟨id, .request .ack⟩))
        dsimp only
        split
        · exact sent
        · exact closed.before sent (completeUac_accounted _ _)
    · have other : ({ tsx with statusCode := code }.cancelRetransmit).method ≠ .invite := invite
      rw [if_neg fun both => invite both.2.2, if_neg other]
      split
      · exact closed.after cancelled (setState_terminated_accounted {} _)
      · exact closed.after cancelled (completeUac_accounted none _)
  · rw [if_neg final, if_neg fun both => final ⟨both.1, both.2.1⟩]
    exact coded

theorem onFirstResponse_accounted (code : Nat) (tsx : Tsx) :
    Accounted cfg tsx [] (tsx.onFirstResponse cfg code) := by
  have idle : ∀ tsx' : Tsx, tsx'.role = tsx.role →
      tsx'.retransmitTimer = tsx.retransmitTimer.cancel →
      Accounted cfg tsx [] tsx' := by
    intro tsx' role timer
    refine .of_idle role ?_
    rw [timer]
    exact cancel_running _
  rw [onFirstResponse]
  split
  · split
    · exact idle _ rfl rfl
    · exact idle _ rfl rfl
  split
  · exact idle _ rfl rfl
  split
  · exact idle _ rfl rfl
  · refine ⟨rfl, fun delay mem => .inr (.inl (.inr (.inl ?_)))⟩
    simp only [cancelRetransmit, cancel_schedule, Option.mem_def, Option.some.injEq] at mem
    exact mem.symm

theorem completeUas_accounted (tdata : TxData) (retransmits : Bool) (tsx : Tsx) :
    Accounted cfg tsx [] (tsx.completeUas cfg tdata retransmits) := by
  have closed := Accounted.closed cfg
  have stored : Accounted cfg tsx [] { tsx with lastTx := some tdata } := .of_same rfl rfl
  have timed := closed.after stored (closed.aside (restartTimeout_aside _
    (if tsx.method = .invite ∨ !tsx.isReliable then cfg.timeout else 0) .timeout))
  refine closed.before ?_ (setState_low_accounted .completed (by simp [TsxState.rank]) _)
  split
  · have reset := closed.before timed (closed.reset _)
    exact closed.before reset (startRetransmit_accounted (.inl rfl) _)
  · exact timed

theorem onAnswered_accounted (tdata : TxData) (cseqMethod : MethodId) (tsx : Tsx) :
    Accounted cfg tsx [] (tsx.onAnswered cfg tdata cseqMethod) := by
  have closed := Accounted.closed cfg
  have cancelled := cancelRetransmit_accounted cfg tsx
  rw [onAnswered]
  split
  · have stored : Accounted cfg tsx [] { tsx with lastTx := some tdata } := .of_same rfl rfl
    have proceeding := closed.before stored
      (setState_low_accounted .proceeding (by simp [TsxState.rank]) _)
    dsimp only
    split
    · have stopped := closed.before proceeding (cancelRetransmit_accounted cfg _)
      have reset := closed.before stopped (closed.reset _)
      exact closed.before reset (startRetransmit_accounted (.inr (.inr rfl)) _)
    · exact proceeding
  split
  · dsimp only
    split
    · exact closed.after cancelled (setState_terminated_accounted {} _)
    · exact closed.after cancelled (completeUas_accounted tdata _ _)
  split
  · exact closed.after cancelled (completeUas_accounted tdata _ _)
  · exact closed.refl tsx

theorem setStatus_terminated_accounted (code : Nat) (tsx : Tsx) :
    Accounted cfg tsx [] (tsx.setStatus code .terminated {}) := by
  have coded : Accounted cfg tsx [] { tsx with statusCode := code } := .of_same rfl rfl
  exact (Accounted.closed cfg).after coded (setState_terminated_accounted {} _)

theorem onStateProceedingUac_accounted (tsx : Tsx) :
    Accounted cfg tsx (tsx.onStateProceedingUacCalls cfg attempts event)
      (tsx.onStateProceedingUac cfg attempts event).1 := by
  have closed := Accounted.closed cfg
  cases event with
  | txMsg tdata => exact closed.refl tsx
  | retransmitTimer => exact retransmit_accounted true
  | timeoutTimer => exact setStatus_terminated_accounted 408 tsx
  | rxMsg msg ack =>
    cases msg with
    | request method => exact closed.refl tsx
    | response code cseqMethod => exact onResponse_accounted code cseqMethod ack

theorem onStateCalling_accounted (tsx : Tsx) :
    Accounted cfg tsx (tsx.onStateCallingCalls cfg attempts event)
      (tsx.onStateCalling cfg attempts event).1 := by
  have closed := Accounted.closed cfg
  cases event with
  | txMsg tdata => exact closed.refl tsx
  | retransmitTimer => exact retransmit_accounted true
  | timeoutTimer =>
    have stopped := closed.after (cancelRetransmit_accounted cfg tsx) (closed.clear _)
    exact closed.after stopped (setStatus_terminated_accounted 408 _)
  | rxMsg msg ack =>
    cases msg with
    | request method => exact closed.refl tsx
    | response code cseqMethod =>
      exact closed.after (onFirstResponse_accounted code tsx)
        (onResponse_accounted code cseqMethod ack)

theorem onStateProceedingUas_accounted (tsx : Tsx) :
    Accounted cfg tsx (tsx.onStateProceedingUasCalls cfg attempts event)
      (tsx.onStateProceedingUas cfg attempts event).1 := by
  have closed := Accounted.closed cfg
  cases event with
  | rxMsg msg ack =>
    have sent := sendMsg_accounted cfg attempts tsx tsx.lastTx
    rw [onStateProceedingUas]
    split
    · exact .of_same rfl rfl
    split
    · exact .of_same rfl rfl
    · exact sent
  | retransmitTimer => exact retransmit_accounted true
  | timeoutTimer => exact setStatus_terminated_accounted 408 tsx
  | txMsg tdata =>
    obtain ⟨id, msg⟩ := tdata
    cases msg with
    | request method => exact closed.refl tsx
    | response code cseqMethod =>
      rw [onStateProceedingUas, onStateProceedingUasCalls]
      generalize before : (if { tsx with statusCode := code }.lastTx ≠
          some ⟨id, .response code cseqMethod⟩ then
          { tsx with statusCode := code, lastTx := none }
        else { tsx with statusCode := code }) = tsx₁
      have coded : Accounted cfg tsx [] tsx₁ := by
        rw [← before]
        split
        · exact .of_same rfl rfl
        · exact .of_same rfl rfl
      have sent := closed.after coded
        (sendMsg_accounted cfg attempts tsx₁ (some ⟨id, .response code cseqMethod⟩))
      dsimp only
      split
      · exact sent
      · exact closed.before sent (onAnswered_accounted _ cseqMethod _)

theorem onStateTrying_accounted (tsx : Tsx) :
    Accounted cfg tsx (tsx.onStateTryingCalls cfg attempts event)
      (tsx.onStateTrying cfg attempts event).1 := by
  have closed := Accounted.closed cfg
  cases event with
  | rxMsg msg ack => exact closed.refl tsx
  | retransmitTimer => exact closed.refl tsx
  | timeoutTimer => exact closed.refl tsx
  | txMsg tdata =>
    have answered : Accounted cfg tsx (tsx.onStateProceedingUasCalls cfg attempts (.txMsg tdata))
        (tsx.onStateProceedingUas cfg attempts (.txMsg tdata)).1 :=
      onStateProceedingUas_accounted tsx
    rw [onStateTrying, onStateTryingCalls]
    dsimp only
    split
    · exact closed.before answered
        (setState_low_accounted .proceeding (by simp [TsxState.rank]) _)
    · exact answered

theorem onStateCompletedUas_accounted (tsx : Tsx) :
    Accounted cfg tsx (tsx.onStateCompletedUasCalls cfg attempts event)
      (tsx.onStateCompletedUas cfg attempts event).1 := by
  have closed := Accounted.closed cfg
  cases event with
  | retransmitTimer => exact retransmit_accounted true
  | txMsg tdata => exact closed.refl tsx
  | timeoutTimer =>
    rw [onStateCompletedUas, onStateCompletedUasCalls]
    · split
      · exact setStatus_terminated_accounted 408 tsx
      · exact setState_terminated_accounted {} tsx
    all_goals simp
  | rxMsg msg ack =>
    cases msg with
    | response code cseqMethod => exact closed.refl tsx
    | request method =>
      rw [onStateCompletedUas, onStateCompletedUasCalls]
      by_cases again : method ≠ .ack
      · rw [if_pos again, if_pos again]
        exact retransmit_accounted false
      rw [if_neg again, if_neg again]
      split
      · exact closed.refl tsx
      · have stopped := closed.after (cancelRetransmit_accounted cfg tsx) (closed.clear _)
        exact closed.before
          (closed.before stopped (closed.aside (restartTimeout_aside _ _ .timeout)))
          (setState_low_accounted .confirmed (by simp [TsxState.rank]) _)

theorem onStateCompletedUac_accounted (tsx : Tsx) :
    Accounted cfg tsx (tsx.onStateCompletedUacCalls cfg attempts event)
      (tsx.onStateCompletedUac cfg attempts event).1 := by
  have closed := Accounted.closed cfg
  cases event with
  | retransmitTimer => exact closed.refl tsx
  | txMsg tdata => exact closed.refl tsx
  | timeoutTimer => exact setState_terminated_accounted {} tsx
  | rxMsg msg ack =>
    unfold onStateCompletedUac onStateCompletedUacCalls
    dsimp only
    by_cases invite : tsx.method = .invite
    · rw [if_pos invite]
      cases msg with
      | request method => exact closed.refl tsx
      | response code cseqMethod =>
        dsimp only
        by_cases final : code ≥ 200
        · rw [if_pos final, if_pos ⟨invite, final⟩]
          exact retransmit_accounted false
        · rw [if_neg final, if_neg fun both => final both.2]
          exact closed.refl tsx
    · rw [if_neg invite]
      cases msg with
      | request method => exact closed.refl tsx
      | response code cseqMethod =>
        dsimp only
        rw [if_neg fun both => invite both.1]
        exact closed.refl tsx

theorem handle_accounted {answer : Tsx × SipStatus}
    (taken : tsx.handle cfg attempts event = some answer) :
    Accounted cfg tsx (tsx.handleCalls cfg attempts event) answer.1 := by
  have closed := Accounted.closed cfg
  have stays := closed.refl tsx
  unfold handle at taken
  unfold handleCalls
  split at taken <;> cases taken
  · next state =>
    rw [state]
    exact onStateNull_accounted tsx
  · next state role =>
    rw [state, role]
    exact onStateCalling_accounted tsx
  · next state role =>
    rw [state, role]
    exact onStateTrying_accounted tsx
  · next state role =>
    rw [state, role]
    exact onStateProceedingUac_accounted tsx
  · next state role =>
    rw [state, role]
    exact onStateProceedingUas_accounted tsx
  · next state role =>
    rw [state, role]
    exact onStateCompletedUac_accounted tsx
  · next state role =>
    rw [state, role]
    exact onStateCompletedUas_accounted tsx
  · next state =>
    rw [state]
    cases event with
    | retransmitTimer => exact stays
    | timeoutTimer => exact setState_terminated_accounted {} tsx
    | txMsg tdata => exact stays
    | rxMsg msg ack => cases msg <;> exact stays
  · next state =>
    rw [state]
    cases event with
    | retransmitTimer => exact closed.destroyed tsx
    | timeoutTimer => exact closed.destroyed tsx
    | txMsg tdata => exact stays
    | rxMsg msg ack => exact stays
  · next state =>
    rw [state]
    exact stays

end Handlers

/-- There is a message to send again, and it may be. -/
def repeats (cfg : TsxCfg) (tsx : Tsx) : Bool :=
  match tsx.lastTx with
  | none => false
  | some tdata => ¬(cfg.maxRetransCount.any (· ≤ tsx.retransmitCount) ∧ tdata.msg.isRequest)

/-- The states that retransmit when the timer expires. -/
def retransmitsOnTimer (tsx : Tsx) : Bool :=
  match tsx.state, tsx.role with
  | .calling, .uac => true
  | .proceeding, _ => true
  | .completed, .uas => true
  | _, _ => false

/-- A retransmission that waits to be scheduled, though no send is pending, can be. -/
def Waits (cfg : TsxCfg) (tsx : Tsx) (n : Nat) : Prop :=
  tsx.pendingResched = true → tsx.pendingTransport = false → Fits cfg tsx n

section Counts

variable {cfg : TsxCfg} {attempts : List Attempt} {tsx call : Tsx} {event : TsxEvent} {n : Nat}

theorem Fits.carry (fits : Fits cfg tsx n) (role : call.role = tsx.role)
    (count : call.retransmitCount ≤ n)
    (coded : tsx.role = .uac → 100 ≤ tsx.statusCode → 100 ≤ call.statusCode) :
    Fits cfg call call.retransmitCount := by
  rcases fits with ⟨client, early⟩ | ⟨short, fits⟩
  · exact .inl ⟨role.trans client, coded client early⟩
  · have power : 2 ^ call.retransmitCount ≤ 2 ^ n := Nat.pow_le_pow_right (by omega) count
    have product := Nat.mul_le_mul_right cfg.t1 power
    exact .inr ⟨by omega, by omega⟩

theorem sendMsgCalls_pending (pending : tsx.pendingTransport = true) (tdata : Option TxData) :
    sendMsgCalls cfg attempts tsx tdata = [] := by
  cases attempts with
  | nil =>
    cases tdata with
    | none => rfl
    | some tdata => exact if_pos (.inl pending)
  | cons attempt attempts =>
    cases tdata with
    | none => rfl
    | some tdata => exact if_pos (.inl pending)

theorem sendMsgCalls_fits {tdata : Option TxData} (waits : Waits cfg tsx n)
    (count : tsx.retransmitCount ≤ n) (made : call ∈ sendMsgCalls cfg attempts tsx tdata) :
    Fits cfg call call.retransmitCount := by
  cases pending : tsx.pendingTransport with
  | true =>
    rw [sendMsgCalls_pending pending] at made
    cases made
  | false =>
    have ripe := (Ripe.closed cfg).sendMsg attempts tsx tdata
    obtain ⟨marked, role, counted, coded⟩ := ripe.calls call made
    exact (waits marked pending).carry role (by omega) coded

theorem retransmitCalls_fits {resched : Bool}
    (expired : resched = true → tsx.repeats cfg = true → tsx.pendingTransport = false →
      Fits cfg tsx (tsx.retransmitCount + 1))
    (waits : resched = false → Waits cfg tsx (tsx.retransmitCount + 1))
    (made : call ∈ retransmitCalls cfg attempts tsx resched) :
    Fits cfg call call.retransmitCount := by
  rw [retransmitCalls] at made
  split at made
  · cases made
  split at made
  · cases made
  next tdata last =>
  split at made
  · cases made
  next more =>
  have repeats : tsx.repeats cfg = true := by
    rw [Tsx.repeats, last]
    exact decide_eq_true more
  split at made
  · next again =>
    split at made
    · next pending =>
      have queued : ({ tsx.counted with pendingResched := true } : Tsx).pendingTransport = true :=
        pending
      rw [sendMsgCalls_pending queued] at made
      cases made
    · next idle =>
      have idle := (Bool.not_eq_true _).mp idle
      have fits := expired again repeats idle
      rcases List.mem_cons.1 made with rfl | made
      · exact fits
      · obtain ⟨timer, eq, -⟩ := reschedRetransmission_same cfg tsx.counted
        rw [eq] at made
        have later : Waits cfg { tsx.counted with retransmitTimer := timer }
            (tsx.retransmitCount + 1) := fun _ _ => fits
        exact sendMsgCalls_fits later (Nat.le_refl _) made
  · next once =>
    have later : Waits cfg tsx.counted (tsx.retransmitCount + 1) :=
      waits ((Bool.not_eq_true _).mp once)
    exact sendMsgCalls_fits later (Nat.le_refl _) made

theorem onResponseCalls_fits {code : Nat} {ack : Except Fault Nat} (client : tsx.role = .uac)
    (made : call ∈ tsx.onResponseCalls cfg attempts code ack) :
    Fits cfg call call.retransmitCount := by
  unfold onResponseCalls at made
  split at made
  · next final =>
    cases ack with
    | error error => cases made
    | ok id =>
      have late : Waits cfg { { tsx with statusCode := code }.cancelRetransmit with
            timeoutTimer := tsx.timeoutTimer.cancel } tsx.retransmitCount :=
        fun _ _ => .inl ⟨client, Nat.le_trans (by omega) final.1⟩
      exact sendMsgCalls_fits late (Nat.le_refl _) made
  · cases made

theorem onFirstResponse_role (code : Nat) (tsx : Tsx) :
    (tsx.onFirstResponse cfg code).role = tsx.role :=
  (onFirstResponse_accounted code tsx).role

theorem onStateProceedingUasCalls_fits (server : tsx.role = .uas)
    (waits : Waits cfg tsx (tsx.retransmitCount + 1)) (message : event ≠ .retransmitTimer)
    (made : call ∈ tsx.onStateProceedingUasCalls cfg attempts event) :
    Fits cfg call call.retransmitCount := by
  have fitting : ∀ n, Fits cfg tsx n → n < 31 ∧ 2 ^ n * cfg.t1 < 2 ^ 32 := by
    intro n fits
    rcases fits with ⟨client, -⟩ | fits
    · rw [server] at client
      cases client
    · exact fits
  cases event with
  | rxMsg msg ack => exact sendMsgCalls_fits waits (Nat.le_succ _) made
  | retransmitTimer => exact absurd rfl message
  | timeoutTimer => cases made
  | txMsg tdata =>
    obtain ⟨id, msg⟩ := tdata
    cases msg with
    | request method => cases made
    | response code cseqMethod =>
      rw [onStateProceedingUasCalls] at made
      -- The status code makes no difference to a server.
      generalize before : (if { tsx with statusCode := code }.lastTx ≠
          some ⟨id, .response code cseqMethod⟩ then
          { tsx with statusCode := code, lastTx := none }
        else { tsx with statusCode := code }) = tsx₁ at made
      have same : Waits cfg tsx₁ (tsx.retransmitCount + 1) ∧
          tsx₁.retransmitCount = tsx.retransmitCount := by
        rw [← before]
        split
        · exact ⟨fun marked idle => .inr (fitting _ (waits marked idle)), rfl⟩
        · exact ⟨fun marked idle => .inr (fitting _ (waits marked idle)), rfl⟩
      exact sendMsgCalls_fits same.1 (by omega) made

theorem handleCalls_timeout : tsx.handleCalls cfg attempts .timeoutTimer = [] := by
  unfold handleCalls
  split <;> rfl

theorem handleCalls_fits (waits : Waits cfg tsx (tsx.retransmitCount + 1))
    (message : event ≠ .retransmitTimer) (made : call ∈ tsx.handleCalls cfg attempts event) :
    Fits cfg call call.retransmitCount := by
  have repeated : ∀ {call}, call ∈ retransmitCalls cfg attempts tsx false →
      Fits cfg call call.retransmitCount :=
    retransmitCalls_fits (fun resched => Bool.noConfusion resched) fun _ => waits
  cases event with
  | retransmitTimer => exact absurd rfl message
  | timeoutTimer =>
    rw [handleCalls_timeout] at made
    cases made
  | txMsg tdata =>
    unfold handleCalls at made
    split at made
    · rw [onStateNullCalls] at made
      split at made
      · cases made
      · have same : Waits cfg { tsx with lastTx := some tdata } (tsx.retransmitCount + 1) := waits
        exact sendMsgCalls_fits same (Nat.le_succ _) made
    · cases made
    · next server => exact onStateProceedingUasCalls_fits server waits message made
    · cases made
    · next server => exact onStateProceedingUasCalls_fits server waits message made
    · cases made
    · cases made
    · cases made
  | rxMsg msg ack =>
    unfold handleCalls at made
    cases msg with
    | request method =>
      split at made
      · cases made
      · cases made
      · cases made
      · cases made
      · next server => exact onStateProceedingUasCalls_fits server waits message made
      · cases made
      · rw [onStateCompletedUasCalls] at made
        split at made
        · exact repeated made
        · cases made
      · cases made
    | response code cseqMethod =>
      split at made
      · cases made
      · next client =>
        exact onResponseCalls_fits ((onFirstResponse_role code tsx).trans client) made
      · cases made
      · next client => exact onResponseCalls_fits client made
      · next server => exact onStateProceedingUasCalls_fits server waits message made
      · rw [onStateCompletedUacCalls] at made
        split at made
        · exact repeated made
        · cases made
      · cases made
      · cases made

theorem handleCalls_timer_fits (expired : tsx.retransmitsOnTimer = true → tsx.repeats cfg = true →
      tsx.pendingTransport = false → Fits cfg tsx (tsx.retransmitCount + 1))
    (made : call ∈ tsx.handleCalls cfg attempts .retransmitTimer) :
    Fits cfg call call.retransmitCount := by
  have repeated : tsx.retransmitsOnTimer = true → call ∈ retransmitCalls cfg attempts tsx true →
      Fits cfg call call.retransmitCount := fun here made =>
    retransmitCalls_fits (fun _ => expired here) (fun resched => Bool.noConfusion resched) made
  unfold handleCalls at made
  rw [retransmitsOnTimer] at repeated
  split at made
  · cases made
  · next state client => exact repeated (by rw [state, client]) made
  · cases made
  · next state client => exact repeated (by rw [state]) made
  · next state server => exact repeated (by rw [state]) made
  · cases made
  · next state server => exact repeated (by rw [state, server]) made
  · cases made

end Counts

end Tsx

/-- How many retransmissions are counted when an event may schedule one. -/
def reschedCount (cfg : TsxCfg) (tsx : Tsx) : TsxAct → Option Nat
  | .retransmitTimer _ =>
    if tsx.retransmitsOnTimer ∧ tsx.repeats cfg ∧ !tsx.pendingTransport then
      some (tsx.retransmitCount + 1)
    else none
  | .sendMsgCallback .. | .transportCallback .. =>
    if tsx.pendingResched then some tsx.retransmitCount else none
  | .sendMsg .. | .recvMsg .. | .retransmitNoState .. =>
    if tsx.pendingResched ∧ !tsx.pendingTransport then some (tsx.retransmitCount + 1) else none
  | _ => none

/-- The timer expires that sends the final response to an INVITE again, over an unreliable
transport. -/
def resendsFinal (tsx : Tsx) : TsxAct → Bool
  | .retransmitTimer _ =>
    tsx.role = .uas ∧ tsx.method = .invite ∧ !tsx.isReliable ∧ tsx.state = .completed
  | _ => false

/-- There is room in 32 bits for the interval, and no send is pending when a final response is to
be sent again. -/
def Room (cfg : TsxCfg) (tsx : Tsx) (act : TsxAct) : Prop :=
  (∀ n ∈ reschedCount cfg tsx act, tsx.Fits cfg n) ∧
    (resendsFinal tsx act = true → tsx.pendingTransport = false)

instance {cfg : TsxCfg} {tsx : Tsx} {n : Nat} : Decidable (Tsx.Fits cfg tsx n) :=
  inferInstanceAs (Decidable (_ ∨ _))

instance {cfg : TsxCfg} {tsx : Tsx} {act : TsxAct} : Decidable (Room cfg tsx act) :=
  inferInstanceAs (Decidable (_ ∧ (_ → _)))

/-- All intervals are timely, the timer has no other ones, and a final response is sent again and
again until it is acknowledged or given up. -/
structure OnSchedule (cfg : TsxCfg) (tsx : Tsx) (act : TsxAct) (tsx' : Tsx) : Prop where
  timely : ∀ call ∈ reschedCalls cfg tsx act, Tsx.Timely cfg call
  accounted : ∀ delay ∈ tsx'.retransmitTimer.delay, tsx.retransmitTimer.delay = some delay ∨
    Tsx.Begun cfg delay ∨ ∃ call ∈ reschedCalls cfg tsx act, call.retransmitDelay cfg = delay
  restarted : resendsFinal tsx act = true → tsx'.state = .completed →
    tsx'.retransmitTimer.running = true

section Steps

variable {cfg : TsxCfg} {tsx tsx' : Tsx} {act : TsxAct} {status : SipStatus}

theorem reschedCalls_fits (room : Room cfg tsx act) {call : Tsx}
    (made : call ∈ reschedCalls cfg tsx act) : call.Fits cfg call.retransmitCount := by
  cases act with
  | sendMsg tdata attempts =>
    have waits : tsx.Waits cfg (tsx.retransmitCount + 1) := fun marked idle =>
      room.1 _ (by simp [reschedCount, marked, idle])
    simp only [reschedCalls] at made
    split at made
    · cases made
    · exact Tsx.handleCalls_fits waits (fun event => by cases event) made
  | recvMsg msg ack attempts =>
    have waits : tsx.Waits cfg (tsx.retransmitCount + 1) := fun marked idle =>
      room.1 _ (by simp [reschedCount, marked, idle])
    exact Tsx.handleCalls_fits waits (fun event => by cases event) made
  | retransmitTimer attempts =>
    refine Tsx.handleCalls_timer_fits (fun here repeats idle => ?_) made
    exact room.1 (tsx.retransmitCount + 1) (if_pos ⟨here, repeats, by simpa using idle⟩)
  | sendMsgCallback tdata outcome attempts =>
    have reported : ∀ tsx₁ : Tsx, tsx.Aside tsx₁ →
        call ∈ Tsx.sendMsgCallbackCalls (Tsx.sendMsg cfg attempts) (Tsx.sendMsgCalls cfg attempts)
          tdata tsx₁ outcome → call.Fits cfg call.retransmitCount := by
      intro tsx₁ same made
      have ripe := (Tsx.Ripe.closed cfg).after ((Tsx.Ripe.closed cfg).aside same)
        ((Tsx.Ripe.closed cfg).sendMsgCallback ((Tsx.Ripe.closed cfg).sendMsg attempts) tdata tsx₁
          outcome)
      obtain ⟨marked, role, count, coded⟩ := ripe.calls call made
      have fits := room.1 tsx.retransmitCount (if_pos marked)
      exact fits.carry role count coded
    refine reported _ ?_ made
    split
    · constructor <;> rfl
    · exact .refl tsx
  | transportCallback error attempts =>
    have ripe := (Tsx.Ripe.closed cfg).transportCallback ((Tsx.Ripe.closed cfg).sendMsg attempts)
      { tsx with inFlight := tsx.inFlight.erase .direct } error
    obtain ⟨marked, role, count, coded⟩ := ripe.calls call made
    have fits := room.1 tsx.retransmitCount (if_pos marked)
    exact fits.carry role count coded
  | retransmitNoState tdata attempts =>
    have waits : tsx.Waits cfg (tsx.retransmitCount + 1) := fun marked idle =>
      room.1 _ (by simp [reschedCount, marked, idle])
    exact Tsx.sendMsgCalls_fits waits (Nat.le_succ _) made
  | timeoutTimer attempts => cases made
  | disconnected lost => cases made
  | terminate code => cases made
  | terminateAsync code => cases made
  | setTimeout millisec => cases made
  | stopRetransmit => cases made

theorem terminate_accounted (tsx : Tsx) (code : Nat) :
    tsx.Accounted cfg [] (tsx.terminate code).1 := by
  have closed := Tsx.Accounted.closed cfg
  rw [Tsx.terminate]
  split
  · exact closed.refl tsx
  split
  · exact Tsx.setStatus_terminated_accounted code tsx
  · exact closed.refl tsx

theorem failOnTransport_accounted (tsx : Tsx) : tsx.Accounted cfg [] tsx.failOnTransport := by
  rw [Tsx.failOnTransport]
  split
  · rw [Tsx.notify_terminated { tsx with statusCode := 503 }]
    exact Tsx.setStatus_terminated_accounted 503 tsx
  · rw [Tsx.notify_terminated tsx]
    exact Tsx.setState_terminated_accounted {} tsx

theorem onTransportTimer_accounted (tsx : Tsx) (id : TimerId) :
    tsx.Accounted cfg [] (tsx.onTransportTimer id) := by
  have closed := Tsx.Accounted.closed cfg
  have inactive : tsx.Accounted cfg []
      { tsx with timeoutTimer := { tsx.timeoutTimer with id := .inactive } } := .of_same rfl rfl
  rw [Tsx.onTransportTimer]
  dsimp only
  split
  · have freed := closed.after inactive (closed.aside (Tsx.updateTransport_aside _ none))
    split
    · exact closed.after freed (.of_same rfl rfl)
    · exact closed.after freed (failOnTransport_accounted _)
  · exact inactive

theorem onTimeout_accounted {attempts : List Attempt}
    (taken : tsx.onTimeout cfg attempts = some (tsx', status)) : tsx.Accounted cfg [] tsx' := by
  have closed := Tsx.Accounted.closed cfg
  have expired : tsx.Accounted cfg []
      { tsx with timeoutTimer := { tsx.timeoutTimer with delay := none } } := .of_same rfl rfl
  simp only [Tsx.onTimeout] at taken
  split at taken
  · cases taken
    exact expired
  split at taken
  · split at taken
    · cases taken
      exact closed.after expired (terminate_accounted _ _)
    · cases taken
      exact expired
  · cases taken
    exact closed.after expired (onTransportTimer_accounted _ _)
  · cases taken
    exact closed.after expired (onTransportTimer_accounted _ _)
  · have inactive : tsx.Accounted cfg []
        { tsx with timeoutTimer := { id := .inactive, delay := none } } := .of_same rfl rfl
    have handled := Tsx.handle_accounted taken
    rw [Tsx.handleCalls_timeout] at handled
    exact closed.after inactive handled

theorem tsxStep_accounted (taken : tsxStep cfg tsx act = some (tsx', status)) :
    tsx.Accounted cfg (reschedCalls cfg tsx act) tsx' := by
  have closed := Tsx.Accounted.closed cfg
  cases act with
  | sendMsg tdata attempts =>
    simp only [tsxStep] at taken
    rw [reschedCalls]
    cases known : tdata.or tsx.lastTx with
    | none =>
      rw [known] at taken
      cases taken
      exact closed.refl tsx
    | some sent =>
      rw [known] at taken
      exact Tsx.handle_accounted taken
  | recvMsg msg ack attempts =>
    simp only [tsxStep] at taken
    split at taken
    · exact Tsx.handle_accounted taken
    · cases taken
  | retransmitTimer attempts =>
    have expired : tsx.Accounted cfg [] { tsx with retransmitTimer := {} } := .of_idle rfl rfl
    simp only [tsxStep] at taken
    split at taken
    · simp only [Tsx.onRetransmit] at taken
      split at taken
      · next gone =>
        cases taken
        exact ⟨rfl, fun delay mem => by cases mem⟩
      · exact closed.after expired (Tsx.handle_accounted taken)
    · cases taken
  | timeoutTimer attempts =>
    simp only [tsxStep] at taken
    split at taken
    · exact onTimeout_accounted taken
    · cases taken
  | sendMsgCallback tdata outcome attempts =>
    simp only [tsxStep] at taken
    split at taken
    · cases taken
      have erased : tsx.Accounted cfg [] (if outcome.final ∨ tdata.id ∉ tsx.attached then
          { tsx with inFlight := tsx.inFlight.erase (.stateless tdata) } else tsx) := by
        split
        · exact .of_same rfl rfl
        · exact closed.refl tsx
      exact closed.after erased (closed.sendMsgCallback (closed.sendMsg attempts) tdata _ outcome)
    · cases taken
  | transportCallback error attempts =>
    simp only [tsxStep] at taken
    split at taken
    · cases taken
      -- a schedule put off while the send was pending is made up for here
      have erased : tsx.Accounted cfg [] { tsx with inFlight := tsx.inFlight.erase .direct } :=
        .of_same rfl rfl
      exact closed.after erased (closed.transportCallback (closed.sendMsg attempts) _ error)
    · cases taken
  | disconnected lost =>
    simp only [tsxStep] at taken
    split at taken
    · cases taken
      exact closed.aside (Tsx.disconnected_aside tsx lost)
    · cases taken
  | terminate code =>
    obtain rfl : (tsx.terminate code).1 = tsx' := congrArg Prod.fst (Option.some.inj taken)
    exact terminate_accounted tsx code
  | terminateAsync code =>
    simp only [tsxStep, Option.some.injEq] at taken
    split at taken
    · cases taken
      exact closed.refl tsx
    · cases taken
      exact closed.aside (Tsx.restartTimeout_aside tsx 100 .terminate)
  | setTimeout millisec =>
    obtain rfl : (tsx.setTimeout millisec).1 = tsx' := congrArg Prod.fst (Option.some.inj taken)
    rw [Tsx.setTimeout]
    split
    · split
      · exact closed.refl tsx
      · exact closed.aside (Tsx.restartTimeout_aside tsx millisec .timeout)
    · exact closed.refl tsx
  | stopRetransmit =>
    obtain rfl : tsx.stopRetransmit.1 = tsx' := congrArg Prod.fst (Option.some.inj taken)
    rw [Tsx.stopRetransmit]
    split
    · exact Tsx.cancelRetransmit_accounted cfg tsx
    · exact closed.refl tsx
  | retransmitNoState tdata attempts =>
    obtain rfl : (Tsx.sendMsg cfg attempts tsx (tdata.or tsx.lastTx)).1 = tsx' :=
      congrArg Prod.fst (Option.some.inj taken)
    exact Tsx.sendMsg_accounted cfg attempts tsx _

namespace Tsx

section Completed

variable (cfg : TsxCfg) (attempts : List Attempt) (event : TsxEvent) (tsx : Tsx)

theorem handle_completedUas (server : tsx.role = .uas) (state : tsx.state = .completed) :
    tsx.handle cfg attempts event = some (tsx.onStateCompletedUas cfg attempts event) := by
  simp only [handle, state, server]

theorem handleCalls_completedUas (server : tsx.role = .uas) (state : tsx.state = .completed) :
    tsx.handleCalls cfg attempts event = tsx.onStateCompletedUasCalls cfg attempts event := by
  simp only [handleCalls, state, server]

variable {tdata : TxData} (expired : tsx.retransmitTimer = {}) (last : tsx.lastTx = some tdata)
  (response : tdata.msg.isRequest = false) (idle : tsx.pendingTransport = false)

include expired last response idle

theorem counted_called : tsx.counted ∈ retransmitCalls cfg attempts tsx true := by
  simp [retransmitCalls, TimerEntry.running, expired, last, response, idle]

theorem retransmit_restarts (interval : tsx.counted.retransmitDelay cfg ≠ 0) :
    6 ≤ (retransmit cfg attempts tsx true).1.state.rank ∨
      (retransmit cfg attempts tsx true).1.retransmitTimer.running = true := by
  have started : (tsx.counted.reschedRetransmission cfg).retransmitTimer.running = true := by
    rw [reschedRetransmission, if_pos interval]
    exact schedule_running _ _ _
  have ticks := (Ticks.closed cfg).sendMsg attempts (tsx.counted.reschedRetransmission cfg)
    (some tdata)
  have sent : retransmit cfg attempts tsx true =
      sendMsg cfg attempts (tsx.counted.reschedRetransmission cfg) (some tdata) := by
    have first : ¬(true = true ∧ tsx.retransmitTimer.running = true) := by
      rw [expired]
      exact fun both => Bool.noConfusion both.2
    rw [retransmit, if_neg first, last]
    simp only [response, Bool.false_eq_true, and_false, if_false, if_true, idle]
    rw [← idle, ← last]
    rfl
  rw [sent]
  refine (ticks.timer started).imp_right fun same => ?_
  rw [same]
  exact started

end Completed

/-- A completed server transaction has its final response. -/
def Rests (tsx : Tsx) : Prop :=
  tsx.role = .uas → tsx.state = .completed →
    ∃ tdata, tsx.lastTx = some tdata ∧ tdata.msg.isRequest = false

theorem handle_rests {attempts : List Attempt} {tdata : TxData} {answer : Tsx × SipStatus}
    (server : tsx.role = .uas) (here : tsx.answering = true)
    (taken : tsx.handle cfg attempts (.txMsg tdata) = some answer)
    (completed : answer.1.state = .completed) :
    answer.1.lastTx = some tdata ∧ tdata.msg.isRequest = false := by
  rcases of_decide_eq_true here with state | state
  · simp only [Tsx.handle, state, server, Option.some.injEq] at taken
    subst taken
    rw [Tsx.onStateTrying] at completed ⊢
    dsimp only at completed ⊢
    split at completed
    · rw [Tsx.setState_low (by simp [TsxState.rank])] at completed
      cases completed
    · next other =>
      rw [if_neg other]
      exact Tsx.onStateProceedingUas_completed cfg attempts tdata (by simp [state]) completed
  · simp only [Tsx.handle, state, server, Option.some.injEq] at taken
    subst taken
    exact Tsx.onStateProceedingUas_completed cfg attempts tdata (by simp [state]) completed

end Tsx

theorem tsxStep_rests (rests : Tsx.Rests tsx) (taken : tsxStep cfg tsx act = some (tsx', status)) :
    Tsx.Rests tsx' := by
  intro server completed
  have before : tsx.role = .uas := (tsxStep_accounted taken).role.symm.trans server
  by_cases other : ∀ tdata attempts, act = .sendMsg tdata attempts → tsx.answering = true →
      ∀ sent ∈ tdata.or tsx.lastTx, sent.msg.isRequest = true
  · obtain ⟨state, last⟩ := (Tsx.tsxStep_passive before other taken).completed completed
    rw [last]
    exact rests before state
  · simp only [not_forall] at other
    obtain ⟨tdata, attempts, rfl, here, sent, known, response⟩ := other
    rw [tsxStep, Option.mem_def.1 known] at taken
    exact ⟨sent, Tsx.handle_rests before here taken completed⟩

theorem tsxStep_onSchedule (positive : 0 < cfg.t1) (ordered : cfg.t1 ≤ cfg.t2)
    (rests : Tsx.Rests tsx) (room : Room cfg tsx act)
    (taken : tsxStep cfg tsx act = some (tsx', status)) : OnSchedule cfg tsx act tsx' := by
  have timely : ∀ call ∈ reschedCalls cfg tsx act, Tsx.Timely cfg call := fun call made =>
    (reschedCalls_fits room made).timely ordered
  refine ⟨timely, (tsxStep_accounted taken).timer, fun resends completed => ?_⟩
  cases act with
  | retransmitTimer attempts =>
    obtain ⟨server, invite, unreliable, state⟩ := of_decide_eq_true resends
    obtain ⟨tdata, last, response⟩ := rests server state
    have handled := Tsx.handle_completedUas cfg attempts .retransmitTimer
      { tsx with retransmitTimer := {} } server state
    have again : Tsx.retransmit cfg attempts { tsx with retransmitTimer := {} } true =
        (tsx', status) := by
      rw [tsxStep, Tsx.onRetransmit, handled] at taken
      split at taken
      · split at taken
        · next gone =>
          rw [gone] at state
          cases state
        · exact Option.some.inj taken
      · cases taken
    -- The interval is that of the first call.
    have calls := Tsx.handleCalls_completedUas cfg attempts .retransmitTimer
      { tsx with retransmitTimer := {} } server state
    have first := Tsx.counted_called cfg attempts { tsx with retransmitTimer := {} } rfl last
      response (room.2 resends)
    have made : ({ tsx with retransmitTimer := {} } : Tsx).counted ∈
        reschedCalls cfg tsx (.retransmitTimer attempts) := by
      rw [reschedCalls, calls]
      exact first
    have positive := (timely _ made).delay_pos positive ordered
    have started := Tsx.retransmit_restarts cfg attempts { tsx with retransmitTimer := {} } rfl
      last response (room.2 resends) positive
    rw [again] at started
    refine started.resolve_left fun ended => ?_
    change tsx'.state = .completed at completed
    change 6 ≤ tsx'.state.rank at ended
    rw [completed] at ended
    exact absurd ended (by decide)
  | _ => cases resends

/-- As long as the counter leaves room in 32 bits, however the timer and the peer advance it. -/
theorem retransmissions_onSchedule (positive : 0 < cfg.t1) (ordered : cfg.t1 ≤ cfg.t2)
    {start : Tsx} (created : Created start) {tr : List (TsxAct × SipStatus)}
    (run : Run (tsxStep cfg) start tr tsx)
    (room : Along (tsxStep cfg) (Room cfg) start (tr.map Prod.fst)) :
    Stepwise (tsxStep cfg) (fun tsx act tsx' _ => OnSchedule cfg tsx act tsx') start
      (tr.map Prod.fst) := by
  have rests : Tsx.Rests start := by
    intro _ completed
    have null : start.state = .null := by
      cases created with
      | uac method isReliable id => rfl
      | uas method isReliable handle200resp transport =>
        exact (Tsx.ofUas_fresh method isReliable handle200resp transport).2.1
    rw [null] at completed
    cases completed
  clear created
  induction run with
  | nil => trivial
  | cons taken _ ih =>
    have here := tsxStep_onSchedule positive ordered rests room.1 taken
    exact ⟨_, _, taken, here, ih (room.2 _ _ taken) (tsxStep_rests rests taken)⟩

end Steps

def overUdp : List Attempt := [⟨false, .sent, .begun []⟩]

/-- The server transaction of an INVITE that is refused; the peer sends the INVITE again `n`
times. -/
def refusedAndRepeated (n : Nat) : List TsxAct :=
  [.recvMsg (.request .invite) (.ok 0) [], .sendMsg (some ⟨1, .response 486 .invite⟩) overUdp]
    ++ List.replicate n (.recvMsg (.request .invite) (.ok 0) overUdp)

theorem retransmissions_onSchedule_refused :
    Stepwise (tsxStep defaultCfg) (fun tsx act tsx' _ => OnSchedule defaultCfg tsx act tsx')
      (.ofUas .invite false true (some udp))
      (refusedAndRepeated 5 ++ [.retransmitTimer overUdp, .retransmitTimer overUdp]) := by
  have runs : (exec (tsxStep defaultCfg) (.ofUas .invite false true (some udp))
      (refusedAndRepeated 5 ++ [.retransmitTimer overUdp, .retransmitTimer overUdp])).isSome
        = true := by
    decide +kernel
  obtain ⟨tsx, done⟩ := Option.isSome_iff_exists.1 runs
  obtain ⟨tr, acts, run⟩ := Run.of_exec done
  rw [← acts]
  refine retransmissions_onSchedule (by decide) (by decide)
    (.uas .invite false true (some udp)) run ?_
  rw [acts]
  decide +kernel

/-- The peer has sent the INVITE again so often that the response is sent only once more. -/
theorem repeated_invite_stops_timer :
    ¬∀ (cfg : TsxCfg) (start tsx : Tsx) (tr : List (TsxAct × SipStatus)), 0 < cfg.t1 →
      cfg.t1 ≤ cfg.t2 → Created start → Run (tsxStep cfg) start tr tsx →
      Stepwise (tsxStep cfg) (fun tsx act tsx' _ => OnSchedule cfg tsx act tsx') start
        (tr.map Prod.fst) := by
  intro claim
  have before : (exec (tsxStep defaultCfg) (.ofUas .invite false true (some udp))
      (refusedAndRepeated 29)).any (fun tsx =>
        resendsFinal tsx (.retransmitTimer overUdp) = true
          ∧ (tsxStep defaultCfg tsx (.retransmitTimer overUdp)).any (fun next =>
            next.1.state = .completed ∧ next.1.retransmitTimer.running = false)) = true := by
    decide +kernel
  obtain ⟨tsx, done, facts⟩ := (Option.any_eq_true _ _).1 before
  obtain ⟨resends, fired⟩ := of_decide_eq_true facts
  obtain ⟨⟨tsx', status⟩, taken, facts⟩ := (Option.any_eq_true _ _).1 fired
  obtain ⟨completed, idle⟩ := of_decide_eq_true facts
  obtain ⟨tr, acts, run⟩ := Run.of_exec done
  have each := claim defaultCfg _ _ _ (by decide) (by decide) (.uas .invite false true (some udp))
    (run.snoc taken)
  rw [List.map_append, acts] at each
  obtain ⟨tsx₁, status₁, taken₁, schedule, -⟩ := each.after done
  obtain ⟨rfl, -⟩ := Prod.mk.inj (Option.some.inj (taken.symm.trans taken₁))
  have running := schedule.restarted resends completed
  rw [idle] at running
  cases running

end Pjsip.Sip
