import Pjsip.Sip.Tsx.Calls

/-!
# The last response of a server transaction (`tsx_on_state_proceeding_uas`)

A server transaction keeps the response that it sent last, and sends it again whenever the request
comes in once more or the timer of a provisional response expires. The handler lets the old one go
before it sends the new one; a response that cannot be sent ends the transaction, so neither is
missed.
-/

namespace Pjsip.Sip

open Base

/-- `msg->line.status.code` -/
def Msg.statusCode : Msg → Nat
  | .request _ => 0
  | .response code _ => code

variable {tdata : TxData}

namespace Tsx

/-- The transaction has ended, or keeps its state, its last message and its status code. -/
structure Kept (tsx tsx' : Tsx) : Prop where
  role : tsx'.role = tsx.role
  held : 6 ≤ tsx'.state.rank ∨
    tsx'.state = tsx.state ∧ tsx'.lastTx = tsx.lastTx ∧ tsx'.statusCode = tsx.statusCode

section Kept

variable {tsx tsx' tsx'' : Tsx}

theorem Kept.refl (tsx : Tsx) : Kept tsx tsx := ⟨rfl, .inr ⟨rfl, rfl, rfl⟩⟩

theorem Kept.trans (first : Kept tsx tsx') (second : Kept tsx' tsx'') : Kept tsx tsx'' := by
  refine ⟨second.role.trans first.role, ?_⟩
  rcases second.held with ended | ⟨state, last, code⟩
  · exact .inl ended
  · rw [state, last, code]
    exact first.held

theorem Kept.of_ended (role : tsx'.role = tsx.role) (ended : 6 ≤ tsx'.state.rank) :
    Kept tsx tsx' := ⟨role, .inl ended⟩

theorem Kept.of_same (role : tsx'.role = tsx.role) (state : tsx'.state = tsx.state)
    (last : tsx'.lastTx = tsx.lastTx) (code : tsx'.statusCode = tsx.statusCode) :
    Kept tsx tsx' := ⟨role, .inr ⟨state, last, code⟩⟩

theorem Kept.late (kept : Kept tsx tsx') (late : 4 ≤ tsx.state.rank) : 4 ≤ tsx'.state.rank := by
  rcases kept.held with ended | ⟨state, -⟩
  · omega
  · rwa [state]

theorem setState_terminated_kept (tsx : Tsx) (flags : SetFlags) :
    Kept tsx (tsx.setState .terminated flags) := by
  obtain ⟨_, _, eq⟩ := setState_terminated tsx flags
  rw [eq]
  exact .of_ended rfl (Nat.le_refl 6)

theorem setState_destroyed_kept (tsx : Tsx) : Kept tsx (tsx.setState .destroyed {}) := by
  obtain ⟨_, _, _, _, eq⟩ := setState_destroyed tsx
  rw [eq]
  exact .of_ended rfl (by simp [TsxState.rank])

theorem setStatus_terminated_kept (tsx : Tsx) (code : Nat) :
    Kept tsx (tsx.setStatus code .terminated {}) := by
  obtain ⟨_, _, eq⟩ := setState_terminated { tsx with statusCode := code } {}
  rw [setStatus, eq]
  exact .of_ended rfl (Nat.le_refl 6)

theorem setStatus_destroyed_kept (tsx : Tsx) (code : Nat) :
    Kept tsx (tsx.setStatus code .destroyed {}) := by
  obtain ⟨_, _, _, _, eq⟩ := setState_destroyed { tsx with statusCode := code }
  rw [setStatus, eq]
  exact .of_ended rfl (by simp [TsxState.rank])

theorem Kept.of_aside (aside : Aside tsx tsx') : Kept tsx tsx' :=
  .of_same aside.role aside.state aside.lastTx aside.statusCode

theorem reschedRetransmission_kept (cfg : TsxCfg) (tsx : Tsx) :
    Kept tsx (tsx.reschedRetransmission cfg) := by
  simp only [reschedRetransmission]
  split
  · exact .of_same rfl rfl rfl rfl
  · exact .refl tsx

theorem Kept.closed (cfg : TsxCfg) : Closed cfg (fun tsx _ tsx' => Kept tsx tsx') where
  trans := Kept.trans
  aside := Kept.of_aside
  clear _ := .of_same rfl rfl rfl rfl
  resched tsx _ := by
    have cleared : Kept tsx { tsx with pendingResched := false } := .of_same rfl rfl rfl rfl
    exact cleared.trans (reschedRetransmission_kept cfg _)
  reset _ := .of_same rfl rfl rfl rfl
  terminated tsx code _ := setStatus_terminated_kept tsx code
  destroyed := setState_destroyed_kept
  failed tsx code _ := setStatus_destroyed_kept tsx code

theorem sendMsg_kept (cfg : TsxCfg) (attempts : List Attempt) (tsx : Tsx)
    (tdata : Option TxData) : Kept tsx (sendMsg cfg attempts tsx tdata).1 :=
  (Kept.closed cfg).sendMsg attempts tsx tdata

theorem retransmit_kept (cfg : TsxCfg) (attempts : List Attempt) (tsx : Tsx) (resched : Bool) :
    Kept tsx (retransmit cfg attempts tsx resched).1 := by
  have counted : Kept tsx { tsx with retransmitCount := tsx.retransmitCount + 1 } :=
    .of_same rfl rfl rfl rfl
  rw [retransmit]
  split
  · exact .refl tsx
  split
  · exact .refl tsx
  · next tdata _ =>
    split
    · rw [restartTimeout_eq]
      exact .of_same rfl rfl rfl rfl
    refine Kept.trans ?_ (sendMsg_kept cfg attempts _ (some tdata))
    split
    · split
      · exact .of_same rfl rfl rfl rfl
      · exact counted.trans (reschedRetransmission_kept cfg _)
    · exact counted

theorem failOnTransport_kept (tsx : Tsx) : Kept tsx tsx.failOnTransport := by
  rw [failOnTransport]
  split
  · rw [notify_terminated { tsx with statusCode := 503 }]
    exact setStatus_terminated_kept tsx 503
  · rw [notify_terminated tsx]
    exact setState_terminated_kept tsx {}

theorem onTransportTimer_kept (tsx : Tsx) (id : TimerId) : Kept tsx (tsx.onTransportTimer id) := by
  have expired : Kept tsx { tsx with timeoutTimer := { tsx.timeoutTimer with id := .inactive } } :=
    .of_same rfl rfl rfl rfl
  rw [onTransportTimer]
  dsimp only
  split
  · have freed := expired.trans (.of_aside (updateTransport_aside _ none))
    split
    · exact freed.trans (.of_same rfl rfl rfl rfl)
    · exact freed.trans (failOnTransport_kept _)
  · exact expired

theorem terminate_kept (tsx : Tsx) (code : Nat) : Kept tsx (tsx.terminate code).1 := by
  rw [terminate]
  split
  · exact .refl tsx
  split
  · exact setStatus_terminated_kept tsx code
  · exact .refl tsx

end Kept

section Refusals

variable {cfg : TsxCfg} {attempts : List Attempt} {tsx : Tsx}

/-- What a failed send leaves a server transaction with. -/
structure Untouched (tsx tsx' : Tsx) : Prop where
  state : tsx'.state = tsx.state
  lastTx : tsx'.lastTx = tsx.lastTx
  statusCode : tsx'.statusCode = tsx.statusCode
  retransmitTimer : tsx'.retransmitTimer = tsx.retransmitTimer

theorem sendStateless_response (response : tdata.msg.isRequest = false)
    (lives : tsx.state.rank < 6) (attempt : Attempt) :
    ∃ reports, tsx.sendStateless tdata attempt = .begun reports := by
  have here : ¬(tdata.msg.isRequest = true ∨ TsxState.terminated.rank ≤ tsx.state.rank) := by
    rintro (request | late)
    · simp [response] at request
    · exact absurd lives (Nat.not_lt.2 late)
  rw [sendStateless, if_neg here]
  cases attempt.stateless with
  | refused error => exact ⟨[], rfl⟩
  | begun reports => exact ⟨reports, rfl⟩

theorem resolveAndSend_server (cfg : TsxCfg) (again : Sender) (attempt : Attempt)
    (status : SipStatus) (server : tsx.role = .uas) (response : tdata.msg.isRequest = false)
    (lives : tsx.state.rank < 6)
    (fails : (resolveAndSend cfg again attempt tsx tdata status).2 ≠ .success) :
    (resolveAndSend cfg again attempt tsx tdata status).1.state = .terminated := by
  have here : ¬(tsx.role = .uac ∧ tsx.resolvedServer = true) := by simp [server]
  obtain ⟨reports, begun⟩ := sendStateless_response response lives attempt
  simp only [resolveAndSend, if_neg here, begun] at fails ⊢
  by_contra other
  exact fails (if_neg other)

theorem sendMsg_server (cfg : TsxCfg) (attempts : List Attempt)
    (server : tsx.role = .uas) (response : tdata.msg.isRequest = false) (lives : tsx.state.rank < 6)
    (fails : (sendMsg cfg attempts tsx (some tdata)).2 ≠ .success) :
    (sendMsg cfg attempts tsx (some tdata)).1.state = .terminated := by
  obtain ⟨again, eq⟩ := sendMsg_eq cfg attempts
  rw [eq] at fails ⊢
  generalize attempts.headD .waiting = attempt at fails ⊢
  rw [sendWith] at fails ⊢
  split at fails
  · exact absurd rfl fails
  next idle =>
  split at fails
  · exact absurd rfl fails
  next fresh =>
  rw [if_neg idle, if_neg fresh]
  split at fails
  · next known =>
    rw [if_pos known]
    cases direct : attempt.direct with
    | sent =>
      rw [direct] at fails
      exact absurd rfl fails
    | pending =>
      rw [direct] at fails
      exact absurd rfl fails
    | error error =>
      rw [direct] at fails
      exact resolveAndSend_server cfg again attempt error.1 server response lives fails
  · next unknown =>
    rw [if_neg unknown]
    exact resolveAndSend_server cfg again attempt .success server response lives fails

end Refusals

/-- A server transaction that no response was handed to: what it does not leave behind it
keeps, and it does not come to state Proceeding. -/
structure Passive (tsx tsx' : Tsx) : Prop where
  role : tsx'.role = .uas
  held : 4 ≤ tsx'.state.rank ∨
    tsx.state.rank < 4 ∧ tsx'.lastTx = tsx.lastTx ∧
      (tsx'.state = .proceeding → tsx.state = .proceeding)
  completed : tsx'.state = .completed → tsx.state = .completed ∧ tsx'.lastTx = tsx.lastTx

section Passive

variable {cfg : TsxCfg} {attempts : List Attempt} {tsx tsx' : Tsx} {event : TsxEvent}

theorem Kept.passive (kept : Kept tsx tsx') (server : tsx.role = .uas) : Passive tsx tsx' := by
  refine ⟨kept.role.trans server, ?_, fun here => ?_⟩
  · rcases kept.held with ended | ⟨state, last, -⟩
    · exact .inl (by omega)
    · by_cases late : 4 ≤ tsx.state.rank
      · exact .inl (kept.late late)
      · exact .inr ⟨by omega, last, fun here => state.symm.trans here⟩
  · rcases kept.held with ended | ⟨state, last, -⟩
    · simp [here, TsxState.rank] at ended
    · exact ⟨state.symm.trans here, last⟩

theorem Passive.after (kept : Kept tsx tsx') {tsx'' : Tsx} (passive : Passive tsx' tsx'') :
    Passive tsx tsx'' := by
  rcases kept.held with ended | ⟨state, last', -⟩
  · refine ⟨passive.role, passive.held.imp_right fun ⟨low, _⟩ => by omega, fun here => ?_⟩
    have early := (passive.completed here).1
    simp [early, TsxState.rank] at ended
  · refine ⟨passive.role, passive.held.imp_right ?_, fun here => ?_⟩
    · rintro ⟨low, last, here⟩
      rw [state] at low here
      exact ⟨low, last.trans last', here⟩
    · obtain ⟨before, last⟩ := passive.completed here
      exact ⟨state.symm.trans before, last.trans last'⟩

theorem handle_late (server : tsx.role = .uas) (late : 4 ≤ tsx.state.rank)
    {answer : Tsx × SipStatus} (taken : tsx.handle cfg attempts event = some answer) :
    Passive tsx answer.1 := by
  have stays : Passive tsx tsx := (Kept.refl tsx).passive server
  have resent : ∀ resched, Passive tsx (retransmit cfg attempts tsx resched).1 := fun resched =>
    (retransmit_kept cfg attempts tsx resched).passive server
  have ends : Passive tsx (tsx.setState .terminated {}) :=
    (setState_terminated_kept tsx {}).passive server
  rw [handle, server] at taken
  cases state : tsx.state with
  | null => simp [state, TsxState.rank] at late
  | calling => simp [state, TsxState.rank] at late
  | trying => simp [state, TsxState.rank] at late
  | proceeding => simp [state, TsxState.rank] at late
  | completed =>
    simp only [state, Option.some.injEq] at taken
    subst taken
    cases event with
    | retransmitTimer => exact resent true
    | timeoutTimer =>
      rw [onStateCompletedUas]
      split
      · exact (setStatus_terminated_kept tsx 408).passive server
      · exact ends
    | txMsg tdata => exact stays
    | rxMsg msg ack =>
      cases msg with
      | response code method => exact stays
      | request method =>
        rw [onStateCompletedUas]
        split
        · exact resent false
        split
        · exact stays
        · -- The ACK: the transaction is confirmed.
          dsimp only
          rw [setState_low (by simp [TsxState.rank]), restartTimeout_eq]
          exact ⟨server, .inl (by simp [TsxState.rank]), fun early => by cases early⟩
  | confirmed =>
    simp only [state, Option.some.injEq] at taken
    subst taken
    cases event with
    | retransmitTimer => exact stays
    | timeoutTimer => exact ends
    | txMsg tdata => exact stays
    | rxMsg msg ack => cases msg <;> exact stays
  | terminated =>
    have gone := (setState_destroyed_kept tsx).passive server
    simp only [state, Option.some.injEq] at taken
    subst taken
    cases event with
    | retransmitTimer => exact gone
    | timeoutTimer => exact gone
    | txMsg tdata => exact stays
    | rxMsg msg ack => exact stays
  | destroyed =>
    simp only [state, Option.some.injEq] at taken
    subst taken
    exact stays

def answering (tsx : Tsx) : Bool := tsx.state = .trying ∨ tsx.state = .proceeding

theorem handle_passive (server : tsx.role = .uas)
    (other : ∀ tdata, event = .txMsg tdata → tsx.answering = true → tdata.msg.isRequest = true)
    {answer : Tsx × SipStatus} (taken : tsx.handle cfg attempts event = some answer) :
    Passive tsx answer.1 := by
  by_cases late : 4 ≤ tsx.state.rank
  · exact handle_late server late taken
  have stays : Passive tsx tsx := (Kept.refl tsx).passive server
  have refused : ∀ tdata, event = .txMsg tdata → tsx.answering = true →
      onStateProceedingUas cfg attempts tsx event = (tsx, .enotresponsemsg) := by
    rintro ⟨id, msg⟩ rfl here
    have request := other _ rfl here
    cases msg with
    | request method => rfl
    | response code method => cases request
  rw [handle, server] at taken
  cases state : tsx.state with
  | null =>
    simp only [state, Option.some.injEq, onStateNull, server, if_true] at taken
    subst taken
    rw [setState_low (by simp [TsxState.rank])]
    exact ⟨server, .inr ⟨by simp [state, TsxState.rank], rfl, fun early => by cases early⟩,
      fun early => by cases early⟩
  | calling => simp [state] at taken
  | trying =>
    have here : tsx.answering = true := by simp [answering, state]
    simp only [state, Option.some.injEq] at taken
    subst taken
    cases event with
    | txMsg tdata =>
      rw [onStateTrying, refused tdata rfl here]
      exact stays
    | rxMsg msg ack => exact stays
    | retransmitTimer => exact stays
    | timeoutTimer => exact stays
  | proceeding =>
    have here : tsx.answering = true := by simp [answering, state]
    simp only [state, Option.some.injEq] at taken
    subst taken
    cases event with
    | txMsg tdata =>
      rw [refused tdata rfl here]
      exact stays
    | rxMsg msg ack =>
      rw [onStateProceedingUas]
      split
      · exact stays
      split
      · exact Kept.passive (.of_same rfl rfl rfl rfl) server
      · exact (sendMsg_kept cfg attempts tsx _).passive server
    | retransmitTimer => exact (retransmit_kept cfg attempts tsx true).passive server
    | timeoutTimer => exact (setStatus_terminated_kept tsx 408).passive server
  | completed => simp [state, TsxState.rank] at late
  | confirmed => simp [state, TsxState.rank] at late
  | terminated => simp [state, TsxState.rank] at late
  | destroyed => simp [state, TsxState.rank] at late

end Passive

section Answers

variable {cfg : TsxCfg} {attempts : List Attempt} {tsx : Tsx}

theorem startRetransmit_same (tsx : Tsx) (delay : Nat) :
    (tsx.startRetransmit delay).role = tsx.role ∧ (tsx.startRetransmit delay).state = tsx.state ∧
      (tsx.startRetransmit delay).lastTx = tsx.lastTx := by
  rw [startRetransmit]
  split
  · exact ⟨rfl, rfl, rfl⟩
  · exact ⟨rfl, rfl, rfl⟩

theorem completeUas_state (cfg : TsxCfg) (tsx : Tsx) (tdata : TxData) (retransmits : Bool) :
    (tsx.completeUas cfg tdata retransmits).role = tsx.role ∧
      (tsx.completeUas cfg tdata retransmits).state = .completed ∧
      (tsx.completeUas cfg tdata retransmits).lastTx = some tdata := by
  rw [completeUas, setState_low (by simp [TsxState.rank]), restartTimeout_eq]
  split
  · have same := startRetransmit_same { tsx with
      lastTx := some tdata, retransmitCount := 0
      timeoutTimer :=
        ⟨.timeout, some (if tsx.method = .invite ∨ !tsx.isReliable then cfg.timeout else 0)⟩ }
      cfg.t1
    exact ⟨same.1, rfl, same.2.2⟩
  · exact ⟨rfl, rfl, rfl⟩

/-- A response that was sent is the last one from now on. -/
structure Last (role : Role) (tdata : TxData) (tsx : Tsx) : Prop where
  role : tsx.role = role
  last : tsx.state.rank < 5 → tsx.lastTx = some tdata
  proceeding : tsx.state.rank < 4 → tsx.state = .proceeding

theorem onAnswered_cases (cfg : TsxCfg) (tdata : TxData) (cseqMethod : MethodId) :
    Last tsx.role tdata (tsx.onAnswered cfg tdata cseqMethod) ∨
      tsx.onAnswered cfg tdata cseqMethod = tsx ∧ tsx.statusCode < 100 := by
  have completes : ∀ (tsx' : Tsx) retransmits, tsx'.role = tsx.role →
      Last tsx.role tdata (tsx'.completeUas cfg tdata retransmits) := by
    intro tsx' retransmits role
    obtain ⟨role', state, last⟩ := completeUas_state cfg tsx' tdata retransmits
    refine ⟨role'.trans role, fun _ => last, fun low => ?_⟩
    rw [state] at low
    exact absurd low (by simp [TsxState.rank])
  rw [onAnswered]
  split
  · left
    rw [setState_low (by simp [TsxState.rank])]
    dsimp only
    split
    · obtain ⟨role, state, last⟩ := startRetransmit_same { tsx with
        lastTx := some tdata, state := .proceeding, moves := (tsx.state, .proceeding) :: tsx.moves
        told := if tsx.hasUser then .proceeding :: tsx.told else tsx.told
        retransmitTimer := tsx.retransmitTimer.cancel, retransmitCount := 0 } provisionalDelay
      exact ⟨role, fun _ => last, fun _ => state⟩
    · exact ⟨rfl, fun _ => rfl, fun _ => rfl⟩
  split
  · left
    dsimp only
    split
    · obtain ⟨_, _, eq⟩ := setState_terminated tsx.cancelRetransmit {}
      rw [eq]
      exact ⟨rfl, fun low => absurd low (by simp [TsxState.rank]),
        fun low => absurd low (by simp [TsxState.rank])⟩
    · exact completes _ _ rfl
  split
  · exact .inl (completes _ _ rfl)
  · -- No class is left for a status code from 100 on.
    next provisional successful final =>
    simp only [isStatusInClass, decide_eq_true_eq] at provisional successful
    exact .inr ⟨rfl, by omega⟩

theorem onAnswered_last (cfg : TsxCfg) (tdata : TxData) (cseqMethod : MethodId)
    (coded : 6 ≤ tsx.state.rank ∨ 100 ≤ tsx.statusCode) :
    Last tsx.role tdata (tsx.onAnswered cfg tdata cseqMethod) := by
  rcases onAnswered_cases cfg tdata cseqMethod with last | ⟨same, low⟩
  · exact last
  · rw [same]
    exact ⟨rfl, fun late => by omega, fun late => by omega⟩

/-- What becomes of a response that the user of a server transaction sends. -/
structure Answered (tdata : TxData) (answer : Tsx × SipStatus) : Prop where
  role : answer.1.role = .uas
  sent : answer.2 = .success → Last .uas tdata answer.1
  failed : answer.2 ≠ .success → answer.1.state = .terminated

theorem onStateProceedingUas_answered (cfg : TsxCfg) (attempts : List Attempt)
    (server : tsx.role = .uas) (lives : tsx.state.rank < 6)
    (response : tdata.msg.isRequest = false) (valid : tdata.msg.valid = true) :
    Answered tdata (tsx.onStateProceedingUas cfg attempts (.txMsg tdata)) := by
  obtain ⟨id, msg⟩ := tdata
  cases msg with
  | request method => cases response
  | response code cseqMethod =>
    rw [onStateProceedingUas]
    generalize before : (if { tsx with statusCode := code }.lastTx ≠
        some ⟨id, .response code cseqMethod⟩ then
        { tsx with statusCode := code, lastTx := none }
      else { tsx with statusCode := code }) = tsx₁
    have role : tsx₁.role = .uas := by
      rw [← before]
      split <;> exact server
    have state : tsx₁.state = tsx.state := by
      rw [← before]
      split <;> rfl
    have coded : tsx₁.statusCode = code := by
      rw [← before]
      split <;> rfl
    have ends := sendMsg_server cfg attempts role response (state ▸ lives)
    have kept := sendMsg_kept cfg attempts tsx₁ (some ⟨id, .response code cseqMethod⟩)
    dsimp only
    generalize sendMsg cfg attempts tsx₁ (some ⟨id, .response code cseqMethod⟩) = answer
      at ends kept ⊢
    by_cases fails : answer.2 ≠ .success
    · rw [if_pos fails]
      exact ⟨kept.role.trans role, fun succeeds => absurd succeeds fails, ends⟩
    · rw [if_neg fails]
      have known : 6 ≤ answer.1.state.rank ∨ 100 ≤ answer.1.statusCode := by
        refine kept.held.imp_right fun same => ?_
        rw [same.2.2, coded]
        exact (of_decide_eq_true valid).1
      have sent := onAnswered_last cfg ⟨id, .response code cseqMethod⟩ cseqMethod known
      rw [kept.role.trans role] at sent
      exact ⟨sent.role, fun _ => sent, fun failed => absurd rfl failed⟩

theorem onStateProceedingUas_completed (cfg : TsxCfg) (attempts : List Attempt) (tdata : TxData)
    (here : tsx.state ≠ .completed)
    (completed : (tsx.onStateProceedingUas cfg attempts (.txMsg tdata)).1.state = .completed) :
    (tsx.onStateProceedingUas cfg attempts (.txMsg tdata)).1.lastTx = some tdata ∧
      tdata.msg.isRequest = false := by
  obtain ⟨id, msg⟩ := tdata
  cases msg with
  | request method => exact absurd completed here
  | response code cseqMethod =>
    rw [onStateProceedingUas] at completed ⊢
    generalize before : (if { tsx with statusCode := code }.lastTx ≠
        some ⟨id, .response code cseqMethod⟩ then
        { tsx with statusCode := code, lastTx := none }
      else { tsx with statusCode := code }) = tsx₁ at completed ⊢
    have state : tsx₁.state = tsx.state := by
      rw [← before]
      split <;> rfl
    have kept := sendMsg_kept cfg attempts tsx₁ (some ⟨id, .response code cseqMethod⟩)
    dsimp only at completed ⊢
    generalize sendMsg cfg attempts tsx₁ (some ⟨id, .response code cseqMethod⟩) = answer
      at kept completed ⊢
    have other : answer.1.state ≠ .completed := by
      intro done
      rcases kept.held with ended | ⟨same, -⟩
      · simp [done, TsxState.rank] at ended
      · exact here (state.symm.trans (same.symm.trans done))
    split at completed
    · exact absurd completed other
    · next sent =>
      rw [if_neg sent]
      rcases onAnswered_cases cfg ⟨id, .response code cseqMethod⟩ cseqMethod with last | same
      · refine ⟨last.last ?_, rfl⟩
        rw [completed]
        simp [TsxState.rank]
      · rw [same.1] at completed
        exact absurd completed other

theorem answering_early (here : tsx.answering = true) : tsx.state.rank < 4 := by
  rcases of_decide_eq_true here with state | state
  · simp [state, TsxState.rank]
  · simp [state, TsxState.rank]

theorem handle_answered (cfg : TsxCfg) (attempts : List Attempt) (server : tsx.role = .uas)
    (here : tsx.answering = true)
    (response : tdata.msg.isRequest = false) (valid : tdata.msg.valid = true) :
    ∃ answer, tsx.handle cfg attempts (.txMsg tdata) = some answer ∧ Answered tdata answer := by
  have lives : tsx.state.rank < 6 := (answering_early here).trans (by omega)
  have answered := onStateProceedingUas_answered cfg attempts server lives response valid
  rcases of_decide_eq_true here with trying | proceeding
  · refine ⟨_, by rw [handle, trying, server], ?_⟩
    rw [onStateTrying]
    dsimp only
    split
    · next sent =>
      have low : (tsx.onStateProceedingUas cfg attempts (.txMsg tdata)).1.state.rank < 4 := by
        simp [sent.2, TsxState.rank]
      rw [(answered.sent sent.1).proceeding low] at sent
      cases sent.2
    · exact answered
  · exact ⟨_, by rw [handle, proceeding, server], answered⟩

theorem onRetransmit_response (server : tsx.role = .uas) (proceeding : tsx.state = .proceeding)
    (last : tsx.lastTx = some tdata) (response : tdata.msg.isRequest = false) :
    ∃ timer pendingResched, tsx.onRetransmit cfg attempts =
      some (sendMsg cfg attempts
        { tsx with
          retransmitTimer := timer, pendingResched
          retransmitCount := tsx.retransmitCount + 1 } (some tdata)) := by
  have idle : ({} : TimerEntry).running = false := rfl
  simp only [onRetransmit, proceeding, reduceCtorEq, if_false, handle, server, onStateProceedingUas,
    retransmit, idle, Bool.false_eq_true, and_false, last, response, if_true]
  split
  · exact ⟨{}, true, by rw [← last, ← server, ← proceeding]⟩
  · simp only [reschedRetransmission]
    split
    · exact ⟨_, tsx.pendingResched, by rw [← last, ← server, ← proceeding]⟩
    · exact ⟨{}, tsx.pendingResched, by rw [← last, ← server, ← proceeding]⟩

end Answers

section Steps

variable {cfg : TsxCfg} {tsx tsx' : Tsx} {act : TsxAct} {status : SipStatus}

theorem onTimeout_passive {attempts : List Attempt} (server : tsx.role = .uas)
    (taken : tsx.onTimeout cfg attempts = some (tsx', status)) : Passive tsx tsx' := by
  have expired : Kept tsx { tsx with timeoutTimer := { tsx.timeoutTimer with delay := none } } :=
    .of_same rfl rfl rfl rfl
  have handled : ∀ {tsx₁ : Tsx}, Kept tsx tsx₁ → tsx₁.role = .uas →
      tsx₁.handle cfg attempts .timeoutTimer = some (tsx', status) → Passive tsx tsx' :=
    fun kept server taken => .after kept (handle_passive server (fun _ event => by cases event) taken)
  simp only [onTimeout] at taken
  split at taken
  · cases taken
    exact expired.passive server
  split at taken
  · split at taken
    · cases taken
      exact (expired.trans (terminate_kept _ _)).passive server
    · cases taken
      exact expired.passive server
  · cases taken
    exact (expired.trans (onTransportTimer_kept _ _)).passive server
  · cases taken
    exact (expired.trans (onTransportTimer_kept _ _)).passive server
  · have inactive : Kept tsx { tsx with timeoutTimer := { id := .inactive, delay := none } } :=
      .of_same rfl rfl rfl rfl
    exact handled inactive server taken

theorem tsxStep_passive (server : tsx.role = .uas)
    (other : ∀ tdata attempts, act = .sendMsg tdata attempts → tsx.answering = true →
      ∀ sent ∈ tdata.or tsx.lastTx, sent.msg.isRequest = true)
    (taken : tsxStep cfg tsx act = some (tsx', status)) : Passive tsx tsx' := by
  cases act with
  | sendMsg tdata attempts =>
    simp only [tsxStep] at taken
    split at taken
    · cases taken
      exact (Kept.refl tsx).passive server
    · next sent known =>
      refine handle_passive server (fun tdata' same here => ?_) taken
      cases same
      exact other tdata attempts rfl here sent known
  | recvMsg msg ack attempts =>
    simp only [tsxStep] at taken
    split at taken
    · exact handle_passive server (fun _ event => by cases event) taken
    · cases taken
  | retransmitTimer attempts =>
    simp only [tsxStep] at taken
    split at taken
    · have expired : Kept tsx { tsx with retransmitTimer := {} } := .of_same rfl rfl rfl rfl
      simp only [onRetransmit] at taken
      split at taken
      · cases taken
        exact expired.passive server
      · have server' : ({ tsx with retransmitTimer := {} } : Tsx).role = .uas := server
        have handled := handle_passive server' (fun _ event => TsxEvent.noConfusion event) taken
        exact .after expired handled
    · cases taken
  | timeoutTimer attempts =>
    simp only [tsxStep] at taken
    split at taken
    · exact onTimeout_passive server taken
    · cases taken
  | sendMsgCallback tdata outcome attempts =>
    simp only [tsxStep] at taken
    split at taken
    · cases taken
      refine Kept.passive ?_ server
      have erased : Kept tsx (if outcome.final ∨ tdata.id ∉ tsx.attached then
          { tsx with inFlight := tsx.inFlight.erase (.stateless tdata) } else tsx) := by
        split
        · exact .of_same rfl rfl rfl rfl
        · exact .refl tsx
      exact erased.trans
        ((Kept.closed cfg).sendMsgCallback ((Kept.closed cfg).sendMsg attempts) tdata _ outcome)
    · cases taken
  | transportCallback error attempts =>
    simp only [tsxStep] at taken
    split at taken
    · cases taken
      have erased : Kept tsx { tsx with inFlight := tsx.inFlight.erase .direct } :=
        .of_same rfl rfl rfl rfl
      exact (erased.trans
        ((Kept.closed cfg).transportCallback ((Kept.closed cfg).sendMsg attempts) _
          error)).passive server
    · cases taken
  | disconnected lost =>
    simp only [tsxStep] at taken
    split at taken
    · cases taken
      exact (Kept.of_aside (disconnected_aside tsx lost)).passive server
    · cases taken
  | terminate code =>
    obtain rfl : (tsx.terminate code).1 = tsx' := congrArg Prod.fst (Option.some.inj taken)
    exact (terminate_kept tsx code).passive server
  | terminateAsync code =>
    have woken : Kept tsx (tsx.restartTimeout 100 .terminate) := by
      rw [restartTimeout_eq]
      exact .of_same rfl rfl rfl rfl
    simp only [tsxStep, Option.some.injEq] at taken
    split at taken
    · cases taken
      exact (Kept.refl tsx).passive server
    · cases taken
      exact woken.passive server
  | setTimeout millisec =>
    obtain rfl : (tsx.setTimeout millisec).1 = tsx' := congrArg Prod.fst (Option.some.inj taken)
    rw [setTimeout, if_neg (by simp [server])]
    exact (Kept.refl tsx).passive server
  | stopRetransmit =>
    obtain rfl : tsx.stopRetransmit.1 = tsx' := congrArg Prod.fst (Option.some.inj taken)
    rw [stopRetransmit, if_neg (by simp [server])]
    exact (Kept.refl tsx).passive server
  | retransmitNoState tdata attempts =>
    obtain rfl : (sendMsg cfg attempts tsx (tdata.or tsx.lastTx)).1 = tsx' :=
      congrArg Prod.fst (Option.some.inj taken)
    exact (sendMsg_kept cfg attempts tsx _).passive server

end Steps

end Tsx

/-- A server transaction with the response that was handed over last. -/
structure Served where
  tsx : Tsx
  handed : Option TxData := none

namespace Served

/-- The response that an event hands to a transaction that takes responses. -/
def response (served : Served) : TsxAct → Option TxData
  | .sendMsg tdata _ =>
    if served.tsx.answering then (tdata.or served.tsx.lastTx).filter (!·.msg.isRequest) else none
  | _ => none

/-- What was handed over last, after an event that was answered with `status`. -/
def handedAfter (served : Served) (act : TsxAct) (status : SipStatus) : Option TxData :=
  if status = .success then (served.response act).or served.handed else served.handed

end Served

/-- One event at a server transaction. -/
def serverStep (cfg : TsxCfg) (served : Served) (act : TsxAct) : Option (Served × SipStatus) :=
  (tsxStep cfg served.tsx act).map fun (tsx, status) =>
    (⟨tsx, served.handedAfter act status⟩, status)

/-- The event can happen, and a response has a status code that responses have. -/
def Offered (cfg : TsxCfg) (served : Served) (act : TsxAct) : Prop :=
  (tsxStep cfg served.tsx act).isSome ∧ ∀ tdata ∈ served.response act, tdata.msg.valid = true

/-- In state Proceeding there is a last response, and it is the one that is sent again when the
request comes in once more or the retransmission timer expires. -/
def Resends (cfg : TsxCfg) (served : Served) : Prop :=
  served.tsx.state = .proceeding → ∃ tdata,
    served.tsx.lastTx = some tdata ∧ served.handed = some tdata ∧
    (∀ msg ack attempts, msg.valid = true →
      tsxStep cfg served.tsx (.recvMsg msg ack attempts) =
        some (Tsx.sendMsg cfg attempts served.tsx (some tdata))) ∧
    ∀ attempts, served.tsx.retransmitTimer.running = true → ∃ timer pendingResched,
      tsxStep cfg served.tsx (.retransmitTimer attempts) =
        some (Tsx.sendMsg cfg attempts
          { served.tsx with
            retransmitTimer := timer, pendingResched
            retransmitCount := served.tsx.retransmitCount + 1 } (some tdata))

/-- A response that could not be sent leaves the transaction as it was, and the last one is sent
again whenever it has to be. -/
def Usable (cfg : TsxCfg) (served : Served) (act : TsxAct) (served' : Served)
    (status : SipStatus) : Prop :=
  ((served.response act).isSome = true → status ≠ .success → served'.tsx.state ≠ .terminated →
    Tsx.Untouched served.tsx served'.tsx) ∧ Resends cfg served'

/-- What holds of a server transaction throughout. -/
structure Remembers (served : Served) : Prop where
  role : served.tsx.role = .uas
  last : served.tsx.state.rank < 4 → served.tsx.lastTx = served.handed
  known : served.tsx.state = .proceeding → served.handed.isSome = true
  response : ∀ tdata ∈ served.handed, tdata.msg.isRequest = false

section Runs

variable {cfg : TsxCfg} {served served' : Served} {act : TsxAct} {status : SipStatus}

theorem Served.response_some (mem : tdata ∈ served.response act) :
    ∃ sent attempts, act = .sendMsg sent attempts ∧ served.tsx.answering = true ∧
      sent.or served.tsx.lastTx = some tdata ∧ tdata.msg.isRequest = false := by
  cases act with
  | sendMsg sent attempts =>
    simp only [Served.response, Option.mem_def] at mem
    split at mem
    · next here =>
      obtain ⟨known, response⟩ := Option.filter_eq_some_iff.1 mem
      exact ⟨sent, attempts, rfl, here, known, by simpa using response⟩
    · cases mem
  | _ => cases mem

theorem Served.response_none (silent : served.response act = none) (tdata : Option TxData)
    (attempts : List Attempt) (same : act = .sendMsg tdata attempts)
    (here : served.tsx.answering = true) :
    ∀ sent ∈ tdata.or served.tsx.lastTx, sent.msg.isRequest = true := by
  subst same
  intro sent mem
  rw [Served.response, if_pos here, mem, Option.filter_some] at silent
  by_contra response
  simp [response] at silent

theorem Remembers.resends (remembers : Remembers served) : Resends cfg served := by
  intro proceeding
  obtain ⟨tdata, handed⟩ := Option.isSome_iff_exists.1 (remembers.known proceeding)
  have last := remembers.last (by simp [proceeding, TsxState.rank])
  rw [handed] at last
  have response := remembers.response tdata handed
  refine ⟨tdata, last, handed, fun msg ack attempts valid => ?_, fun attempts running => ?_⟩
  · obtain ⟨again, eq⟩ := Tsx.sendMsg_eq cfg attempts
    rw [tsxStep, if_pos valid, Tsx.handle, proceeding, remembers.role]
    simp only [Tsx.onStateProceedingUas, last, Option.isNone_some, Bool.false_eq_true, if_false, eq,
      Tsx.sendWith]
    split
    · rfl
    · rfl
  · rw [tsxStep, if_pos running]
    exact Tsx.onRetransmit_response remembers.role proceeding last response

theorem tsxStep_answered (remembers : Remembers served) (offered : Offered cfg served act)
    (given : tdata ∈ served.response act) :
    ∃ answer, tsxStep cfg served.tsx act = some answer ∧ Tsx.Answered tdata answer := by
  have valid := offered.2 tdata given
  obtain ⟨sent, attempts, rfl, here, known, response⟩ := Served.response_some given
  obtain ⟨answer, taken, answered⟩ := Tsx.handle_answered cfg attempts
    remembers.role here response valid
  refine ⟨answer, ?_, answered⟩
  rw [tsxStep, known]
  exact taken

theorem serverStep_unanswered (remembers : Remembers served) (silent : served.response act = none)
    {tsx : Tsx} (taken : tsxStep cfg served.tsx act = some (tsx, status)) :
    Remembers ⟨tsx, served.handedAfter act status⟩ := by
  have passive := Tsx.tsxStep_passive remembers.role (Served.response_none silent) taken
  have same : served.handedAfter act status = served.handed := by
    rw [Served.handedAfter, silent, Option.none_or, ite_self]
  rw [same]
  refine ⟨passive.role, fun low => ?_, fun here => ?_, remembers.response⟩
  · rcases passive.held with late | ⟨before, last, -⟩
    · exact absurd low (Nat.not_lt.2 late)
    · exact last.trans (remembers.last before)
  · rcases passive.held with late | ⟨-, -, before⟩
    · simp only at here
      simp [here, TsxState.rank] at late
    · exact remembers.known (before here)

theorem serverStep_answered (remembers : Remembers served) (offered : Offered cfg served act)
    (given : tdata ∈ served.response act)
    {tsx : Tsx} (taken : tsxStep cfg served.tsx act = some (tsx, status)) :
    (status ≠ .success → tsx.state = .terminated) ∧
      Remembers ⟨tsx, served.handedAfter act status⟩ := by
  obtain ⟨answer, taken', answered⟩ := tsxStep_answered remembers offered given
  obtain rfl := Option.some.inj (taken'.symm.trans taken)
  obtain ⟨_, _, -, -, -, response⟩ := Served.response_some given
  refine ⟨answered.failed, ?_⟩
  by_cases sent : status = .success
  · have handed : served.handedAfter act status = some tdata := by
      rw [Served.handedAfter, if_pos sent, Option.mem_def.1 given, Option.some_or]
    rw [handed]
    refine ⟨answered.role, fun low => (answered.sent sent).last (Nat.lt_succ_of_lt low),
      fun _ => rfl, ?_⟩
    rintro _ ⟨⟩
    exact response
  · have ended : tsx.state = .terminated := answered.failed sent
    have handed : served.handedAfter act status = served.handed := if_neg sent
    rw [handed]
    refine ⟨answered.role, fun low => ?_, fun here => ?_, remembers.response⟩
    · simp only [ended, TsxState.rank] at low
      omega
    · simp only [ended, reduceCtorEq] at here

theorem serverStep_usable (remembers : Remembers served) (offered : Offered cfg served act) :
    ∃ served' status, serverStep cfg served act = some (served', status) ∧
      Usable cfg served act served' status ∧ Remembers served' := by
  obtain ⟨⟨tsx, status⟩, taken⟩ := Option.isSome_iff_exists.1 offered.1
  refine ⟨⟨tsx, served.handedAfter act status⟩, status, by rw [serverStep, taken]; rfl, ?_⟩
  cases given : served.response act with
  | none =>
    have remembers' := serverStep_unanswered remembers given taken
    refine ⟨⟨fun answers => ?_, remembers'.resends⟩, remembers'⟩
    rw [given] at answers
    cases answers
  | some tdata =>
    obtain ⟨ends, remembers'⟩ := serverStep_answered remembers offered given taken
    exact ⟨⟨fun _ fails lives => absurd (ends fails) lives, remembers'.resends⟩, remembers'⟩

theorem created_remembers (method : MethodId) (isReliable handle200resp : Bool)
    (transport : Option Transport) :
    Remembers ⟨.ofUas method isReliable handle200resp transport, none⟩ := by
  obtain ⟨server, null, last⟩ := Tsx.ofUas_fresh method isReliable handle200resp transport
  refine ⟨server, fun _ => last, fun here => ?_, fun _ mem => by cases mem⟩
  rw [null] at here
  cases here

end Runs

instance (cfg : TsxCfg) (served : Served) (act : TsxAct) :
    Decidable (Offered cfg served act) :=
  inferInstanceAs (Decidable (_ ∧ ∀ tdata ∈ _, _))

def inviteServer : Served := ⟨.ofUas .invite false true (some udp), none⟩

/-- The transport fails, and so does the address that is looked up instead. -/
def unreachable : Attempt :=
  ⟨false, .error ⟨.other 120101, by decide⟩, .begun [.failed ⟨.other 120101, by decide⟩ none false]⟩

/-- The transport fails, and no address is found. -/
def unresolved : Attempt :=
  ⟨false, .error ⟨.other 120101, by decide⟩, .begun [.failed ⟨.eresolve, by decide⟩ none false]⟩

/-- 180 is sent. 183 cannot be sent at once, and is repeated for the request and by the timer.
200 finds no address, which ends the transaction. -/
def repeatedProgress : List TsxAct :=
  [.recvMsg (.request .invite) (.ok 0) [],
    .sendMsg (some ⟨1, .response 180 .invite⟩) [⟨false, .sent, .begun []⟩],
    .sendMsg (some ⟨2, .response 183 .invite⟩) [unreachable],
    .recvMsg (.request .invite) (.ok 0) [⟨false, .sent, .begun [.sent udp]⟩],
    .retransmitTimer [⟨false, .sent, .begun []⟩],
    .sendMsg (some ⟨3, .response 200 .invite⟩) [unresolved]]

end Pjsip.Sip
