import Pjsip.Base.Run
import Pjsip.Sip.Tsx.Machine
import Pjsip.Sip.Tsx.Sending

/-!
# Every transaction gets on

The state of a transaction only rises, its user is told once that it has terminated and once
that it is destroyed, and as long as only the timeout timer is sure to lead on, that timer is
running.
-/

namespace Pjsip.Sip

open Base

/-- The states that are left by the timeout timer if by nothing else. -/
def TsxState.needsTimer (state : TsxState) (role : Role) (method : MethodId) : Bool :=
  match state with
  | .calling | .completed | .confirmed | .terminated => true
  | .proceeding => role = .uac ∧ method ≠ .invite
  | .null | .trying | .destroyed => false

theorem TsxState.needsTimer_server {state : TsxState} (low : state.rank < 4)
    (other : state ≠ .calling) (method : MethodId) : state.needsTimer .uas method = false := by
  cases state <;> simp_all [TsxState.needsTimer, TsxState.rank]

/-- The event is the expiry of the timeout timer. -/
def TsxEvent.expires : TsxEvent → Bool
  | .timeoutTimer => true
  | .retransmitTimer | .rxMsg _ _ | .txMsg _ => false

def TsxEvent.valid : TsxEvent → Bool
  | .rxMsg msg _ => msg.valid
  | .retransmitTimer | .timeoutTimer | .txMsg _ => true

namespace Tsx

def needsTimer (tsx : Tsx) : Bool := tsx.state.needsTimer tsx.role tsx.method

/-- What is promised of every transaction, after each event. -/
structure Progress (tsx : Tsx) : Prop where
  rising : ∀ move ∈ tsx.moves, move.1.rank ≤ move.2.rank
  terminatedOnce : tsx.told.count .terminated ≤ 1
  destroyedOnce : tsx.told.count .destroyed ≤ 1
  timed : tsx.needsTimer = true → tsx.timeoutTimer.running = true

/-- The transaction is waiting, and if need be with its timer running. -/
structure Handled (tsx : Tsx) : Prop where
  sound : Sound tsx
  timed : tsx.needsTimer = true → tsx.timeoutTimer.running = true

theorem Handled.progress {tsx : Tsx} (handled : Handled tsx) : Progress tsx where
  rising := handled.sound.rising
  terminatedOnce := Nat.le_trans handled.sound.terminatedOnce (by split <;> omega)
  destroyedOnce := Nat.le_trans handled.sound.destroyedOnce (by split <;> omega)
  timed := handled.timed

section Outcomes

variable {cfg : TsxCfg} {attempts : List Attempt} {tsx tsx' : Tsx} {told : Prop}

theorem needsTimer_low (needs : tsx.needsTimer = true) : tsx.state.rank ≤ 6 := by
  rw [rank_le_six]
  intro gone
  rw [needsTimer, gone] at needs
  cases needs

theorem Went.handled (went : Went told tsx tsx')
    (timed : tsx.needsTimer = true → tsx.timeoutTimer.running = true) : Handled tsx' := by
  refine ⟨went.sound, fun needs => ?_⟩
  rcases went.outcome with ⟨state, stays⟩ | ⟨_, _, running, _⟩
  · rw [needsTimer, state, went.role, went.method] at needs
    exact stays (needsTimer_low needs) (timed needs)
  · exact running

theorem setState_low_handled (state : TsxState) (low : state.rank < 6) (sound : Sound tsx)
    (up : tsx.state.rank ≤ state.rank)
    (waking : 4 ≤ state.rank → tsx.timeoutTimer.running = true → tsx.timeoutTimer.id = .timeout)
    (placed : (tsx.role = .uas → state ≠ .calling) ∧ (tsx.role = .uac → state ≠ .trying))
    (timed : state.needsTimer tsx.role tsx.method = true → tsx.timeoutTimer.running = true) :
    Handled (tsx.setState state {}) := by
  have after := setState_low_sound low sound up waking placed
  rw [setState_low low] at after ⊢
  exact ⟨after, timed⟩

theorem setState_terminated_handled (sound : Sound tsx) (before : tsx.state.rank < 6) :
    Handled (tsx.setState .terminated {}) := by
  have after := setState_terminated_sound sound before {}
  obtain ⟨_, _, eq⟩ := setState_terminated tsx {}
  rw [eq] at after ⊢
  exact ⟨after, fun _ => rfl⟩

theorem setStatus_terminated_handled (sound : Sound tsx) (before : tsx.state.rank < 6)
    (code : Nat) : Handled (tsx.setStatus code .terminated {}) :=
  setState_terminated_handled { sound with } before

theorem setState_destroyed_handled (sound : Sound tsx) (last : tsx.state = .terminated) :
    Handled (tsx.setState .destroyed {}) := by
  have after := setState_destroyed_sound sound (.inl last)
  obtain ⟨_, _, _, _, eq⟩ := setState_destroyed tsx
  rw [eq] at after ⊢
  exact ⟨after, fun needs => Bool.noConfusion needs⟩

theorem retransmit_went (sound : Sound tsx) (low : tsx.state.rank ≤ 6)
    (client : tsx.role = .uac → tsx.state.rank < 6) (resched : Bool) :
    Went False tsx (retransmit cfg attempts tsx resched).1 := by
  rw [retransmit]
  split
  · exact .refl sound
  split
  · exact .refl sound
  next tdata _ =>
  split
  · exact restartTimeout_went sound 0 fun _ => .inl rfl
  have calm : Calm tsx (if resched then
      if tsx.pendingTransport then
        { tsx with retransmitCount := tsx.retransmitCount + 1, pendingResched := true }
      else { tsx with retransmitCount := tsx.retransmitCount + 1 }.reschedRetransmission cfg
    else { tsx with retransmitCount := tsx.retransmitCount + 1 }) := by
    have counted : Calm tsx { tsx with retransmitCount := tsx.retransmitCount + 1 } := by
      constructor <;> rfl
    split
    · split
      · constructor <;> rfl
      · exact counted.trans reschedRetransmission_calm
    · exact counted
  have sent := sendMsg_proper cfg attempts _ (some tdata) (calm.sound sound)
    (by rw [calm.state]; exact low) (by rw [calm.role, calm.state]; exact client)
  exact (calm.went sound).trans sent.1

end Outcomes

/-- The attempt hands the message on without looking for a server. -/
def passes (tsx : Tsx) (attempts : List Attempt) : Bool :=
  let attempt := attempts.headD .waiting
  tsx.pendingTransport || attempt.isPending || tsx.transport.isSome &&
    match attempt.direct with
    | .error _ => false
    | .sent | .pending => true

/-- The attempt fails, and leaves the transaction where it is. -/
def refuses (tsx : Tsx) (attempts : List Attempt) : Bool :=
  !tsx.passes attempts && !tsx.resolvedServer &&
    match (attempts.headD .waiting).stateless with
    | .refused _ => true
    | .begun _ => false

/-- A client that has terminated can send the message that still waits, once the transport is
known. -/
def Resends (tsx : Tsx) (attempts : List Attempt) : Prop :=
  tsx.role = .uac → tsx.state = .terminated → tsx.pendingSend = true → tsx.lastTx.isSome = true →
    { tsx with pendingTransport := false }.passes attempts = true

section Attempts

variable {cfg : TsxCfg} {attempts : List Attempt} {tsx : Tsx}

theorem sendMsg_eq (cfg : TsxCfg) (attempts : List Attempt) :
    ∃ again, sendMsg cfg attempts = sendWith cfg again (attempts.headD .waiting) := by
  cases attempts with
  | nil => exact ⟨_, rfl⟩
  | cons attempt rest => exact ⟨_, rfl⟩

theorem sendMsg_none {tdata : Option TxData} (tsx : Tsx) (absent : tdata = none) :
    (sendMsg cfg attempts tsx tdata).1 = tsx := by
  obtain ⟨again, eq⟩ := sendMsg_eq cfg attempts
  rw [eq, absent]
  rfl

theorem sendMsg_passes (sound : Sound tsx) (low : tsx.state.rank ≤ 6)
    (passes : tsx.passes attempts = true) (tdata : Option TxData) :
    Went False tsx (sendMsg cfg attempts tsx tdata).1 := by
  obtain ⟨again, eq⟩ := sendMsg_eq cfg attempts
  rw [eq]
  rw [Tsx.passes] at passes
  generalize attempts.headD .waiting = attempt at passes ⊢
  cases tdata with
  | none => exact .refl sound
  | some tdata =>
    rw [sendWith]
    split
    · next pending =>
      refine ⟨{ sound with queued := fun _ _ _ _ => pending, idle := fun gone => ?_ }, rfl, rfl,
        id, .inl ⟨rfl, fun _ running => running⟩⟩
      exact absurd gone (rank_le_six.1 low)
    next idle =>
    split
    · exact .refl sound
    next fresh =>
    simp only [idle, fresh, Bool.false_or, Bool.and_eq_true] at passes
    rw [if_pos passes.1]
    cases direct : attempt.direct with
    | sent => exact .refl sound
    | pending =>
      exact ⟨{ sound with
        flown := fun here _ => sound.routed here passes.1
        queued := fun _ _ _ _ => rfl }, rfl, rfl, id,
        .inl ⟨rfl, fun _ running => running⟩⟩
    | error error =>
      rw [direct] at passes
      cases passes.2

theorem sendMsg_resent (sound : Sound tsx) (idle : tsx.pendingTransport = false)
    (resends : tsx.Resends attempts) : Resent (sendMsg cfg attempts) tsx := by
  intro waits
  by_cases client : tsx.role = .uac ∧ tsx.state = .terminated
  · have low : tsx.state.rank ≤ 6 := by
      rw [client.2]
      exact Nat.le_refl 6
    by_cases known : tsx.lastTx.isSome = true
    · have passes := resends client.1 client.2 waits known
      refine sendMsg_passes sound.flushed low ?_ tsx.lastTx
      rw [idle]
      exact passes
    · rw [sendMsg_none _ (Option.not_isSome_iff_eq_none.1 known)]
      exact .refl sound.flushed
  · refine (sendMsg_proper cfg attempts).resent sound (fun role state => ?_) waits
    exact absurd ⟨role, state⟩ client

theorem sendStateless_begun {tdata : TxData} {attempt : Attempt} {reports : List Outcome}
    (begun : attempt.stateless = .begun reports) :
    tsx.sendStateless tdata attempt = .begun reports := by
  simp only [sendStateless, begun, ite_self]

theorem sendMsg_fails (cfg : TsxCfg) (client : tsx.role = .uac) (taken : tsx.refuses attempts = false)
    (tdata : TxData) (fault : (sendMsg cfg attempts tsx (some tdata)).2 ≠ .success) :
    (sendMsg cfg attempts tsx (some tdata)).1.state = .terminated := by
  obtain ⟨again, eq⟩ := sendMsg_eq cfg attempts
  rw [eq] at fault ⊢
  rw [refuses, Tsx.passes] at taken
  generalize attempts.headD .waiting = attempt at taken fault ⊢
  have resolving : ∀ status (tsx' : Tsx), tsx'.role = .uac →
      tsx'.resolvedServer = tsx.resolvedServer →
      (tsx.resolvedServer = true ∨ ∃ reports, attempt.stateless = .begun reports) →
      (resolveAndSend cfg again attempt tsx' tdata status).2 ≠ .success →
      (resolveAndSend cfg again attempt tsx' tdata status).1.state = .terminated := by
    intro status tsx' client same found fault
    rw [resolveAndSend] at fault ⊢
    split
    · obtain ⟨_, _, eq⟩ := setState_terminated { tsx' with statusCode := 503 } {}
      rw [setStatus, eq]
    · next unresolved =>
      rw [if_neg unresolved] at fault
      rcases found with resolved | ⟨reports, begun⟩
      · exact absurd ⟨client, same.trans resolved⟩ unresolved
      · simp only [sendStateless_begun begun] at fault ⊢
        by_contra other
        exact fault (if_neg other)
  rw [sendWith] at fault ⊢
  split at fault
  · exact absurd rfl fault
  next idle =>
  split at fault
  · exact absurd rfl fault
  next fresh =>
  rw [if_neg idle, if_neg fresh]
  have found : (tsx.transport.isSome = true → ∃ error, attempt.direct = .error error) →
      tsx.resolvedServer = true ∨ ∃ reports, attempt.stateless = .begun reports := by
    intro unsent
    cases resolved : tsx.resolvedServer with
    | true => exact .inl rfl
    | false =>
      right
      cases stateless : attempt.stateless with
      | begun reports => exact ⟨reports, rfl⟩
      | refused error =>
        simp only [idle, fresh, resolved, stateless, Bool.false_or, Bool.not_false,
          Bool.and_true, Bool.not_eq_false', Bool.and_eq_true] at taken
        obtain ⟨error, direct⟩ := unsent taken.1
        rw [direct] at taken
        cases taken.2
  split at fault
  · next known =>
    rw [if_pos known]
    cases direct : attempt.direct with
    | sent =>
      rw [direct] at fault
      exact absurd rfl fault
    | pending =>
      rw [direct] at fault
      exact absurd rfl fault
    | error error =>
      rw [direct] at fault
      exact resolving _ _ client rfl (found fun _ => ⟨error, direct⟩) fault
  · next unknown =>
    rw [if_neg unknown]
    exact resolving _ _ client rfl (found fun known => absurd known unknown) fault

end Attempts

section Handlers

variable {cfg : TsxCfg} {attempts : List Attempt} {tsx : Tsx} {event : TsxEvent}

theorem Calm.handled {tsx' : Tsx} (calm : Calm tsx tsx') (handled : Handled tsx) : Handled tsx' :=
  have went : Went False tsx tsx' := calm.went handled.sound
  went.handled handled.timed

theorem cancelRetransmit_calm (tsx : Tsx) : Calm tsx tsx.cancelRetransmit := by constructor <;> rfl

theorem idle_handled (sound : Sound tsx) (idle : tsx.needsTimer = false) : Handled tsx :=
  ⟨sound, fun needs => absurd (idle.symm.trans needs) Bool.false_ne_true⟩

theorem cancelTimeout_sound (sound : Sound tsx) :
    Sound { tsx with timeoutTimer := tsx.timeoutTimer.cancel } :=
  { sound with
    waking := by
      intro _ running
      rw [cancel_running] at running
      cases running }

theorem onStateNull_handled (sound : Sound tsx) (null : tsx.state = .null) :
    Handled (tsx.onStateNull cfg attempts event).1 := by
  have idle : tsx.needsTimer = false := by rw [needsTimer, null, TsxState.needsTimer]
  unfold onStateNull
  split
  · next server =>
    refine setState_low_handled .trying (by decide) sound ?_
      (fun late => absurd late (by decide)) ?_ ?_
    · rw [null]
      exact Nat.zero_le _
    · rw [server]
      exact ⟨fun _ => TsxState.noConfusion, fun other => Role.noConfusion other⟩
    · exact fun needs => Bool.noConfusion needs
  next other =>
  cases event with
  | retransmitTimer => exact idle_handled sound idle
  | timeoutTimer => exact idle_handled sound idle
  | rxMsg msg ack => exact idle_handled sound idle
  | txMsg tdata =>
    have client : tsx.role = .uac := by
      cases role : tsx.role with
      | uac => rfl
      | uas => exact absurd role other
    have sound' : Sound { tsx with lastTx := some tdata } := { sound with }
    have sent := sendMsg_proper cfg attempts _ (some tdata) sound'
      (by rw [null]; decide) (fun _ => by rw [null]; decide)
    dsimp only
    generalize sendMsg cfg attempts { tsx with lastTx := some tdata } (some tdata) = result
      at sent ⊢
    obtain ⟨tsx', status⟩ := result
    split
    · exact sent.1.handled fun needs => absurd (idle.symm.trans needs) Bool.false_ne_true
    next success =>
    have state : tsx'.state = .null := (sent.2 (Decidable.not_not.1 success)).trans null
    have role : tsx'.role = .uac := sent.1.role.trans client
    have restarted : Went False tsx' (tsx'.restartTimeout cfg.timeout .timeout) :=
      restartTimeout_went sent.1.sound cfg.timeout fun _ => .inl rfl
    have running : (tsx'.restartTimeout cfg.timeout .timeout).timeoutTimer.running = true := by
      rw [restartTimeout_eq]
      rfl
    have same : (tsx'.restartTimeout cfg.timeout .timeout).state = .null := state
    have role' : (tsx'.restartTimeout cfg.timeout .timeout).role = .uac :=
      restarted.role.trans role
    generalize tsx'.restartTimeout cfg.timeout .timeout = armed at restarted running same role' ⊢
    have calm : Calm armed (if armed.isReliable then armed
        else { armed with retransmitCount := 0 }.startRetransmit cfg.t1) := by
      split
      · exact .refl armed
      · refine .trans ?_ startRetransmit_calm
        constructor <;> rfl
    refine setState_low_handled .calling (by decide) (calm.sound restarted.sound) ?_
      (fun late => absurd late (by decide)) ?_ fun _ => ?_
    · rw [calm.state, same]
      exact Nat.zero_le _
    · rw [calm.role, role']
      exact ⟨fun other => Role.noConfusion other, fun _ => TsxState.noConfusion⟩
    · rw [calm.timeoutTimer]
      exact running

theorem completeUac_handled (sound : Sound tsx) (low : tsx.state.rank ≤ 4)
    (ack : Option TxData) : Handled (tsx.completeUac cfg ack).1 := by
  have armed : Sound { tsx with timeoutTimer := ⟨.timeout, some (tsx.lingerTime cfg)⟩ } :=
    { sound with waking := fun _ _ => .inl rfl }
  have completed := setState_low_handled .completed (by decide) armed low
    (fun _ _ => rfl) ⟨fun _ => TsxState.noConfusion, fun _ => TsxState.noConfusion⟩ fun _ => rfl
  rw [setState_low (by decide)] at completed
  simp only [completeUac, setState_low (show TsxState.completed.rank < 6 by decide),
    restartTimeout_eq]
  cases ack with
  | none => exact completed
  | some ack => exact ⟨{ completed.sound with }, completed.timed⟩

theorem acknowledge_handled {ack : Except Fault Nat} (sound : Sound tsx)
    (client : tsx.role = .uac) (invite : tsx.method = .invite)
    (state : tsx.state = .calling ∨ tsx.state = .proceeding)
    (acked : tsx.state = .calling → ack.isOk = true ∧ tsx.refuses attempts = false) :
    Handled (tsx.acknowledge cfg attempts ack).1 := by
  have low : tsx.state.rank ≤ 3 := by
    rcases state with state | state <;> rw [state] <;> decide
  have idle : tsx.state = .proceeding → tsx.needsTimer = false := by
    intro proceeding
    simp [needsTimer, proceeding, TsxState.needsTimer, invite]
  cases ack with
  | error error =>
    rcases state with calling | proceeding
    · cases (acked calling).1
    · exact idle_handled sound (idle proceeding)
  | ok id =>
    have sent := sendMsg_proper cfg attempts tsx (some ⟨id, .request .ack⟩) sound
      (Nat.le_trans low (by decide)) (fun _ => Nat.lt_of_le_of_lt low (by decide))
    have fails := fun calling => sendMsg_fails cfg client (acked calling).2 ⟨id, .request .ack⟩
    simp only [acknowledge]
    generalize sendMsg cfg attempts tsx (some ⟨id, .request .ack⟩) = result at sent fails ⊢
    obtain ⟨tsx', status⟩ := result
    dsimp only at sent fails ⊢
    split
    · next fault =>
      rcases state with calling | proceeding
      · rcases sent.1.outcome with ⟨same, _⟩ | ⟨_, _, running, _⟩
        · rw [same, calling] at fails
          cases fails rfl fault
        · exact ⟨sent.1.sound, fun _ => running⟩
      · exact sent.1.handled fun needs =>
          absurd ((idle proceeding).symm.trans needs) Bool.false_ne_true
    · next success =>
      refine completeUac_handled sent.1.sound ?_ _
      rw [sent.2 (Decidable.not_not.1 success)]
      exact Nat.le_succ_of_le low

theorem onResponse_handled {code : Nat} {cseqMethod : MethodId} {ack : Except Fault Nat}
    (sound : Sound tsx) (client : tsx.role = .uac)
    (state : tsx.state = .calling ∨ tsx.state = .proceeding) (valid : 100 ≤ code ∧ code ≤ 699)
    (provisional : code < 200 → tsx.method ≠ .invite → tsx.timeoutTimer.running = true)
    (acked : tsx.state = .calling → tsx.method = .invite → 300 ≤ code →
      ack.isOk = true ∧ tsx.refuses attempts = false) :
    Handled (tsx.onStateProceedingUac cfg attempts (.rxMsg (.response code cseqMethod) ack)).1 := by
  have low : tsx.state.rank ≤ 3 := by
    rcases state with state | state <;> rw [state] <;> decide
  have late : ¬4 ≤ TsxState.proceeding.rank := by decide
  simp only [onStateProceedingUac, isStatusInClass, decide_eq_true_eq]
  split
  · refine setState_low_handled .proceeding (by decide) { sound with } low
      (fun later => absurd later late)
      ⟨fun _ => TsxState.noConfusion, fun _ => TsxState.noConfusion⟩ fun needs => ?_
    exact provisional (by omega) (of_decide_eq_true needs).2
  next final =>
  split
  · split
    · exact setState_terminated_handled { cancelTimeout_sound sound with }
        (Nat.lt_of_le_of_lt low (by decide))
    · refine setState_low_handled .completed (by decide) { sound with waking := ?_ }
        (Nat.le_succ_of_le low) ?_ ⟨fun _ => TsxState.noConfusion, fun _ => TsxState.noConfusion⟩
        fun _ => schedule_running ..
      · intro _ _
        simp [cancelRetransmit, lingerTime]
      · intro _ _
        simp [cancelRetransmit, lingerTime]
  next fails =>
  rw [if_pos (by omega)]
  have cancelled : Sound { tsx with
      statusCode := code, retransmitTimer := tsx.retransmitTimer.cancel
      timeoutTimer := tsx.timeoutTimer.cancel } :=
    { cancelTimeout_sound sound with }
  split
  · next invite =>
    exact acknowledge_handled cancelled client invite state fun calling =>
      acked calling invite (by omega)
  split
  · exact setState_terminated_handled cancelled (Nat.lt_of_le_of_lt low (by decide))
  · exact completeUac_handled cancelled (Nat.le_succ_of_le low) none

/-- The ACK for a response that ends an INVITE in state Calling is created and not refused. -/
def Acked (tsx : Tsx) (attempts : List Attempt) : TsxEvent → Prop
  | .rxMsg (.response code _) ack => tsx.state = .calling → tsx.method = .invite → 300 ≤ code →
      ack.isOk = true ∧ tsx.refuses attempts = false
  | _ => True

/-- What a handler may rely on. -/
structure Ready (tsx : Tsx) (attempts : List Attempt) (event : TsxEvent) : Prop where
  sound : Sound tsx
  timed : event.expires = false → tsx.needsTimer = true → tsx.timeoutTimer.running = true
  valid : event.valid = true
  acked : tsx.Acked attempts event

theorem onStateProceedingUac_handled (ready : Ready tsx attempts event)
    (state : tsx.state = .proceeding) (client : tsx.role = .uac) :
    Handled (tsx.onStateProceedingUac cfg attempts event).1 := by
  obtain ⟨sound, timed, valid, acked⟩ := ready
  have low : tsx.state.rank < 6 := by
    rw [state]
    decide
  cases event with
  | txMsg tdata => exact ⟨sound, timed rfl⟩
  | retransmitTimer =>
    exact (retransmit_went sound (Nat.le_of_lt low) (fun _ => low) true).handled (timed rfl)
  | timeoutTimer => exact setStatus_terminated_handled sound low 408
  | rxMsg msg ack =>
    cases msg with
    | request method => exact ⟨sound, timed rfl⟩
    | response code cseqMethod =>
      refine onResponse_handled sound client (.inr state) (of_decide_eq_true valid) ?_ acked
      intro _ other
      refine timed rfl ?_
      simp [needsTimer, state, TsxState.needsTimer, client, other]

theorem onFirstResponse_spec (cfg : TsxCfg) (attempts : List Attempt) (sound : Sound tsx) (code : Nat) :
    Sound (tsx.onFirstResponse cfg code) ∧ (tsx.onFirstResponse cfg code).role = tsx.role
      ∧ (tsx.onFirstResponse cfg code).state = tsx.state
      ∧ (tsx.onFirstResponse cfg code).method = tsx.method
      ∧ (tsx.onFirstResponse cfg code).refuses attempts = tsx.refuses attempts
      ∧ (code < 200 → tsx.method ≠ .invite →
          (tsx.onFirstResponse cfg code).timeoutTimer = tsx.timeoutTimer) := by
  have calm := cancelRetransmit_calm tsx
  have sound' := calm.sound sound
  have cancelled := cancelTimeout_sound sound'
  have refuses : tsx.cancelRetransmit.refuses attempts = tsx.refuses attempts := rfl
  rw [← refuses, ← calm.role, ← calm.state, ← calm.method, ← calm.timeoutTimer]
  unfold onFirstResponse
  generalize tsx.cancelRetransmit = tsx' at sound' cancelled
  dsimp only
  split
  · next final =>
    split
    · exact ⟨{ cancelled with }, rfl, rfl, rfl, rfl, fun low => absurd final (Nat.not_le.2 low)⟩
    · exact ⟨{ sound' with }, rfl, rfl, rfl, rfl, fun _ _ => rfl⟩
  split
  · next invite => exact ⟨{ cancelled with }, rfl, rfl, rfl, rfl, fun _ other => absurd invite other⟩
  split
  · exact ⟨{ sound' with }, rfl, rfl, rfl, rfl, fun _ _ => rfl⟩
  · exact ⟨{ sound' with }, rfl, rfl, rfl, rfl, fun _ _ => rfl⟩

theorem onStateCalling_handled (ready : Ready tsx attempts event)
    (state : tsx.state = .calling) (client : tsx.role = .uac) :
    Handled (tsx.onStateCalling cfg attempts event).1 := by
  obtain ⟨sound, timed, valid, acked⟩ := ready
  have low : tsx.state.rank < 6 := by
    rw [state]
    decide
  cases event with
  | txMsg tdata => exact ⟨sound, timed rfl⟩
  | retransmitTimer =>
    exact (retransmit_went sound (Nat.le_of_lt low) (fun _ => low) true).handled (timed rfl)
  | timeoutTimer =>
    have stopped : Sound { tsx.cancelRetransmit with pendingResched := false } := { sound with }
    exact setStatus_terminated_handled stopped low 408
  | rxMsg msg ack =>
    cases msg with
    | request method => exact ⟨sound, timed rfl⟩
    | response code cseqMethod =>
      have running : tsx.timeoutTimer.running = true :=
        timed rfl (by rw [needsTimer, state, TsxState.needsTimer])
      obtain ⟨sound', role', state', method', refuses, timer⟩ :=
        onFirstResponse_spec cfg attempts sound code
      refine onResponse_handled sound' (role'.trans client) (.inl (state'.trans state))
        (of_decide_eq_true valid) ?_ ?_
      · rw [method']
        intro provisional other
        rw [timer provisional other]
        exact running
      · rw [state', method', refuses]
        exact acked

theorem completeUas_handled (sound : Sound tsx) (low : tsx.state.rank ≤ 4) (tdata : TxData)
    (retransmits : Bool) : Handled (tsx.completeUas cfg tdata retransmits) := by
  simp only [completeUas, restartTimeout_eq]
  generalize (if tsx.method = .invite ∨ !tsx.isReliable then cfg.timeout else 0) = delay
  have armed : Sound { tsx with lastTx := some tdata, timeoutTimer := ⟨.timeout, some delay⟩ } :=
    { sound with waking := fun _ _ => .inl rfl }
  have calm : Calm { tsx with lastTx := some tdata, timeoutTimer := ⟨.timeout, some delay⟩ }
      (if retransmits then { tsx with
        lastTx := some tdata, timeoutTimer := ⟨.timeout, some delay⟩
        retransmitCount := 0 }.startRetransmit cfg.t1
      else { tsx with lastTx := some tdata, timeoutTimer := ⟨.timeout, some delay⟩ }) := by
    split
    · refine .trans ?_ startRetransmit_calm
      constructor <;> rfl
    · exact .refl _
  refine setState_low_handled .completed (by decide) (calm.sound armed) ?_ ?_
    ⟨fun _ => TsxState.noConfusion, fun _ => TsxState.noConfusion⟩ ?_
  · rw [calm.state]
    exact low
  · rw [calm.timeoutTimer]
    exact fun _ _ => rfl
  · rw [calm.timeoutTimer]
    exact fun _ => rfl

theorem onAnswered_handled (sound : Sound tsx) (low : tsx.state.rank ≤ 3)
    (server : tsx.role = .uas) (idle : tsx.needsTimer = false) (tdata : TxData)
    (cseqMethod : MethodId) : Handled (tsx.onAnswered cfg tdata cseqMethod) := by
  have late : ¬4 ≤ TsxState.proceeding.rank := by decide
  have stopped := (cancelRetransmit_calm tsx).sound sound
  unfold onAnswered
  split
  · have proceeding : Handled ({ tsx with lastTx := some tdata }.setState .proceeding {}) := by
      refine setState_low_handled .proceeding (by decide) { sound with } low
        (fun later => absurd later late)
        ⟨fun _ => TsxState.noConfusion, fun _ => TsxState.noConfusion⟩ fun needs => ?_
      have client := (of_decide_eq_true needs).1
      rw [server] at client
      cases client
    generalize { tsx with lastTx := some tdata }.setState .proceeding {} = tsx' at proceeding
    dsimp only
    split
    · refine Calm.handled (Calm.trans ?_ startRetransmit_calm) proceeding
      constructor <;> rfl
    · exact proceeding
  split
  · dsimp only
    split
    · exact setState_terminated_handled stopped (Nat.lt_of_le_of_lt low (by decide))
    · exact completeUas_handled stopped (Nat.le_succ_of_le low) tdata _
  split
  · exact completeUas_handled stopped (Nat.le_succ_of_le low) tdata _
  · exact idle_handled sound idle

theorem onStateProceedingUas_handled (cfg : TsxCfg) (ready : Ready tsx attempts event)
    (state : tsx.state = .trying ∨ tsx.state = .proceeding) (server : tsx.role = .uas) :
    Handled (tsx.onStateProceedingUas cfg attempts event).1 := by
  obtain ⟨sound, timed, valid, acked⟩ := ready
  have low : tsx.state.rank ≤ 3 := by
    rcases state with state | state <;> rw [state] <;> decide
  have before : tsx.state.rank < 6 := Nat.lt_of_le_of_lt low (by decide)
  have idle : tsx.needsTimer = false := by
    rcases state with state | state <;> simp [needsTimer, state, TsxState.needsTimer, server]
  have resting : ∀ {tsx'}, Went False tsx tsx' → Handled tsx' := fun went =>
    went.handled fun needs => absurd (idle.symm.trans needs) Bool.false_ne_true
  cases event with
  | retransmitTimer =>
    exact resting (retransmit_went sound (Nat.le_of_lt before) (fun _ => before) true)
  | timeoutTimer => exact setStatus_terminated_handled sound before 408
  | rxMsg msg ack =>
    simp only [onStateProceedingUas]
    split
    · exact idle_handled sound idle
    split
    · next pending =>
      refine idle_handled { sound with queued := fun _ _ _ _ => pending, idle := ?_ } idle
      intro gone
      rw [gone] at before
      exact absurd before (by decide)
    · exact resting (sendMsg_proper cfg attempts tsx _ sound (Nat.le_of_lt before)
        fun _ => before).1
  | txMsg tdata =>
    obtain ⟨id, msg⟩ := tdata
    cases msg with
    | request method => exact idle_handled sound idle
    | response code cseqMethod =>
      simp only [onStateProceedingUas]
      have calm : Calm tsx (if tsx.lastTx ≠ some ⟨id, .response code cseqMethod⟩ then
          { tsx with statusCode := code, lastTx := none }
        else { tsx with statusCode := code }) := by
        split
        · constructor <;> rfl
        · constructor <;> rfl
      have low' := calm.state ▸ before
      have sent := sendMsg_proper cfg attempts _ (some ⟨id, .response code cseqMethod⟩)
        (calm.sound sound) (Nat.le_of_lt low') fun _ => low'
      generalize sendMsg cfg attempts _ _ = result at sent ⊢
      obtain ⟨tsx', status⟩ := result
      dsimp only at sent ⊢
      have went := (calm.went sound).trans sent.1
      split
      · exact resting went
      · next success =>
        have same := (sent.2 (Decidable.not_not.1 success)).trans calm.state
        refine onAnswered_handled went.sound ?_ (went.role.trans server) ?_ _ _
        · rw [same]
          exact low
        · rw [needsTimer, same, went.role, went.method]
          exact idle

theorem onStateTrying_handled (ready : Ready tsx attempts event)
    (state : tsx.state = .trying) (server : tsx.role = .uas) :
    Handled (tsx.onStateTrying cfg attempts event).1 := by
  have idle : tsx.needsTimer = false := by rw [needsTimer, state, TsxState.needsTimer]
  cases event with
  | retransmitTimer => exact idle_handled ready.sound idle
  | timeoutTimer => exact idle_handled ready.sound idle
  | rxMsg msg ack => exact idle_handled ready.sound idle
  | txMsg tdata =>
    have handled := onStateProceedingUas_handled cfg ready (.inl state) server
    simp only [onStateTrying]
    split
    · next still =>
      have server : ¬_ = Role.uac := fun client => handled.sound.placed.2 client still.2
      refine setState_low_handled .proceeding (by decide) handled.sound ?_
        (fun later => absurd later (by decide))
        ⟨fun _ => TsxState.noConfusion, fun _ => TsxState.noConfusion⟩ fun needs => ?_
      · rw [still.2]
        decide
      · exact absurd (of_decide_eq_true needs).1 server
    · exact handled

theorem onStateCompletedUas_handled (ready : Ready tsx attempts event)
    (state : tsx.state = .completed) :
    Handled (tsx.onStateCompletedUas cfg attempts event).1 := by
  obtain ⟨sound, timed, valid, acked⟩ := ready
  have low : tsx.state.rank < 6 := by
    rw [state]
    decide
  cases event with
  | txMsg tdata => exact ⟨sound, timed rfl⟩
  | retransmitTimer =>
    exact (retransmit_went sound (Nat.le_of_lt low) (fun _ => low) true).handled (timed rfl)
  | timeoutTimer =>
    simp only [onStateCompletedUas]
    split
    · exact setStatus_terminated_handled sound low 408
    · exact setState_terminated_handled sound low
  | rxMsg msg ack =>
    cases msg with
    | response code cseqMethod => exact ⟨sound, timed rfl⟩
    | request method =>
      simp only [onStateCompletedUas]
      split
      · exact (retransmit_went sound (Nat.le_of_lt low) (fun _ => low) false).handled
          (timed rfl)
      split
      · exact ⟨sound, timed rfl⟩
      · simp only [restartTimeout_eq]
        refine setState_low_handled .confirmed (by decide)
          { sound with waking := fun _ _ => .inl rfl } ?_ (fun _ _ => rfl)
          ⟨fun _ => TsxState.noConfusion, fun _ => TsxState.noConfusion⟩ fun _ => rfl
        show tsx.state.rank ≤ 5
        rw [state]
        decide

theorem onStateCompletedUac_handled (ready : Ready tsx attempts event)
    (state : tsx.state = .completed) :
    Handled (tsx.onStateCompletedUac cfg attempts event).1 := by
  obtain ⟨sound, timed, valid, acked⟩ := ready
  have low : tsx.state.rank < 6 := by
    rw [state]
    decide
  cases event with
  | txMsg tdata => exact ⟨sound, timed rfl⟩
  | retransmitTimer => exact ⟨sound, timed rfl⟩
  | timeoutTimer => exact setState_terminated_handled sound low
  | rxMsg msg ack =>
    simp only [onStateCompletedUac]
    split
    · cases msg with
      | request method => exact ⟨sound, timed rfl⟩
      | response code cseqMethod =>
        dsimp only
        split
        · exact (retransmit_went sound (Nat.le_of_lt low) (fun _ => low) false).handled
            (timed rfl)
        · exact ⟨sound, timed rfl⟩
    · exact ⟨sound, timed rfl⟩

theorem onStateConfirmed_handled (ready : Ready tsx attempts event)
    (state : tsx.state = .confirmed) : Handled (tsx.onStateConfirmed event).1 := by
  obtain ⟨sound, timed, valid, acked⟩ := ready
  cases event with
  | txMsg tdata => exact ⟨sound, timed rfl⟩
  | retransmitTimer => exact ⟨sound, timed rfl⟩
  | timeoutTimer =>
    refine setState_terminated_handled sound ?_
    rw [state]
    decide
  | rxMsg msg ack =>
    cases msg with
    | request method => exact ⟨sound, timed rfl⟩
    | response code cseqMethod => exact ⟨sound, timed rfl⟩

theorem onStateTerminated_handled (ready : Ready tsx attempts event)
    (state : tsx.state = .terminated) : Handled (tsx.onStateTerminated event).1 := by
  obtain ⟨sound, timed, valid, acked⟩ := ready
  cases event with
  | txMsg tdata => exact ⟨sound, timed rfl⟩
  | rxMsg msg ack => exact ⟨sound, timed rfl⟩
  | retransmitTimer => exact setState_destroyed_handled sound state
  | timeoutTimer => exact setState_destroyed_handled sound state

theorem handle_handled (cfg : TsxCfg) (ready : Ready tsx attempts event) :
    ∃ answer, tsx.handle cfg attempts event = some answer ∧ Handled answer.1 := by
  rw [handle]
  split
  · next state => exact ⟨_, rfl, onStateNull_handled ready.sound state⟩
  · next state role => exact ⟨_, rfl, onStateCalling_handled ready state role⟩
  · next state role => exact absurd state (ready.sound.placed.1 role)
  · next state role => exact absurd state (ready.sound.placed.2 role)
  · next state role => exact ⟨_, rfl, onStateTrying_handled ready state role⟩
  · next state role => exact ⟨_, rfl, onStateProceedingUac_handled ready state role⟩
  · next state role => exact ⟨_, rfl, onStateProceedingUas_handled cfg ready (.inr state) role⟩
  · next state role => exact ⟨_, rfl, onStateCompletedUac_handled ready state⟩
  · next state role => exact ⟨_, rfl, onStateCompletedUas_handled ready state⟩
  · next state => exact ⟨_, rfl, onStateConfirmed_handled ready state⟩
  · next state => exact ⟨_, rfl, onStateTerminated_handled ready state⟩
  · next state =>
    refine ⟨_, rfl, idle_handled ready.sound ?_⟩
    rw [needsTimer, state, TsxState.needsTimer]

theorem notify_terminated (tsx : Tsx) :
    { (tsx.setState .terminated ⟨true, true⟩).notify .terminated with
      timeoutTimer := ((tsx.setState .terminated ⟨true, true⟩).notify
        .terminated).timeoutTimer.schedule 0 .timeout } = tsx.setState .terminated {} := by
  cases user : tsx.hasUser <;> cases pending : tsx.pendingTransport <;>
    simp [setState, notify, abandonSend, user, pending]

theorem failOnTransport_handled (sound : Sound tsx) (before : tsx.state.rank < 6) :
    Handled tsx.failOnTransport := by
  rw [failOnTransport]
  split
  · exact notify_terminated { tsx with statusCode := 503 } ▸
      setState_terminated_handled { sound with } before
  · exact notify_terminated tsx ▸ setState_terminated_handled sound before

theorem forgetTransport_sound (sound : Sound tsx) (server : tsx.role = .uas) :
    Sound tsx.forgetTransport where
  rising := sound.rising
  terminatedOnce := sound.terminatedOnce
  destroyedOnce := sound.destroyedOnce
  routed client := absurd (server.symm.trans client) (by decide)
  flown client := absurd (server.symm.trans client) (by decide)
  queued client := absurd (server.symm.trans client) (by decide)
  idle _ := rfl
  leaving leaves := Bool.noConfusion leaves
  waking := sound.waking
  placed := sound.placed

/-- An error of the transport ends the transaction, unless it waits for its user's answer. -/
theorem onTransportTimer_handled (sound : Sound tsx) (low : tsx.state.rank < 4) (id : TimerId) :
    Handled (tsx.onTransportTimer id) := by
  have early : tsx.state.rank < TsxState.terminated.rank := Nat.lt_trans low (by decide)
  have sound' : Sound { tsx with timeoutTimer := { tsx.timeoutTimer with id := .inactive } } :=
    { sound with waking := fun late _ => absurd late (Nat.not_le.2 low) }
  have released : Went False _ _ := updateTransport_none_went sound'
  unfold onTransportTimer
  rw [if_pos early]
  dsimp only
  split
  · next stays =>
    have server : tsx.role = .uas := (of_decide_eq_true stays.2).2.1
    refine idle_handled (forgetTransport_sound released.sound server) ?_
    have other := sound.placed.1 server
    show tsx.state.needsTimer tsx.role tsx.method = false
    rw [server]
    exact TsxState.needsTimer_server low other tsx.method
  · exact failOnTransport_handled released.sound early

/-- What the timeout timer does. A transaction that `pjsip_tsx_terminate_async` wakes up has to
have a final status. -/
theorem onTimeout_handled (cfg : TsxCfg) (attempts : List Attempt) (sound : Sound tsx)
    (running : tsx.timeoutTimer.running = true)
    (ended : tsx.timeoutTimer.id = .terminate → tsx.needsTimer = true →
      200 ≤ tsx.statusCode ∧ tsx.state ≠ .terminated) :
    ∃ answer, tsx.onTimeout cfg attempts = some answer ∧ Handled answer.1 := by
  have expired : ∀ id, Sound { tsx with timeoutTimer := ⟨id, none⟩ } := fun id =>
    { sound with waking := fun _ running => Bool.noConfusion running }
  rw [onTimeout]
  dsimp only
  split
  · next gone =>
    refine ⟨_, rfl, idle_handled (expired _) ?_⟩
    simp only [needsTimer, gone, TsxState.needsTimer]
  next live =>
  have early : ∀ id, tsx.timeoutTimer.id = id → id ≠ .timeout → id ≠ .terminate →
      tsx.state.rank < 4 := by
    intro id same other other'
    by_contra late
    rcases sound.waking (Nat.not_lt.1 late) running with timeout | terminate
    · exact other (same.symm.trans timeout)
    · exact other' (same.symm.trans terminate)
  split
  · next id =>
    refine ⟨_, rfl, ?_⟩
    split
    · next before =>
      rw [terminate]
      split
      · next provisional =>
        refine idle_handled (expired _) (Bool.not_eq_true _ ▸ fun needs => ?_)
        exact absurd provisional (Nat.not_lt.2 (ended id needs).1)
      · exact setStatus_terminated_handled (expired _) before _
    · next late =>
      refine idle_handled (expired _) (Bool.not_eq_true _ ▸ fun needs => ?_)
      exact late (rank_lt_six.2 ⟨(ended id needs).2, live⟩)
  · next id =>
    exact ⟨_, rfl, onTransportTimer_handled (expired _) (early _ id (by decide) (by decide)) _⟩
  · next id =>
    exact ⟨_, rfl, onTransportTimer_handled (expired _) (early _ id (by decide) (by decide)) _⟩
  · exact handle_handled cfg ⟨expired _, fun other => Bool.noConfusion other, rfl, trivial⟩

theorem onRetransmit_handled (cfg : TsxCfg) (attempts : List Attempt) (handled : Handled tsx) :
    ∃ answer, tsx.onRetransmit cfg attempts = some answer ∧ Handled answer.1 := by
  have fired : Handled { tsx with retransmitTimer := {} } := ⟨{ handled.sound with }, handled.timed⟩
  rw [onRetransmit]
  split
  · exact ⟨_, rfl, fired⟩
  · exact handle_handled cfg ⟨fired.sound, fun _ => fired.timed, rfl, trivial⟩

theorem terminate_handled (handled : Handled tsx) (code : Nat) :
    Handled (tsx.terminate code).1 := by
  rw [terminate]
  split
  · exact handled
  split
  · next before => exact setStatus_terminated_handled handled.sound before code
  · exact handled

theorem restart_handled (handled : Handled tsx) (delay : Nat) {id : TimerId}
    (wakes : 4 ≤ tsx.state.rank → id = .timeout ∨ id = .terminate) :
    Handled (tsx.restartTimeout delay id) := by
  have went : Went False _ _ := restartTimeout_went handled.sound delay wakes
  exact went.handled handled.timed

theorem setTimeout_handled (handled : Handled tsx) (millisec : Nat) :
    Handled (tsx.setTimeout millisec).1 := by
  rw [setTimeout]
  split
  · split
    · exact handled
    · exact restart_handled handled millisec fun _ => .inl rfl
  · exact handled

theorem stopRetransmit_handled (handled : Handled tsx) : Handled tsx.stopRetransmit.1 := by
  rw [stopRetransmit]
  split
  · exact (cancelRetransmit_calm tsx).handled handled
  · exact handled

theorem disconnected_handled (handled : Handled tsx) (status : SipStatus) :
    Handled (tsx.disconnected status) := by
  have erred : Handled { tsx with transportErr := status } :=
    ⟨{ handled.sound with }, handled.timed⟩
  rw [disconnected]
  split
  · next early => exact restart_handled erred 0 fun late => absurd late (Nat.not_le.2 early)
  · exact erred

theorem adoptTransport_spec (tsx : Tsx) (tp : Transport) :
    (tsx.adoptTransport tp).transport.isSome = true
      ∧ (tsx.adoptTransport tp).pendingTransport = false
      ∧ (tsx.adoptTransport tp).lastTx = tsx.lastTx := by
  rw [adoptTransport]
  split
  · simp only [updateTransport, disconnected, restartTimeout_eq]
    split
    · split <;> simp
    · simp
  · next same =>
    refine ⟨?_, rfl, rfl⟩
    have same := Decidable.not_not.1 same
    cases known : tsx.transport with
    | none =>
      rw [known] at same
      cases same
    | some tp' => rfl

theorem sendMsgCallback_handled (handled : Handled tsx) (tdata : TxData) (outcome : Outcome)
    (resends : ∀ tp, outcome = .sent tp → tdata.id ∈ tsx.attached →
      { tsx with transport := some tp }.Resends attempts) :
    Handled (Tsx.sendMsgCallback cfg (sendMsg cfg attempts) tdata tsx outcome) := by
  refine (sendMsgCallback_went cfg _ handled.sound tdata outcome fun tp sent known => ?_).handled
    handled.timed
  have settled := settle_calm tsx tdata.id
  refine (settled.went handled.sound).trans (onSent_went (settled.sound handled.sound) tp ?_)
  have adopted : Went False _ _ := adoptTransport_went (settled.sound handled.sound) tp
  have steady := adoptTransport_steady (tsx.settle tdata.id) tp
  obtain ⟨there, idle, last⟩ := adoptTransport_spec (tsx.settle tdata.id) tp
  refine sendMsg_resent adopted.sound idle ?_
  intro client ended waits routed
  rw [steady.role] at client
  rw [steady.state] at ended
  rw [steady.pendingSend] at waits
  rw [last] at routed
  have passes := resends tp sent known client ended waits routed
  rw [Tsx.passes] at passes ⊢
  rw [there]
  exact passes

theorem transportCallback_handled (handled : Handled tsx)
    (flying : tsx.role = .uac → tsx.resolvedServer = true) (error : Option Fault)
    (resends : error = none → tsx.Resends attempts) :
    Handled (tsx.transportCallback cfg (sendMsg cfg attempts) error) := by
  have sound : Sound { tsx with pendingTransport := false } :=
    { handled.sound with
      queued := fun client _ unresolved =>
        absurd (unresolved.symm.trans (flying client)) Bool.false_ne_true }
  have start : Handled { tsx with pendingTransport := false } := ⟨sound, handled.timed⟩
  have freed : { tsx with pendingTransport := false }.Resends attempts →
      Handled (if tsx.pendingDestroy then
        { tsx with pendingTransport := false }.setState .destroyed {}
      else { tsx with pendingTransport := false }.flush cfg (sendMsg cfg attempts)) := by
    intro resends
    split
    · next leaving =>
      have gone : Went False _ _ := setState_destroyed_went sound leaving
      exact gone.handled start.timed
    · exact (flush_went cfg sound (sendMsg_resent sound rfl resends)).handled start.timed
  cases error with
  | none => exact freed (resends rfl)
  | some error =>
    simp only [transportCallback]
    split
    · next server => exact freed fun client => absurd (server.symm.trans client) (by decide)
    · have erred : Handled { tsx with pendingTransport := false, transportErr := error.1 } :=
        ⟨{ sound with }, start.timed⟩
      split
      · next early => exact restart_handled erred 0 fun late => absurd late (Nat.not_le.2 early)
      · exact erred

end Handlers

end Tsx

/-- The steps after which every transaction still gets on. -/
def Careful (tsx : Tsx) : TsxAct → Prop
  | .recvMsg msg ack attempts => tsx.Acked attempts (.rxMsg msg ack)
  | .timeoutTimer _ => tsx.timeoutTimer.id = .terminate → tsx.needsTimer = true →
      200 ≤ tsx.statusCode ∧ tsx.state ≠ .terminated
  | .sendMsgCallback tdata (.sent tp) attempts => tdata.id ∈ tsx.attached →
      { tsx with transport := some tp }.Resends attempts
  | .transportCallback none attempts => tsx.Resends attempts
  | .retransmitNoState tdata attempts => tsx.state ≠ .destroyed ∧
      (tsx.role = .uac → tsx.state = .terminated → (tdata.or tsx.lastTx).isSome →
        tsx.passes attempts = true)
  | _ => True

instance (tsx : Tsx) (attempts : List Attempt) :
    (event : TsxEvent) → Decidable (tsx.Acked attempts event)
  | .rxMsg (.response _ _) _ => inferInstanceAs (Decidable (_ → _ → _ → _))
  | .rxMsg (.request _) _ | .retransmitTimer | .timeoutTimer | .txMsg _ => .isTrue trivial

instance (tsx : Tsx) (attempts : List Attempt) : Decidable (tsx.Resends attempts) :=
  inferInstanceAs (Decidable (_ → _ → _ → _ → _))

instance (tsx : Tsx) : (act : TsxAct) → Decidable (Careful tsx act)
  | .recvMsg msg ack attempts => inferInstanceAs (Decidable (tsx.Acked attempts (.rxMsg msg ack)))
  | .timeoutTimer _ => inferInstanceAs (Decidable (_ → _ → _))
  | .sendMsgCallback tdata (.sent tp) attempts =>
    inferInstanceAs (Decidable (tdata.id ∈ tsx.attached →
      { tsx with transport := some tp }.Resends attempts))
  | .transportCallback none attempts => inferInstanceAs (Decidable (tsx.Resends attempts))
  | .retransmitNoState .. => inferInstanceAs (Decidable (_ ∧ (_ → _ → _ → _)))
  | .sendMsg .. | .retransmitTimer _ | .sendMsgCallback _ (.failed ..) _
  | .transportCallback (some _) _ | .disconnected _ | .terminate _ | .terminateAsync _
  | .setTimeout _ | .stopRetransmit => .isTrue trivial

/-- A transaction as it has just been created. -/
inductive Created : Tsx → Prop
  | uac (method : MethodId) (isReliable : Bool) (id : Nat) : Created (.ofUac method isReliable id)
  | uas (method : MethodId) (isReliable handle200resp : Bool) (transport : Option Transport) :
      Created (.ofUas method isReliable handle200resp transport)

section Runs

variable {cfg : TsxCfg} {tsx tsx' : Tsx} {act : TsxAct} {status : SipStatus}

theorem answer_handled {answer : Tsx × SipStatus} (after : Tsx.Handled answer.1)
    (taken : some answer = some (tsx', status)) : Tsx.Handled tsx' := by
  obtain rfl := Option.some.inj taken
  exact after

theorem erase_handled (handled : Tsx.Handled tsx) (flight : Flight) :
    Tsx.Handled { tsx with inFlight := tsx.inFlight.erase flight } :=
  ⟨{ handled.sound with
      flown := fun client flying => handled.sound.flown client (List.mem_of_mem_erase flying) },
    handled.timed⟩

theorem retransmitNoState_handled (handled : Tsx.Handled tsx) {tdata : Option TxData}
    {attempts : List Attempt} (careful : Careful tsx (.retransmitNoState tdata attempts)) :
    Tsx.Handled (Tsx.sendMsg cfg attempts tsx (tdata.or tsx.lastTx)).1 := by
  obtain ⟨live, passes⟩ := careful
  have low := Tsx.rank_le_six.2 live
  by_cases ended : tsx.role = .uac ∧ tsx.state = .terminated
  · by_cases known : (tdata.or tsx.lastTx).isSome = true
    · exact (Tsx.sendMsg_passes handled.sound low (passes ended.1 ended.2 known) _).handled
        handled.timed
    · rw [Tsx.sendMsg_none tsx (Option.not_isSome_iff_eq_none.1 known)]
      exact handled
  · refine (Tsx.sendMsg_proper cfg attempts tsx _ handled.sound low fun client => ?_).1.handled
      handled.timed
    exact Tsx.rank_lt_six.2 ⟨fun state => ended ⟨client, state⟩, live⟩

theorem tsxStep_handled (handled : Tsx.Handled tsx) (careful : Careful tsx act)
    (taken : tsxStep cfg tsx act = some (tsx', status)) : Tsx.Handled tsx' := by
  cases act with
  | sendMsg tdata attempts =>
    simp only [tsxStep] at taken
    split at taken
    · exact answer_handled handled taken
    · next tdata _ =>
      have ready : Tsx.Ready tsx attempts (.txMsg tdata) :=
        ⟨handled.sound, fun _ => handled.timed, rfl, trivial⟩
      obtain ⟨answer, done, after⟩ := Tsx.handle_handled cfg ready
      exact answer_handled after (done.symm.trans taken)
  | recvMsg msg ack attempts =>
    simp only [tsxStep] at taken
    split at taken
    · next valid =>
      have ready : Tsx.Ready tsx attempts (.rxMsg msg ack) :=
        ⟨handled.sound, fun _ => handled.timed, valid, careful⟩
      obtain ⟨answer, done, after⟩ := Tsx.handle_handled cfg ready
      exact answer_handled after (done.symm.trans taken)
    · cases taken
  | retransmitTimer attempts =>
    simp only [tsxStep] at taken
    split at taken
    · obtain ⟨answer, done, after⟩ := Tsx.onRetransmit_handled cfg attempts handled
      exact answer_handled after (done.symm.trans taken)
    · cases taken
  | timeoutTimer attempts =>
    simp only [tsxStep] at taken
    split at taken
    · next running =>
      obtain ⟨answer, done, after⟩ := Tsx.onTimeout_handled cfg attempts handled.sound running careful
      exact answer_handled after (done.symm.trans taken)
    · cases taken
  | sendMsgCallback tdata outcome attempts =>
    simp only [tsxStep] at taken
    split at taken
    · refine answer_handled (Tsx.sendMsgCallback_handled ?_ tdata outcome ?_) taken
      · split
        · exact erase_handled handled _
        · exact handled
      · rintro tp rfl known
        split at known
        · next final => rw [if_pos final]; exact careful known
        · next open_ => rw [if_neg open_]; exact careful known
    · cases taken
  | transportCallback error attempts =>
    simp only [tsxStep] at taken
    split at taken
    · next flying =>
      refine answer_handled (Tsx.transportCallback_handled (erase_handled handled .direct)
        (fun client => handled.sound.flown client flying) error fun sent => ?_) taken
      rw [sent] at careful
      exact careful
    · cases taken
  | disconnected status =>
    simp only [tsxStep] at taken
    split at taken
    · exact answer_handled (Tsx.disconnected_handled handled status) taken
    · cases taken
  | terminate code => exact answer_handled (Tsx.terminate_handled handled code) taken
  | terminateAsync code =>
    refine answer_handled ?_ taken
    split
    · exact handled
    · exact Tsx.restart_handled handled 100 fun _ => .inr rfl
  | setTimeout millisec => exact answer_handled (Tsx.setTimeout_handled handled millisec) taken
  | stopRetransmit => exact answer_handled (Tsx.stopRetransmit_handled handled) taken
  | retransmitNoState tdata attempts =>
    exact answer_handled (retransmitNoState_handled handled careful) taken

theorem fresh_handled {role : Role} {method : MethodId} {isReliable handle200resp : Bool}
    {lastTx : Option TxData} {transport : Option Transport}
    (routed : role = .uac → transport = none) :
    Tsx.Handled { role, method, isReliable, handle200resp, lastTx, transport } where
  sound :=
    { rising := fun _ member => nomatch member
      terminatedOnce := Nat.le_refl 0
      destroyedOnce := Nat.le_refl 0
      routed := fun client sent => by
        rw [routed client] at sent
        cases sent
      flown := fun _ flying => nomatch flying
      queued := fun _ _ _ pending => nomatch pending
      idle := fun gone => nomatch gone
      leaving := fun pending => nomatch pending
      waking := fun (late : 4 ≤ 0) => absurd late (by decide)
      placed := ⟨fun _ => TsxState.noConfusion, fun _ => TsxState.noConfusion⟩ }
  timed none := nomatch none

theorem Created.handled (created : Created tsx) : Tsx.Handled tsx := by
  cases created with
  | uac method isReliable id => exact fresh_handled fun _ => rfl
  | uas method isReliable handle200resp transport =>
    cases transport with
    | none => exact fresh_handled fun _ => rfl
    | some tp =>
      have start : Tsx.Handled
          { role := .uas, method, isReliable, handle200resp, transport := some tp } :=
        fresh_handled fun client => nomatch client
      simp only [Tsx.ofUas, Tsx.updateTransport]
      split
      · have lost := Tsx.disconnected_handled start Tsx.tsxTransportError
        exact ⟨{ lost.sound with }, lost.timed⟩
      · exact ⟨{ start.sound with }, start.timed⟩

/-- However a transaction is created and whatever happens to it, step by careful step. -/
theorem tsx_progress (created : Created tsx) {tr : List (TsxAct × SipStatus)}
    (run : Run (tsxStep cfg) tsx tr tsx')
    (careful : Along (tsxStep cfg) Careful tsx (tr.map Prod.fst)) : Tsx.Progress tsx' := by
  have keeps : ∀ (s : Tsx) (act : TsxAct) (s' : Tsx) (status : SipStatus), Tsx.Handled s →
      Careful s act → tsxStep cfg s act = some (s', status) → Tsx.Handled s' :=
    fun _ _ _ _ handled careful taken => tsxStep_handled handled careful taken
  exact (run.invariant_along keeps careful created.handled).progress

end Runs

def udp : Transport := ⟨1, false, false⟩

/-- An INVITE that is answered by 180 and 486, and what the timers do then. -/
def refusedInvite : List TsxAct :=
  [.sendMsg none [⟨false, .pending, .begun [.sent udp]⟩], .retransmitTimer [⟨false, .sent, .begun []⟩],
    .recvMsg (.response 180 .invite) (.ok 7) [], .recvMsg (.response 486 .invite) (.ok 8)
      [⟨false, .sent, .begun []⟩],
    .timeoutTimer [], .timeoutTimer []]

def defaultCfg : TsxCfg := ⟨500, 4000, 5000, 32000, 32000, none⟩

theorem tsx_progress_refusedInvite :
    ∃ tr tsx, Run (tsxStep defaultCfg) (.ofUac .invite false 5) tr tsx
      ∧ tsx.state = .destroyed ∧ tsx.told = [.destroyed, .terminated, .completed, .proceeding, .calling]
      ∧ Tsx.Progress tsx := by
  have careful : Along (tsxStep defaultCfg) Careful (.ofUac .invite false 5) refusedInvite := by
    decide +kernel
  have runs : (exec (tsxStep defaultCfg) (.ofUac .invite false 5) refusedInvite).any (fun tsx =>
      tsx.state = .destroyed
        ∧ tsx.told = [.destroyed, .terminated, .completed, .proceeding, .calling]) = true := by
    decide +kernel
  obtain ⟨tsx, done, facts⟩ := (Option.any_eq_true _ _).1 runs
  obtain ⟨state, told⟩ := of_decide_eq_true facts
  obtain ⟨tr, acts, run⟩ := Run.of_exec done
  exact ⟨tr, tsx, run, state, told, tsx_progress (.uac .invite false 5) run (acts.symm ▸ careful)⟩

/-- A client that is to be terminated before it has a status stays in state Calling. -/
theorem terminateAsync_stuck :
    ¬∀ (cfg : TsxCfg) (start tsx : Tsx) (tr : List (TsxAct × SipStatus)), Created start →
      Run (tsxStep cfg) start tr tsx → Tsx.Progress tsx := by
  intro claim
  have runs : (exec (tsxStep defaultCfg) (.ofUac .options false 5)
      [.sendMsg none [⟨false, .pending, .begun [.sent udp]⟩], .terminateAsync 408,
        .timeoutTimer []]).any
      (fun tsx => tsx.state = .calling ∧ tsx.timeoutTimer.running = false) = true := by
    decide +kernel
  obtain ⟨tsx, done, facts⟩ := (Option.any_eq_true _ _).1 runs
  obtain ⟨calling, idle⟩ := of_decide_eq_true facts
  obtain ⟨tr, _, run⟩ := Run.of_exec done
  have needs : tsx.needsTimer = true := by
    rw [Tsx.needsTimer, calling]
    rfl
  have running := (claim _ _ tsx tr (.uac .options false 5) run).timed needs
  rw [idle] at running
  cases running

end Pjsip.Sip
