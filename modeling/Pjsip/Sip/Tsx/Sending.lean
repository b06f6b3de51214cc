import Pjsip.Sip.Tsx.Transaction

/-!
# What a send does to a transaction

A send, and the report of one, keeps the state or terminates the transaction with its timer
running, and says so in its status: the handlers and callbacks rely on nothing else. Reports
come in while a message is being sent, and send in turn.
-/

namespace Pjsip.Sip

namespace Tsx

/-- What holds of a transaction also while an event is being handled. -/
structure Sound (tsx : Tsx) : Prop where
  rising : ∀ move ∈ tsx.moves, move.1.rank ≤ move.2.rank
  terminatedOnce : tsx.told.count .terminated ≤ if 6 ≤ tsx.state.rank then 1 else 0
  destroyedOnce : tsx.told.count .destroyed ≤ if 7 ≤ tsx.state.rank then 1 else 0
  /-- A client has a transport only once its server is resolved. -/
  routed : tsx.role = .uac → tsx.transport.isSome → tsx.resolvedServer = true
  flown : tsx.role = .uac → .direct ∈ tsx.inFlight → tsx.resolvedServer = true
  /-- Until then a message waits only for the first one to be sent. -/
  queued : tsx.role = .uac → tsx.state.rank < 6 → tsx.resolvedServer = false →
    tsx.pendingSend = true → tsx.pendingTransport = true
  idle : tsx.state = .destroyed → tsx.pendingSend = false
  leaving : tsx.pendingDestroy = true → tsx.state = .destroyed ∧ tsx.hasUser = false
  /-- From Completed on the timer is not one that an error of the transport has posted. -/
  waking : 4 ≤ tsx.state.rank → tsx.timeoutTimer.running = true →
    tsx.timeoutTimer.id = .timeout ∨ tsx.timeoutTimer.id = .terminate
  /-- The states that the role has. -/
  placed : (tsx.role = .uas → tsx.state ≠ .calling) ∧ (tsx.role = .uac → tsx.state ≠ .trying)

/-- Nothing that these properties speak of has changed. -/
structure Calm (tsx tsx' : Tsx) : Prop where
  role : tsx'.role = tsx.role
  method : tsx'.method = tsx.method
  state : tsx'.state = tsx.state
  moves : tsx'.moves = tsx.moves
  told : tsx'.told = tsx.told
  hasUser : tsx'.hasUser = tsx.hasUser
  transport : tsx'.transport = tsx.transport
  resolved : tsx'.resolvedServer = tsx.resolvedServer
  inFlight : tsx'.inFlight = tsx.inFlight
  pendingSend : tsx'.pendingSend = tsx.pendingSend
  pendingTransport : tsx'.pendingTransport = tsx.pendingTransport
  pendingDestroy : tsx'.pendingDestroy = tsx.pendingDestroy
  timeoutTimer : tsx'.timeoutTimer = tsx.timeoutTimer
  transportErr : tsx'.transportErr = tsx.transportErr

/-- The state has not changed, nor what waits. -/
structure Steady (tsx tsx' : Tsx) : Prop where
  role : tsx'.role = tsx.role
  state : tsx'.state = tsx.state
  hasUser : tsx'.hasUser = tsx.hasUser
  pendingSend : tsx'.pendingSend = tsx.pendingSend
  pendingDestroy : tsx'.pendingDestroy = tsx.pendingDestroy

theorem Steady.trans {tsx tsx' tsx'' : Tsx} (first : Steady tsx tsx') (second : Steady tsx' tsx'') :
    Steady tsx tsx'' where
  role := second.role.trans first.role
  state := second.state.trans first.state
  hasUser := second.hasUser.trans first.hasUser
  pendingSend := second.pendingSend.trans first.pendingSend
  pendingDestroy := second.pendingDestroy.trans first.pendingDestroy

/-- What a send or the report of one comes to: the state stays and so does a running timer, or
the transaction is terminated with its timer running. In a server transaction, or if `told`, the
error of the transport tells so. -/
structure Went (told : Prop) (tsx tsx' : Tsx) : Prop where
  sound : Sound tsx'
  role : tsx'.role = tsx.role
  method : tsx'.method = tsx.method
  erred : tsx.transportErr ≠ .success → tsx'.transportErr ≠ .success
  outcome : tsx'.state = tsx.state
        ∧ (tsx.state.rank ≤ 6 → tsx.timeoutTimer.running = true → tsx'.timeoutTimer.running = true)
      ∨ tsx.state.rank < 6 ∧ tsx'.state = .terminated ∧ tsx'.timeoutTimer.running = true
        ∧ (told ∨ tsx.role = .uas → tsx'.transportErr ≠ .success)

variable {state : TsxState}

theorem rank_lt_six :
    state.rank < 6 ↔ state ≠ .terminated ∧ state ≠ .destroyed := by
  cases state <;> simp [TsxState.rank]

theorem rank_le_six : state.rank ≤ 6 ↔ state ≠ .destroyed := by
  cases state <;> simp [TsxState.rank]

section Timers

@[simp] theorem schedule_running (entry : TimerEntry) (delay : Nat) (id : TimerId) :
    (entry.schedule delay id).running = true := by
  rw [TimerEntry.schedule]
  split
  · assumption
  · rfl

@[simp] theorem cancel_running (entry : TimerEntry) : entry.cancel.running = false := by
  rw [TimerEntry.cancel]
  split
  · rfl
  · next idle => exact Bool.not_eq_true _ ▸ idle

@[simp] theorem cancel_schedule (entry : TimerEntry) (delay : Nat) (id : TimerId) :
    entry.cancel.schedule delay id = ⟨id, some delay⟩ := by
  rw [TimerEntry.schedule, cancel_running]
  rfl

@[simp] theorem restartTimeout_eq (tsx : Tsx) (delay : Nat) (id : TimerId) :
    tsx.restartTimeout delay id = { tsx with timeoutTimer := ⟨id, some delay⟩ } := by
  rw [restartTimeout, cancel_schedule]

end Timers

section Calms

variable {cfg : TsxCfg} {tsx tsx' tsx'' : Tsx} {told told' : Prop}

theorem Calm.refl (tsx : Tsx) : Calm tsx tsx := by constructor <;> rfl

theorem Calm.trans (first : Calm tsx tsx') (second : Calm tsx' tsx'') : Calm tsx tsx'' where
  role := second.role.trans first.role
  method := second.method.trans first.method
  state := second.state.trans first.state
  moves := second.moves.trans first.moves
  told := second.told.trans first.told
  hasUser := second.hasUser.trans first.hasUser
  transport := second.transport.trans first.transport
  resolved := second.resolved.trans first.resolved
  inFlight := second.inFlight.trans first.inFlight
  pendingSend := second.pendingSend.trans first.pendingSend
  pendingTransport := second.pendingTransport.trans first.pendingTransport
  pendingDestroy := second.pendingDestroy.trans first.pendingDestroy
  timeoutTimer := second.timeoutTimer.trans first.timeoutTimer
  transportErr := second.transportErr.trans first.transportErr

theorem Calm.sound (calm : Calm tsx tsx') (sound : Sound tsx) : Sound tsx' := by
  obtain ⟨role, _, state, moves, told, user, transport, resolved, flight, send, pending, destroy,
    timer, _⟩ := calm
  constructor
  · rw [moves]
    exact sound.rising
  · rw [told, state]
    exact sound.terminatedOnce
  · rw [told, state]
    exact sound.destroyedOnce
  · rw [role, transport, resolved]
    exact sound.routed
  · rw [role, flight, resolved]
    exact sound.flown
  · rw [role, state, resolved, send, pending]
    exact sound.queued
  · rw [state, send]
    exact sound.idle
  · rw [destroy, state, user]
    exact sound.leaving
  · rw [state, timer]
    exact sound.waking
  · rw [role, state]
    exact sound.placed

theorem Went.refl (sound : Sound tsx) : Went told tsx tsx :=
  ⟨sound, rfl, rfl, id, .inl ⟨rfl, fun _ running => running⟩⟩

theorem Calm.went (calm : Calm tsx tsx') (sound : Sound tsx) : Went told tsx tsx' := by
  refine ⟨calm.sound sound, calm.role, calm.method, ?_, .inl ⟨calm.state, ?_⟩⟩
  · rw [calm.transportErr]
    exact id
  · rw [calm.timeoutTimer]
    exact fun _ running => running

theorem Went.trans (first : Went told tsx tsx') (second : Went told tsx' tsx'') :
    Went told tsx tsx'' := by
  refine ⟨second.sound, second.role.trans first.role, second.method.trans first.method,
    fun erred => second.erred (first.erred erred), ?_⟩
  rcases first.outcome with ⟨state, timer⟩ | ⟨low, ended, running, err⟩
  · rcases second.outcome with ⟨state', timer'⟩ | ⟨low', ended', running', err'⟩
    · refine .inl ⟨state'.trans state, fun low running => timer' ?_ (timer low running)⟩
      rw [state]
      exact low
    · rw [state] at low'
      rw [first.role] at err'
      exact .inr ⟨low', ended', running', err'⟩
  · rcases second.outcome with ⟨state', timer'⟩ | ⟨low', _⟩
    · refine .inr ⟨low, state'.trans ended, timer' ?_ running,
        fun server => second.erred (err server)⟩
      rw [ended]
      exact Nat.le_refl 6
    · rw [ended] at low'
      exact absurd low' (Nat.lt_irrefl 6)

theorem Went.mono (weaken : told' → told) (went : Went told tsx tsx') : Went told' tsx tsx' := by
  refine ⟨went.sound, went.role, went.method, went.erred, went.outcome.imp_right ?_⟩
  rintro ⟨low, ended, running, err⟩
  exact ⟨low, ended, running, fun known => err (known.imp_left weaken)⟩

theorem reschedRetransmission_calm : Calm tsx (tsx.reschedRetransmission cfg) := by
  rw [reschedRetransmission]
  split
  · constructor <;> rfl
  · exact .refl tsx

theorem reschedIfPending_calm : Calm tsx (tsx.reschedIfPending cfg) := by
  rw [reschedIfPending]
  split
  · dsimp only
    split
    · constructor <;> rfl
    · refine .trans ?_ reschedRetransmission_calm
      constructor <;> rfl
  · exact .refl tsx

theorem startRetransmit_calm {delay : Nat} : Calm tsx (tsx.startRetransmit delay) := by
  rw [startRetransmit]
  split
  · constructor <;> rfl
  · constructor <;> rfl

end Calms

section States

variable {tsx : Tsx}

theorem notify_eq (tsx : Tsx) (state : TsxState) :
    tsx.notify state = { tsx with told := if tsx.hasUser then state :: tsx.told else tsx.told } := by
  rw [notify]
  split
  · rfl
  · rfl

theorem abandonSend_eq (tsx : Tsx) : ∃ attached pendingTx,
    tsx.abandonSend = { tsx with attached, pendingTx, pendingTransport := false } := by
  rw [abandonSend]
  split
  · exact ⟨_, _, rfl⟩
  · next idle =>
    have idle' : tsx.pendingTransport = false := Bool.not_eq_true _ ▸ idle
    refine ⟨tsx.attached, tsx.pendingTx, ?_⟩
    rw [← idle']

theorem setState_low (low : state.rank < 6) : tsx.setState state {} = { tsx with
        state, moves := (tsx.state, state) :: tsx.moves
        told := if tsx.hasUser then state :: tsx.told else tsx.told } := by
  have other : state ≠ .terminated ∧ state ≠ .destroyed := by
    constructor <;> rintro rfl <;> exact absurd low (by decide)
  rw [setState, if_neg other.1, if_neg other.2]
  exact notify_eq _ state

theorem setState_terminated (tsx : Tsx) (flags : SetFlags) : ∃ attached pendingTx,
    tsx.setState .terminated flags = { tsx with
        state := .terminated, moves := (tsx.state, .terminated) :: tsx.moves
        told := if tsx.hasUser ∧ !flags.noNotify then .terminated :: tsx.told else tsx.told
        attached, pendingTx, pendingTransport := false
        timeoutTimer := if flags.noScheduleHandler then tsx.timeoutTimer.cancel
          else ⟨.timeout, some 0⟩ } := by
  obtain ⟨noNotify, noSchedule⟩ := flags
  cases noNotify with
  | false =>
    simp only [setState, if_true, cancel_schedule, notify_eq, Bool.not_false, and_true,
      Bool.false_eq_true, if_false]
    generalize (if tsx.hasUser = true then TsxState.terminated :: tsx.told else tsx.told) = told
    obtain ⟨attached, pendingTx, eq⟩ := abandonSend_eq
      { tsx with state := .terminated, moves := (tsx.state, .terminated) :: tsx.moves, told }
    exact ⟨attached, pendingTx, by rw [eq]⟩
  | true =>
    simp only [setState, if_true, cancel_schedule, Bool.not_true, and_false, Bool.false_eq_true,
      if_false]
    obtain ⟨attached, pendingTx, eq⟩ := abandonSend_eq
      { tsx with state := .terminated, moves := (tsx.state, .terminated) :: tsx.moves }
    exact ⟨attached, pendingTx, by rw [eq]⟩

theorem setState_low_sound (low : state.rank < 6) (sound : Sound tsx)
    (up : tsx.state.rank ≤ state.rank)
    (waking : 4 ≤ state.rank → tsx.timeoutTimer.running = true → tsx.timeoutTimer.id = .timeout)
    (placed : (tsx.role = .uas → state ≠ .calling) ∧ (tsx.role = .uac → state ≠ .trying)) :
    Sound (tsx.setState state {}) := by
  rw [setState_low low]
  have before : tsx.state.rank < 6 := Nat.lt_of_le_of_lt up low
  have other : state ≠ .terminated ∧ state ≠ .destroyed := by
    constructor <;> rintro rfl <;> exact absurd low (by decide)
  have terminated := sound.terminatedOnce
  have destroyed := sound.destroyedOnce
  rw [if_neg (by omega)] at terminated destroyed
  refine ⟨?_, ?_, ?_, sound.routed, sound.flown, fun client _ => sound.queued client before,
    fun ended => absurd ended other.2, ?_, fun late running => .inl (waking late running), placed⟩
  · intro move mem
    cases mem with
    | head => exact up
    | tail _ mem => exact sound.rising move mem
  · refine Nat.le_trans ?_ (Nat.zero_le _)
    split
    · rw [List.count_cons_of_ne other.1]
      exact terminated
    · exact terminated
  · refine Nat.le_trans ?_ (Nat.zero_le _)
    split
    · rw [List.count_cons_of_ne other.2]
      exact destroyed
    · exact destroyed
  · intro leaving
    have gone := (sound.leaving leaving).1
    rw [gone] at before
    exact absurd before (by decide)

theorem setState_terminated_sound (sound : Sound tsx) (before : tsx.state.rank < 6)
    (flags : SetFlags) : Sound (tsx.setState .terminated flags) := by
  obtain ⟨attached, pendingTx, eq⟩ := setState_terminated tsx flags
  rw [eq]
  have terminated := sound.terminatedOnce
  have destroyed := sound.destroyedOnce
  rw [if_neg (by omega)] at terminated destroyed
  refine ⟨?_, ?_, ?_, sound.routed, sound.flown,
    fun _ low => absurd low (Nat.lt_irrefl 6), fun ended => TsxState.noConfusion ended, ?_, ?_,
    fun _ ended => TsxState.noConfusion ended, fun _ ended => TsxState.noConfusion ended⟩
  · intro move mem
    cases mem with
    | head => exact Nat.le_of_lt before
    | tail _ mem => exact sound.rising move mem
  · change _ ≤ 1
    dsimp only
    split
    · rw [List.count_cons_self]
      omega
    · omega
  · refine Nat.le_trans ?_ (Nat.zero_le _)
    dsimp only
    split
    · rw [List.count_cons_of_ne (by decide)]
      exact destroyed
    · exact destroyed
  · intro leaving
    have gone := (sound.leaving leaving).1
    rw [gone] at before
    exact absurd before (by decide)
  · intro _ running
    split at running
    · rw [cancel_running] at running
      cases running
    · next schedules =>
      rw [if_neg schedules]
      exact .inl rfl

theorem setState_terminated_went (sound : Sound tsx) (before : tsx.state.rank < 6)
    {told : Prop} (err : told ∨ tsx.role = .uas → tsx.transportErr ≠ .success) :
    Went told tsx (tsx.setState .terminated {}) := by
  have after := setState_terminated_sound sound before {}
  obtain ⟨attached, pendingTx, eq⟩ := setState_terminated tsx {}
  rw [eq] at after ⊢
  exact ⟨after, rfl, rfl, id, .inr ⟨before, rfl, rfl, err⟩⟩

theorem setState_destroyed (tsx : Tsx) : ∃ pendingDestroy hasUser,
    (pendingDestroy = true → tsx.pendingDestroy = true ∨ hasUser = false)
      ∧ (hasUser = true → tsx.hasUser = true) ∧
    tsx.setState .destroyed {} = { tsx with
        state := .destroyed, moves := (tsx.state, .destroyed) :: tsx.moves
        told := if tsx.hasUser then .destroyed :: tsx.told else tsx.told
        transport := none, lastTx := none
        timeoutTimer := tsx.timeoutTimer.cancel, retransmitTimer := tsx.retransmitTimer.cancel
        pendingResched := false, pendingSend := false, pendingDestroy, hasUser } := by
  simp only [setState, notify_eq, shutdown, updateTransport, Bool.false_eq_true, if_false, if_true,
    reduceCtorEq]
  generalize (if tsx.hasUser = true then TsxState.destroyed :: tsx.told else tsx.told) = told
  split
  · exact ⟨true, false, fun _ => .inr rfl, fun destroyed => (Bool.false_ne_true destroyed).elim, rfl⟩
  · exact ⟨tsx.pendingDestroy, tsx.hasUser, .inl, id, rfl⟩

/-- The user hears of it if the transaction was not destroyed before, and loses a transaction
with a send in progress. -/
theorem setState_destroyed_sound (sound : Sound tsx)
    (last : tsx.state = .terminated ∨ tsx.state = .destroyed ∧ tsx.hasUser = false) :
    Sound (tsx.setState .destroyed {}) := by
  obtain ⟨leaves, user, leaving, stays, eq⟩ := setState_destroyed tsx
  have terminated := sound.terminatedOnce
  have destroyed := sound.destroyedOnce
  have late : 6 ≤ tsx.state.rank := by
    rcases last with last | ⟨last, _⟩
    · rw [last]
      decide
    · rw [last]
      decide
  rw [if_pos late] at terminated
  rw [eq]
  refine ⟨?_, ?_, ?_, fun _ sent => Bool.noConfusion sent, sound.flown,
    fun _ (low : 7 < 6) => absurd low (by decide), fun _ => rfl, ?_, fun _ running => ?_,
    fun _ ended => TsxState.noConfusion ended, fun _ ended => TsxState.noConfusion ended⟩
  · intro move mem
    cases mem with
    | head =>
      rcases last with last | ⟨last, _⟩
      · rw [last]
        decide
      · rw [last]
    | tail _ mem => exact sound.rising move mem
  · change _ ≤ 1
    split
    · rw [List.count_cons_of_ne (by decide)]
      exact terminated
    · exact terminated
  · change _ ≤ 1
    split
    · next told =>
      rw [List.count_cons_self]
      rcases last with last | ⟨_, alone⟩
      · rw [last] at destroyed
        exact Nat.succ_le_succ destroyed
      · rw [alone] at told
        cases told
    · refine Nat.le_trans destroyed ?_
      split <;> omega
  · intro leaves
    refine ⟨rfl, ?_⟩
    rcases leaving leaves with before | gone
    · exact Bool.not_eq_true _ ▸ fun there => Bool.false_ne_true
        ((sound.leaving before).2.symm.trans (stays there))
    · exact gone
  · rw [cancel_running] at running
    cases running

theorem setState_destroyed_went (sound : Sound tsx) (leaving : tsx.pendingDestroy = true)
    {told : Prop} : Went told tsx (tsx.setState .destroyed {}) := by
  have before := sound.leaving leaving
  have after := setState_destroyed_sound sound (.inr before)
  obtain ⟨leaves, user, _, _, eq⟩ := setState_destroyed tsx
  rw [eq] at after ⊢
  refine ⟨after, rfl, rfl, id, .inl ⟨before.1.symm, fun low => ?_⟩⟩
  rw [before.1] at low
  exact absurd low (by decide)

end States

section Sends

variable {cfg : TsxCfg} {again : Sender} {tsx : Tsx} {told : Prop}

/-- What the callbacks may rely on when they send: the sender keeps the rules. -/
def Proper (again : Sender) : Prop :=
  ∀ (tsx : Tsx) (tdata : Option TxData), Sound tsx → tsx.state.rank ≤ 6 →
    (tsx.role = .uac → tsx.state.rank < 6) → Went False tsx (again tsx tdata).1
        ∧ ((again tsx tdata).2 = .success → (again tsx tdata).1.state = tsx.state)

theorem restartTimeout_went (sound : Sound tsx) (delay : Nat) {id : TimerId}
    (wakes : 4 ≤ tsx.state.rank → id = .timeout ∨ id = .terminate) :
    Went told tsx (tsx.restartTimeout delay id) := by
  rw [restartTimeout_eq]
  exact ⟨{ sound with waking := fun late _ => wakes late }, rfl, rfl, fun err => err,
    .inl ⟨rfl, fun _ _ => rfl⟩⟩

theorem disconnected_went (sound : Sound tsx) {status : SipStatus} (fault : status ≠ .success) :
    Went told tsx (tsx.disconnected status) := by
  have sound' : Sound { tsx with transportErr := status } := { sound with }
  have start : Went told tsx { tsx with transportErr := status } :=
    ⟨sound', rfl, rfl, fun _ => fault, .inl ⟨rfl, fun _ running => running⟩⟩
  rw [disconnected]
  split
  · next early =>
    exact start.trans (restartTimeout_went sound' 0 fun late => absurd late (Nat.not_le.2 early))
  · exact start

theorem updateTransport_none_went (sound : Sound tsx) : Went told tsx (tsx.updateTransport none) :=
  ⟨{ sound with routed := fun _ sent => Bool.noConfusion sent }, rfl, rfl, id,
    .inl ⟨rfl, fun _ running => running⟩⟩

theorem updateTransport_some_went (sound : Sound tsx) (resolved : tsx.resolvedServer = true)
    (tp : Transport) : Went told tsx (tsx.updateTransport (some tp)) := by
  have sound' : Sound { tsx with transport := some tp } := { sound with routed := fun _ _ => resolved }
  have start : Went told tsx { tsx with transport := some tp } :=
    ⟨sound', rfl, rfl, id, .inl ⟨rfl, fun _ running => running⟩⟩
  simp only [updateTransport]
  split
  · exact start.trans (disconnected_went sound' (by decide))
  · exact start

theorem Sound.flushed (sound : Sound tsx) : Sound { tsx with pendingSend := false } :=
  { sound with queued := fun _ _ _ pending => (Bool.false_ne_true pending).elim, idle := fun _ => rfl }

/-- How the message that waits for the transport is sent. -/
abbrev Resent (again : Sender) (tsx : Tsx) : Prop :=
  tsx.pendingSend = true →
    Went False { tsx with pendingSend := false } (again { tsx with pendingSend := false } tsx.lastTx).1

theorem Proper.resent (proper : Proper again) (sound : Sound tsx)
    (queue : tsx.role = .uac → tsx.state = .terminated → tsx.pendingSend = false) :
    Resent again tsx := by
  intro waits
  have live : tsx.state ≠ .destroyed := fun gone => by simp [sound.idle gone] at waits
  refine (proper _ tsx.lastTx sound.flushed (rank_le_six.2 live) fun client => ?_).1
  refine rank_lt_six.2 ⟨fun ended => ?_, live⟩
  simp [queue client ended] at waits

theorem flush_went (cfg : TsxCfg) (sound : Sound tsx) (resent : Resent again tsx) :
    Went (tsx.pendingSend = false) tsx (tsx.flush cfg again) := by
  rw [flush]
  split
  · next waits =>
    have start : Went False tsx { tsx with pendingSend := false } :=
      ⟨sound.flushed, rfl, rfl, id, .inl ⟨rfl, fun _ running => running⟩⟩
    have sent := resent waits
    refine ((start.trans sent).trans (reschedIfPending_calm.went sent.sound)).mono fun idle => ?_
    rw [waits] at idle
    cases idle
  · exact reschedIfPending_calm.went sound

theorem disconnected_steady (status : SipStatus) : Steady tsx (tsx.disconnected status) := by
  rw [disconnected]
  split
  · rw [restartTimeout_eq]
    constructor <;> rfl
  · constructor <;> rfl

theorem updateTransport_steady (tsx : Tsx) (tp : Option Transport) : Steady tsx (tsx.updateTransport tp) := by
  cases tp with
  | none => constructor <;> rfl
  | some tp =>
    have start : Steady tsx { tsx with transport := some tp } := by constructor <;> rfl
    simp only [updateTransport]
    split
    · exact start.trans (disconnected_steady _)
    · exact start

theorem setState_pendingSend (ends : state = .terminated ∨ state = .destroyed)
    (quiet : tsx.pendingSend = false) : (tsx.setState state {}).pendingSend = false := by
  rcases ends with rfl | rfl
  · obtain ⟨_, _, eq⟩ := setState_terminated tsx {}
    rw [eq]
    exact quiet
  · obtain ⟨_, _, _, _, eq⟩ := setState_destroyed tsx
    rw [eq]

theorem flush_quiet (quiet : tsx.pendingSend = false) :
    (tsx.flush cfg again).pendingSend = false := by
  rw [flush, quiet]
  exact reschedIfPending_calm.pendingSend.trans quiet

theorem settle_calm (tsx : Tsx) (id : Nat) : Calm tsx (tsx.settle id) := by constructor <;> rfl

theorem adoptTransport_went (sound : Sound tsx) (tp : Transport) :
    Went told tsx (tsx.adoptTransport tp) := by
  have sound' : Sound { tsx with pendingTransport := false, resolvedServer := true } :=
    { sound with
      routed := fun _ _ => rfl
      flown := fun _ _ => rfl
      queued := fun _ _ unresolved => Bool.noConfusion unresolved }
  have start : Went told tsx { tsx with pendingTransport := false, resolvedServer := true } :=
    ⟨sound', rfl, rfl, id, .inl ⟨rfl, fun _ running => running⟩⟩
  have calm : Calm ({ tsx with pendingTransport := false, resolvedServer := true }.updateTransport
      (some tp)) { tsx.updateTransport (some tp) with
        isReliable := tp.reliable, pendingTransport := false, resolvedServer := true } := by
    simp only [updateTransport, disconnected, restartTimeout_eq]
    split
    · split
      · constructor <;> rfl
      · constructor <;> rfl
    · constructor <;> rfl
  have moved : Went told _ _ := updateTransport_some_went sound' rfl tp
  rw [adoptTransport]
  split
  · exact (start.trans moved).trans (calm.went moved.sound)
  · exact start

theorem adoptTransport_steady (tsx : Tsx) (tp : Transport) : Steady tsx (tsx.adoptTransport tp) := by
  have flags : ∀ tsx : Tsx, Steady tsx { tsx with pendingTransport := false, resolvedServer := true } := by
    intro tsx
    constructor <;> rfl
  rw [adoptTransport]
  split
  · have moved := updateTransport_steady tsx (some tp)
    exact { moved with }
  · exact flags tsx

theorem onSent_went (sound : Sound tsx) (tp : Transport)
    (resent : Resent again (tsx.adoptTransport tp)) :
    Went (tsx.pendingSend = false) tsx (tsx.onSent cfg again tp) := by
  have adopted : Went (tsx.pendingSend = false) _ _ := adoptTransport_went sound tp
  rw [onSent]
  split
  · next leaving => exact adopted.trans (setState_destroyed_went adopted.sound leaving)
  · have flushed := flush_went cfg adopted.sound resent
    rw [(adoptTransport_steady tsx tp).pendingSend] at flushed
    exact adopted.trans flushed

theorem onSent_proper (proper : Proper again) (sound : Sound tsx) (tp : Transport)
    (queue : tsx.role = .uac → tsx.state = .terminated → tsx.pendingSend = false) :
    Went (tsx.pendingSend = false) tsx (tsx.onSent cfg again tp) := by
  have adopted : Went False _ _ := adoptTransport_went sound tp
  have steady := adoptTransport_steady tsx tp
  refine onSent_went sound tp (proper.resent adopted.sound ?_)
  rw [steady.role, steady.state, steady.pendingSend]
  exact queue

theorem releaseTransport_went (sound : Sound tsx) (tp : Option Nat) :
    Went told tsx (tsx.releaseTransport tp) := by
  rw [releaseTransport]
  split
  · exact updateTransport_none_went sound
  · exact .refl sound

theorem releaseTransport_steady (tp : Option Nat) : Steady tsx (tsx.releaseTransport tp) := by
  rw [releaseTransport]
  split
  · exact updateTransport_steady _ none
  · constructor <;> rfl

theorem setStatus_terminated_went (sound : Sound tsx) (before : tsx.state.rank < 6) (code : Nat)
    (err : told ∨ tsx.role = .uas → tsx.transportErr ≠ .success) :
    Went told tsx (tsx.setStatus code .terminated {}) := by
  have calm : Calm tsx { tsx with statusCode := code } := by constructor <;> rfl
  exact (calm.went sound).trans (setState_terminated_went (calm.sound sound) before err)

theorem markFailed_went (sound : Sound tsx) (error : Fault) :
    Went told tsx (tsx.markFailed error) :=
  ⟨{ sound with
      routed := fun _ _ => rfl
      flown := fun _ _ => rfl
      queued := fun _ _ unresolved => Bool.noConfusion unresolved },
    rfl, rfl, fun _ => error.2, .inl ⟨rfl, fun _ running => running⟩⟩

theorem onSendFailed_went (sound : Sound tsx) (error : Fault) :
    Went told tsx (tsx.onSendFailed cfg error) := by
  have marked : Went told _ _ := markFailed_went sound error
  have failed : (tsx.markFailed error).transportErr ≠ .success := error.2
  rw [onSendFailed]
  generalize tsx.markFailed error = tsx' at marked failed ⊢
  refine marked.trans ?_
  split
  · next live =>
    exact setStatus_terminated_went marked.sound (rank_lt_six.2 live.2) _ fun _ => failed
  split
  · next leaving =>
    have calm : Calm tsx' { tsx' with statusCode := failureCode error } := by constructor <;> rfl
    exact (calm.went marked.sound).trans (setState_destroyed_went (calm.sound marked.sound) leaving)
  split
  · have calm : Calm tsx' { tsx' with pendingResched := false } := by constructor <;> rfl
    exact (calm.trans reschedRetransmission_calm).went marked.sound
  · exact .refl marked.sound

theorem attach_calm (tsx : Tsx) (id : Nat) : Calm tsx (tsx.attach id) := by constructor <;> rfl

theorem onNextServer_went (sound : Sound tsx) (id : Nat) :
    Went told tsx (tsx.onNextServer cfg id) := by
  have reset : Calm tsx { tsx with retransmitCount := 0 } := by constructor <;> rfl
  have sound' := reset.sound sound
  refine (reset.went sound).trans ?_
  rw [onNextServer]
  split
  · have restarted : Went told { tsx with retransmitCount := 0 }
        ({ tsx with retransmitCount := 0 }.restartTimeout cfg.timeout .timeout) :=
      restartTimeout_went sound' cfg.timeout fun _ => .inl rfl
    exact restarted.trans ((attach_calm _ id).went restarted.sound)
  · exact (attach_calm _ id).went sound'

theorem sendMsgCallback_went (cfg : TsxCfg) (again : Sender) (sound : Sound tsx) (tdata : TxData) (outcome : Outcome)
    (sent : ∀ tp, outcome = .sent tp → tdata.id ∈ tsx.attached →
      Went (tsx.pendingSend = false) tsx ((tsx.settle tdata.id).onSent cfg again tp)) :
    Went (tsx.pendingSend = false) tsx (sendMsgCallback cfg again tdata tsx outcome) := by
  rw [sendMsgCallback]
  split
  · exact .refl sound
  next known =>
  cases outcome with
  | sent tp => exact sent tp rfl (Decidable.not_not.1 known)
  | failed error tp cont =>
    have settled := settle_calm tsx tdata.id
    have released : Went (tsx.pendingSend = false) _ _ :=
      releaseTransport_went (settled.sound sound) tp
    have start := (settled.went sound).trans released
    dsimp only
    split
    · exact start.trans (onSendFailed_went released.sound error)
    · exact start.trans (onNextServer_went released.sound tdata.id)

theorem onSendFailed_quiet (error : Fault) (quiet : tsx.pendingSend = false) :
    (tsx.onSendFailed cfg error).pendingSend = false := by
  have marked : (tsx.markFailed error).pendingSend = false := quiet
  rw [onSendFailed]
  split
  · exact setState_pendingSend (.inl rfl) marked
  split
  · exact setState_pendingSend (.inr rfl) marked
  split
  · exact reschedRetransmission_calm.pendingSend.trans marked
  · exact marked

theorem onNextServer_quiet (id : Nat) (quiet : tsx.pendingSend = false) :
    (tsx.onNextServer cfg id).pendingSend = false := by
  rw [onNextServer]
  split
  · rw [restartTimeout_eq]
    exact quiet
  · exact quiet

theorem sendMsgCallback_quiet (cfg : TsxCfg) (again : Sender) (tdata : TxData) (outcome : Outcome)
    (quiet : tsx.pendingSend = false) :
    (sendMsgCallback cfg again tdata tsx outcome).pendingSend = false := by
  rw [sendMsgCallback]
  split
  · exact quiet
  cases outcome with
  | sent tp =>
    have adopted : ((tsx.settle tdata.id).adoptTransport tp).pendingSend = false :=
      (adoptTransport_steady _ tp).pendingSend.trans quiet
    simp only [onSent]
    split
    · exact setState_pendingSend (.inr rfl) adopted
    · exact flush_quiet adopted
  | failed error tp cont =>
    have released : ((tsx.settle tdata.id).releaseTransport tp).pendingSend = false :=
      (releaseTransport_steady tp).pendingSend.trans quiet
    dsimp only
    split
    · exact onSendFailed_quiet error released
    · exact onNextServer_quiet tdata.id released

theorem reports_went (cfg : TsxCfg) (proper : Proper again) (tdata : TxData) (reports : List Outcome)
    (sound : Sound tsx) (quiet : tsx.role = .uac → tsx.pendingSend = false) :
    Went (tsx.pendingSend = false) tsx (reports.foldl (sendMsgCallback cfg again tdata) tsx) := by
  induction reports generalizing tsx with
  | nil => exact .refl sound
  | cons outcome reports ih =>
    have settled := settle_calm tsx tdata.id
    have first := sendMsgCallback_went cfg again sound tdata outcome
      fun tp _ _ => (settled.went sound).trans
        (onSent_proper proper (settled.sound sound) tp fun client _ => quiet client)
    have still : tsx.pendingSend = false → _ := sendMsgCallback_quiet cfg again tdata outcome
    have rest := ih first.sound fun client => still (quiet (first.role ▸ client))
    exact first.trans (rest.mono still)

theorem resolveAndSend_went (cfg : TsxCfg) (proper : Proper again) (attempt : Attempt) (sound : Sound tsx)
    (client : tsx.role = .uac → tsx.state.rank < 6)
    (idle : tsx.pendingTransport = false) (tdata : TxData) (status : SipStatus) :
    Went False tsx (resolveAndSend cfg again attempt tsx tdata status).1
      ∧ ((resolveAndSend cfg again attempt tsx tdata status).2 = .success →
          (resolveAndSend cfg again attempt tsx tdata status).1.state = tsx.state) := by
  rw [resolveAndSend]
  split
  · next resolved =>
    refine ⟨setStatus_terminated_went sound (client resolved.1) 503 fun server => ?_,
      fun done => ?_⟩
    · rcases server with never | server
      · exact never.elim
      · rw [resolved.1] at server
        cases server
    · dsimp only at done
      split at done
      · cases done
      · next fault => exact absurd done fault
  · next unresolved =>
    have resolved : tsx.role = .uac → tsx.resolvedServer = false := fun client =>
      Bool.not_eq_true _ ▸ fun resolved => unresolved ⟨client, resolved⟩
    -- Nothing waits for the server of a client that is not being resolved yet.
    have quiet : tsx.role = .uac → tsx.pendingSend = false := fun here =>
      Bool.not_eq_true _ ▸ fun waits => by
        simpa [idle] using sound.queued here (client here) (resolved here) waits
    have attached := attach_calm tsx tdata.id
    cases tsx.sendStateless tdata attempt with
    | refused error =>
      refine ⟨⟨{ sound with queued := fun here low unres waits => ?_ }, rfl, rfl, id,
        .inl ⟨rfl, fun _ running => running⟩⟩, fun _ => rfl⟩
      simpa [idle] using sound.queued here low unres waits
    | begun reports =>
      have sound' : Sound { tsx.attach tdata.id with pendingTransport := true } :=
        { attached.sound sound with queued := fun _ _ _ _ => rfl }
      have start : Went (tsx.pendingSend = false) tsx
          { tsx.attach tdata.id with pendingTransport := true } :=
        ⟨sound', rfl, rfl, id, .inl ⟨rfl, fun _ running => running⟩⟩
      have reported := start.trans (reports_went cfg proper tdata reports sound' quiet)
      dsimp only
      generalize reports.foldl (sendMsgCallback cfg again tdata)
        { tsx.attach tdata.id with pendingTransport := true } = tsx' at reported ⊢
      have flying : Went (tsx.pendingSend = false) tsx (if reports.any Outcome.final then tsx'
          else { tsx' with inFlight := .stateless tdata :: tsx'.inFlight }) := by
        split
        · exact reported
        · refine ⟨{ reported.sound with flown := fun here there => ?_ }, reported.role,
            reported.method, reported.erred, reported.outcome⟩
          cases there with
          | tail _ there => exact reported.sound.flown here there
      refine ⟨flying.mono False.elim, fun done => ?_⟩
      rcases flying.outcome with ⟨same, _⟩ | ⟨_, ended, _, err⟩
      · exact same
      · rw [if_pos ended] at done
        refine absurd done (err ?_)
        cases role : tsx.role with
        | uac => exact .inl (quiet role)
        | uas => exact .inr rfl

theorem sendWith_proper (proper : Proper again) (attempt : Attempt) :
    Proper (sendWith cfg again attempt) := by
  intro tsx tdata sound low client
  cases tdata with
  | none => exact ⟨.refl sound, fun _ => rfl⟩
  | some tdata =>
    rw [sendWith]
    split
    · next pending =>
      refine ⟨⟨{ sound with queued := fun _ _ _ _ => pending, idle := fun gone => ?_ }, rfl, rfl,
        id, .inl ⟨rfl, fun _ running => running⟩⟩, fun _ => rfl⟩
      exact absurd gone (rank_le_six.1 low)
    next idle =>
    have idle := Bool.not_eq_true _ ▸ idle
    split
    · exact ⟨.refl sound, fun _ => rfl⟩
    split
    · next known =>
      cases attempt.direct with
      | sent => exact ⟨.refl sound, fun _ => rfl⟩
      | pending =>
        refine ⟨⟨{ sound with
          flown := fun here _ => sound.routed here known
          queued := fun _ _ _ _ => rfl }, rfl, rfl, id,
          .inl ⟨rfl, fun _ running => running⟩⟩, fun _ => rfl⟩
      | error error =>
        have released : Went False _ _ := updateTransport_none_went sound
        have sent := resolveAndSend_went cfg proper attempt released.sound client
          idle tdata error.1
        exact ⟨released.trans sent.1, sent.2⟩
    · exact resolveAndSend_went cfg proper attempt sound client idle tdata .success

/-- `tsx_send_msg` keeps the rules, however its callbacks are nested. -/
theorem sendMsg_proper (cfg : TsxCfg) (attempts : List Attempt) : Proper (sendMsg cfg attempts) := by
  induction attempts with
  | nil => exact sendWith_proper (fun _ _ sound _ _ => ⟨.refl sound, fun _ => rfl⟩) .waiting
  | cons attempt attempts ih => exact sendWith_proper ih attempt

end Sends

end Tsx

end Pjsip.Sip
