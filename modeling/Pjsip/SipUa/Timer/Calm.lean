import Pjsip.SipUa.Timer.Keeps

/-!
# Calm runs

An entry that fires, and the final response to a request of this side. With the requests of the
other side they make up every run of a session.
-/

namespace Pjsip.SipUa.Timer

open Pjsip.Base Pjsip.Pjlib Pjsip.Sip

variable {s : Session}

/-! ## Entries that fire -/

theorem expires_keeps (inv : Inv s) {entry : Entry} {env : CbEnv} {due : Nat}
    (scheduled : (s.timer.entry entry).due = some due) (passed : due ≤ s.now)
    (alone : s.pending ≠ none → env.result ≠ .sent)
    (calm : ∀ before req, s.pending = some (.incoming before req) → before.asRefresher = true →
      s.timer.asRefresher = true) :
    ∃ s' outcome, expires s entry env = (s', outcome) ∧ Holds s' ∧ IdsTell s'.timer
      ∧ (outcome = .notRefreshed → Overdue s.accepted s.now) := by
  have running (before : PjsipTimer) (req : Request)
      (same : s.pending = some (.incoming before req)) : s.timer.active = true := by
    obtain ⟨-, -, -, idle⟩ := inv.taken before req same
    by_contra off
    obtain ⟨refresh, expire⟩ := idle (Bool.not_eq_true _ ▸ off)
    cases entry with
    | timer =>
      change s.timer.timer.due = some due at scheduled
      rw [refresh] at scheduled
      cases scheduled
    | expireTimer =>
      change s.timer.expireTimer.due = some due at scheduled
      rw [expire] at scheduled
      cases scheduled
  have inForce (role : roleInForce s = true) : s.timer.asRefresher = true := by
    unfold roleInForce at role
    split at role
    · rename_i before req pending
      exact calm before req pending role
    · exact role
  cases entry with
  | timer =>
    change s.timer.timer.due = some due at scheduled
    cases refreshes : s.timer.asRefresher with
    | true =>
      have fired : Fired
          { s with timer := { s.timer with timer := { s.timer.timer with due := none } } } := by
        refine ⟨inv.enabled, rfl, inv.tells.expire, inv.ids.2, inv.scheduled.expire,
          fun role => ?_, fun before req same => ?_, running⟩
        · obtain ⟨last, accepted, waits, before⟩ := inv.scheduled.refresh due scheduled role
          exact ⟨last, accepted, waits, before.trans passed⟩
        · obtain ⟨method, tells, taken, idle⟩ := inv.taken before req same
          exact ⟨method, tells, taken, fun off => ⟨rfl, (idle off).2⟩⟩
      obtain ⟨s', called, inv', -⟩ := timerCb_refreshes fired refreshes inv.ids.1 alone
      exact ⟨s', .quiet, called, .inr inv', inv'.tells, (by simp)⟩
    | false =>
      -- no refresh has come in
      have waits : ¬ s.timer.asRefresher = true := by simp [refreshes]
      have role : roleInForce s = false := by
        by_contra other
        exact waits (inForce (Bool.not_eq_false _ ▸ other))
      have called := timerCb_refreshee
        { s with timer := { s.timer with timer := { s.timer.timer with due := none } } }
        refreshes (s.timer.entry .timer).id env
      refine ⟨_, _, called, .inl rfl,
        endSession_tells ⟨TimerEntry.tells_stopped, inv.tells.expire⟩, fun _ => ?_⟩
      · obtain ⟨last, accepted, other, before⟩ := inv.scheduled.refresh due scheduled role
        refine ⟨last, accepted, ?_⟩
        rw [other, if_neg (by simp)]
        exact before.trans passed
  | expireTimer =>
    change s.timer.expireTimer.due = some due at scheduled
    obtain ⟨role, last, accepted, other, before⟩ := inv.scheduled.expire due scheduled
    have refreshes := inForce role
    have id : s.timer.expireTimer.id = refresherExpireTimerId := by
      refine inv.ids.2.resolve_left (inv.tells.expire.2 ?_)
      rw [scheduled]
      rfl
    have called := timerCb_refresher { s with timer := { s.timer with
        expireTimer := { s.timer.expireTimer with due := none } } } refreshes id env
    refine ⟨_, _, called, .inl rfl, endSession_tells ⟨inv.tells.refresh, TimerEntry.tells_stopped⟩,
      fun _ => ⟨last, accepted, ?_⟩⟩
    rw [other, if_pos rfl]
    exact before.trans passed

/-! ## Responses -/

theorem roleInForce_own (other : ∀ before req, s.pending ≠ some (.incoming before req)) :
    roleInForce s = s.timer.asRefresher := by
  unfold roleInForce
  split
  · rename_i before req pending
    exact absurd pending (other before req)
  · rfl

variable {timer : PjsipTimer}

theorem Inv.kept (inv : Inv s) (own : ∀ before req, s.pending ≠ some (.incoming before req))
    (refreshes : timer.asRefresher = s.timer.asRefresher)
    (refresh : timer.timer = s.timer.timer) (expire : timer.expireTimer = s.timer.expireTimer)
    {pending : Option Pending} (other : ∀ before req, pending ≠ some (.incoming before req)) :
    Inv { s with timer, pending } := by
  have scheduled := inv.scheduled
  rw [roleInForce_own own] at scheduled
  refine ⟨inv.enabled, ⟨refresh ▸ inv.tells.refresh, expire ▸ inv.tells.expire⟩, ?_, ?_,
    taken_of_not_incoming other⟩
  · show timer.timer.id ≠ _ ∧ (timer.expireTimer.id = 0 ∨ timer.expireTimer.id = _)
    rw [refresh, expire]
    exact inv.ids
  · have role : roleInForce { s with timer, pending } = s.timer.asRefresher :=
      (roleInForce_own other).trans refreshes
    rw [role]
    exact ⟨fun due waits => scheduled.expire due (expire ▸ waits),
      fun due waits => scheduled.refresh due (refresh ▸ waits)⟩

theorem handleRefreshError_keeps (inv : Inv s)
    (own : ∀ before req, s.pending ≠ some (.incoming before req)) (tdata stCode : Nat) :
    Holds (pjsipTimerHandleRefreshError s tdata stCode)
      ∧ IdsTell (pjsipTimerHandleRefreshError s tdata stCode).timer := by
  unfold pjsipTimerHandleRefreshError
  rw [if_neg (by rw [inv.enabled]; nofun)]
  split
  · rename_i ours
    obtain ⟨active, refreshes, -⟩ := ours
    split
    · have role : roleInForce s = true := (roleInForce_own own).trans refreshes
      have kept := inv.schedule role active (s.now + 10)
      exact ⟨.inr kept, kept.tells⟩
    · exact ⟨.inl rfl, endSession_tells inv.tells⟩
  · exact ⟨.inr inv, inv.tells⟩

variable {res : Response}

theorem processResp_accepted (inv : Inv s)
    (method : otherMethod res.method = false) (ok : res.code / 100 = 2) (update : Bool) :
    ∃ status timer action, pjsipTimerProcessResp s.options s.confirmed update s.now s.timer res
          = some (status, timer, action)
        ∧ Inv (accept s timer) := by
  have stopped : Inv (accept s (pjsipTimerEndSession s.timer)) := by
    rw [pjsipTimerEndSession_eq inv.tells]
    exact accept_idle inv.enabled rfl rfl
  unfold pjsipTimerProcessResp
  rw [if_neg (by rw [inv.enabled]; simp), if_neg (by rw [method]; simp), if_neg (by omega),
    if_pos ok]
  unfold processAccepted
  split
  · exact ⟨_, _, _, rfl, stopped⟩
  · split
    · exact ⟨_, _, _, rfl, stopped⟩
    · have tells : IdsTell { s.timer with
          setting := acceptedSetting s.timer.setting res.sessExpires
          refresher := acceptedRefresher res.sessExpires
          role := .uac
          active := true } := ⟨inv.tells.refresh, inv.tells.expire⟩
      rw [startTimer_eq tells rfl]
      exact ⟨_, _, _, rfl, accept_started inv.enabled rfl update⟩

/-- Another final response leaves the entries, or ends the timers; or it has an UPDATE tried
again. -/
theorem processResp_rejected (inv : Inv s)
    (own : ∀ before req, s.pending ≠ some (.incoming before req))
    (method : otherMethod res.method = false) (other : res.code / 100 ≠ 2) (update : Bool) :
    ∃ status timer action, pjsipTimerProcessResp s.options s.confirmed update s.now s.timer res
          = some (status, timer, action)
        ∧ (action = .callback → methodCmp res.method pjsipUpdateMethod ∧ 400 ≤ res.code
          ∧ res.code < 600 ∧ res.code ≠ 422 ∧ s.timer.timer.id = 0 ∧ s.timer.useUpdate
          ∧ s.timer.withSdp = false)
        ∧ timer.asRefresher = s.timer.asRefresher
        ∧ (action = .callback → timer.timer.id = s.timer.timer.id)
        ∧ ∀ pending : Option Pending, (∀ before req, pending ≠ some (.incoming before req)) →
          Inv { s with timer, pending } := by
  unfold pjsipTimerProcessResp
  rw [if_neg (by rw [inv.enabled]; simp), if_neg (by rw [method]; simp)]
  by_cases tooSmall : res.code = 422
  · rw [if_pos tooSmall]
    unfold processTooSmall
    split
    · rw [pjsipTimerEndSession_eq inv.tells]
      refine ⟨_, _, _, rfl, (by simp), rfl, (by simp), fun pending mine => ?_⟩
      exact Inv.of_idle inv.enabled rfl rfl (taken_of_not_incoming mine)
    · split
      · exact ⟨_, _, _, rfl, (by simp), rfl, (by simp),
          fun pending mine => inv.kept own (by rfl) (by rfl) (by rfl) mine⟩
      · exact ⟨_, _, _, rfl, (by simp), rfl, (by simp),
          fun pending mine => inv.kept own (by rfl) (by rfl) (by rfl) mine⟩
  · rw [if_neg tooSmall, if_neg other]
    split
    · rename_i error
      split
      · rename_i again
        exact ⟨_, _, _, rfl, fun _ => ⟨error.1, error.2.1, error.2.2, tooSmall, again⟩, rfl,
          fun _ => rfl, fun pending mine => inv.kept own (by rfl) (by rfl) (by rfl) mine⟩
      · exact ⟨_, _, _, rfl, (by simp), rfl, (by simp),
          fun pending mine => inv.kept own (by rfl) (by rfl) (by rfl) mine⟩
    · exact ⟨_, _, _, rfl, (by simp), rfl, (by simp),
        fun pending mine => inv.kept own (by rfl) (by rfl) (by rfl) mine⟩

theorem refused_keeps (inv : Inv s) (own : ∀ before req, s.pending ≠ some (.incoming before req))
    (tdata code : Nat) (outcome : Outcome) :
    ∃ s' outcome', (if code = 502 ∨ code = 503 then
        some (pjsipTimerHandleRefreshError s tdata code, outcome) else some (s, outcome))
          = some (s', outcome')
      ∧ outcome' = outcome ∧ Holds s' ∧ IdsTell s'.timer := by
  split
  · obtain ⟨holds, tells⟩ := handleRefreshError_keeps inv own tdata code
    exact ⟨_, _, rfl, rfl, holds, tells⟩
  · exact ⟨_, _, rfl, rfl, .inr inv, inv.tells⟩

theorem rxResponse_keeps (inv : Inv s) {tdata : Nat}
    (pending : s.pending = some (.outgoing tdata res.method))
    (method : otherMethod res.method = false) (update : Bool) (env : CbEnv)
    (calm : TriesAgain s.timer res → s.timer.asRefresher = true) :
    ∃ s' outcome, rxResponse s tdata res.method res update env = some (s', outcome)
      ∧ outcome = .quiet ∧ Holds s' ∧ IdsTell s'.timer := by
  have own : ∀ before req, s.pending ≠ some (.incoming before req) := by
    intro before req same
    rw [pending] at same
    nomatch same
  have idle (before : PjsipTimer) (req : Request) :
      (none : Option Pending) ≠ some (.incoming before req) := by
    intro same
    nomatch same
  unfold rxResponse
  split
  · rename_i shown
    by_cases ok : res.code / 100 = 2
    · obtain ⟨status, timer, action, processed, inv'⟩ :=
        processResp_accepted inv method ok update
      rw [processed]
      dsimp only
      rw [if_pos ok]
      split
      · exact ⟨_, _, rfl, rfl, .inl rfl, inv'.tells⟩
      · exact ⟨_, _, rfl, rfl, .inr inv', inv'.tells⟩
    · obtain ⟨status, timer, action, processed, again, refreshes, id, kept⟩ :=
        processResp_rejected inv own method ok update
      rw [processed]
      dsimp only
      rw [if_neg ok]
      cases action with
      | nothing => exact refused_keeps (kept none idle) idle tdata res.code .quiet
      | resend sessExpires minSe =>
        have inv' := kept (some (.outgoing tdata res.method)) fun _ _ same => nomatch same
        exact ⟨_, _, rfl, rfl, .inr inv', inv'.tells⟩
      | callback =>
        obtain ⟨isUpdate, above, below, other, zero, useUpdate, withSdp⟩ := again rfl
        have role : timer.asRefresher = true :=
          refreshes.trans (calm ⟨isUpdate, above, below, other, shown, zero, useUpdate, withSdp⟩)
        have inv' := kept none idle
        have off : timer.timer = ⟨0, none⟩ := inv'.tells.refresh.stopped ((id rfl).trans zero)
        have fired : Fired { s with timer, pending := none } := by
          refine ⟨inv'.enabled, congrArg TimerEntry.due off, inv'.tells.expire, inv'.ids.2,
            inv'.scheduled.expire, fun waits => ?_, inv'.taken, fun _ _ same => nomatch same⟩
          change timer.asRefresher = false at waits
          rw [role] at waits
          nomatch waits
        have entry : timer.timer.id ≠ refresherExpireTimerId := by
          rw [off]
          nofun
        obtain ⟨s', called, kept', mine⟩ :=
          timerCb_refreshes fired role entry fun refreshes' => absurd rfl refreshes'
        rw [called]
        exact refused_keeps kept' (fun before req => mine before req (idle before req)) tdata
          res.code .quiet
  · have inv' : Inv { s with pending := none } := inv.kept own rfl rfl rfl idle
    exact refused_keeps inv' idle tdata res.code .quiet

/-! ## Runs -/

theorem keepsRejected_other {act : Act} {s' : Session}
    (rx : ∀ req reached, act ≠ .rxRequest req reached)
    (tx : ∀ res update, act ≠ .txResponse res update) : KeepsRejected s act s' := by
  unfold KeepsRejected
  split
  · exact absurd rfl (rx _ _)
  · exact absurd rfl (tx _ _)
  · trivial

theorem sessionStep_keeps {act : Act} (inv : Inv s) (legal : Legal s act) (calm : Calm s act) :
    ∃ s' outcome, sessionStep s act = some (s', outcome) ∧ FollowsAccepted s act s' outcome
      ∧ Holds s' := by
  obtain ⟨-, legal⟩ := legal
  cases act with
  | tick seconds =>
    refine ⟨_, _, rfl, ⟨keepsRejected_other nofun nofun, inv.tells, nofun⟩, .inr ?_⟩
    exact { inv with }
  | rxRequest req reached =>
    obtain ⟨idle, method⟩ := legal
    obtain ⟨inv', same⟩ := rxRequest_keeps inv idle method reached
    refine ⟨_, _, rfl, ⟨?_, inv'.tells, nofun⟩, .inr inv'⟩
    unfold KeepsRejected
    rw [idle]
    exact fun beyond => congrArg view (same beyond)
  | txResponse res update =>
    obtain ⟨⟨before, req, pending⟩, -⟩ := legal
    have harmless := calm before req pending
    obtain ⟨s', sent, inv', same⟩ := txResponse_keeps inv pending update harmless
    refine ⟨s', .quiet, congrArg (Option.map (·, Outcome.quiet)) sent,
      ⟨?_, inv'.tells, nofun⟩, .inr inv'⟩
    unfold KeepsRejected
    rw [pending]
    intro rejected
    obtain ⟨method, tells, -⟩ := inv.taken before req pending
    exact ⟨fun taken ok => view_taken inv.enabled method ok tells (harmless rejected),
      congrArg view (same rejected)⟩
  | txRequest method =>
    have inv' := txRequest_keeps inv legal.1 method
    exact ⟨_, _, rfl, ⟨keepsRejected_other nofun nofun, inv'.tells, nofun⟩, .inr inv'⟩
  | rxResponse res update env =>
    obtain ⟨⟨tdata, pending⟩, method, -⟩ := legal
    obtain ⟨s', outcome, received, rfl, holds, tells⟩ :=
      rxResponse_keeps inv pending method update env calm
    refine ⟨s', .quiet, ?_, ⟨keepsRejected_other nofun nofun, tells, nofun⟩, holds⟩
    unfold sessionStep
    rw [pending]
    exact received
  | expires entry env =>
    obtain ⟨⟨due, scheduled, passed⟩, alone⟩ := legal
    obtain ⟨s', outcome, fired, holds, tells, overdue⟩ :=
      expires_keeps inv scheduled passed alone calm
    exact ⟨s', outcome, congrArg some fired,
      ⟨keepsRejected_other nofun nofun, tells, overdue⟩, holds⟩
  | disconnect =>
    exact ⟨_, _, rfl,
      ⟨keepsRejected_other nofun nofun, endSession_tells inv.tells, nofun⟩, .inl rfl⟩

theorem inv_initSession {options : InvOptions} (enabled : options.supportTimer = true)
    {setting : Option TimerSetting}
    (init : pjsipTimerInitSession setting = .ok timer) (now : Nat) :
    Inv (initSession options timer now) := by
  have reset : ∃ setting, timer = resetTimer setting := by
    unfold pjsipTimerInitSession at init
    repeat' split at init
    all_goals first
      | exact ⟨_, (Except.ok.inj init).symm⟩
      | cases init
  obtain ⟨setting, rfl⟩ := reset
  exact Inv.of_idle enabled rfl rfl (taken_of_not_incoming fun _ _ same => nomatch same)

/-- In a calm run the timers follow the accepted exchanges. -/
theorem session_follows {options : InvOptions} (enabled : options.supportTimer = true)
    (setting : Option TimerSetting)
    (init : pjsipTimerInitSession setting = .ok timer) (now : Nat) {acts : List Act}
    (legal : Along sessionStep Legal (initSession options timer now) acts)
    (calm : Along sessionStep Calm (initSession options timer now) acts) :
    Stepwise sessionStep FollowsAccepted (initSession options timer now) acts := by
  have start : Holds (initSession options timer now) := .inr (inv_initSession enabled init now)
  refine (legal.both calm).stepwise (fun s act holds allowed => ?_) start
  rcases holds with ended | inv
  · have going := allowed.1.1
    rw [ended] at going
    nomatch going
  · exact sessionStep_keeps inv allowed.1 allowed.2

/-- An INVITE that is accepted and makes this side the refresher, and an UPDATE that names it
again and is rejected. -/
theorem session_follows_refresher : Stepwise sessionStep FollowsAccepted
      (initSession ⟨true, false, false⟩ (resetTimer pjsipTimerSettingDefault) 0)
      [.rxRequest ⟨pjsipInviteMethod, some ⟨1800, strUas⟩, none, none⟩ true,
        .txResponse ⟨200, pjsipInviteMethod, 1, none, none, none⟩ true,
        .rxRequest ⟨pjsipUpdateMethod, some ⟨900, strUas⟩, none, none⟩ true,
        .txResponse ⟨488, pjsipUpdateMethod, 2, none, none, none⟩ true] := by
  refine session_follows rfl none rfl 0 ?_ ?_
  · refine ⟨⟨rfl, rfl, by decide⟩, fun s o taken => ?_⟩
    cases taken
    refine ⟨⟨rfl, ⟨_, _, rfl⟩, by decide⟩, fun s o taken => ?_⟩
    cases taken
    refine ⟨⟨rfl, rfl, by decide⟩, fun s o taken => ?_⟩
    cases taken
    exact ⟨⟨rfl, ⟨_, _, rfl⟩, by decide⟩, fun s o taken => trivial⟩
  · refine ⟨trivial, fun s o taken => ?_⟩
    cases taken
    refine ⟨fun before req pending rejected => absurd rfl rejected, fun s o taken => ?_⟩
    cases taken
    refine ⟨trivial, fun s o taken => ?_⟩
    cases taken
    refine ⟨fun before req pending rejected => ?_, fun s o taken => trivial⟩
    cases pending
    unfold Harmless
    rw [if_neg (by decide)]
    exact ⟨rfl, by unfold KeepsRole; decide⟩

/-- The UPDATE names the other side, and is rejected. -/
theorem session_not_follows : let acts : List Act :=
      [.rxRequest ⟨pjsipInviteMethod, some ⟨1800, strUas⟩, none, none⟩ true,
        .txResponse ⟨200, pjsipInviteMethod, 1, none, none, none⟩ true,
        .rxRequest ⟨pjsipUpdateMethod, some ⟨900, strUac⟩, none, none⟩ true,
        .txResponse ⟨488, pjsipUpdateMethod, 2, none, none, none⟩ true]
    let s := initSession ⟨true, false, false⟩ (resetTimer pjsipTimerSettingDefault) 0
    Along sessionStep Legal s acts ∧ ¬ Stepwise sessionStep FollowsAccepted s acts := by
  intro acts s
  constructor
  · refine ⟨⟨rfl, rfl, by decide⟩, fun s o taken => ?_⟩
    cases taken
    refine ⟨⟨rfl, ⟨_, _, rfl⟩, by decide⟩, fun s o taken => ?_⟩
    cases taken
    refine ⟨⟨rfl, rfl, by decide⟩, fun s o taken => ?_⟩
    cases taken
    exact ⟨⟨rfl, ⟨_, _, rfl⟩, by decide⟩, fun s o taken => trivial⟩
  · rintro ⟨s₁, o₁, taken₁, -, s₂, o₂, taken₂, -, s₃, o₃, taken₃, -, s₄, o₄, taken₄, follows, -⟩
    cases taken₁
    cases taken₂
    cases taken₃
    have same := (follows.keeps (by decide)).1 _ rfl
    exact absurd (congrArg Prod.fst same) (by decide)

end Pjsip.SipUa.Timer
