import Pjsip.SipUa.Timer.Session

/-!
# What each event leaves of the timers

The invariant holds after a session has been set up, and each event keeps it and does what is
wanted, as long as the event is calm.
-/

namespace Pjsip.SipUa.Timer

open Pjsip.Base Pjsip.Pjlib Pjsip.Sip

/-- Nothing more happens to a session that has ended. -/
def Holds (s : Session) : Prop := s.ended = true ∨ Inv s

section Entries

variable {role : Bool} {timer : PjsipTimer} {accepted : Option Accepted}

theorem Scheduled.idle (refresh : timer.timer.due = none) (expire : timer.expireTimer.due = none) :
    Scheduled role timer accepted where
  expire due waits := by
    rw [expire] at waits
    nomatch waits
  refresh due waits := by
    rw [refresh] at waits
    nomatch waits

theorem scheduled_started (update : Bool) (now : Nat) :
    Scheduled timer.asRefresher (started update now timer)
      (some ⟨now, timer.setting.sessExpires, timer.asRefresher⟩) := by
  cases refreshes : timer.asRefresher with
  | true =>
    refine ⟨fun due waits => ⟨rfl, _, rfl, rfl, ?_⟩, (by simp)⟩
    simp only [started, refreshes, if_true] at waits
    cases waits
    exact le_rfl
  | false =>
    refine ⟨fun due waits => ?_, fun due waits _ => ⟨_, rfl, rfl, ?_⟩⟩
    · simp only [started, refreshes, Bool.false_eq_true, if_false] at waits
      cases waits
    · simp only [started, refreshes, Bool.false_eq_true, if_false, expireDelay_eq] at waits
      cases waits
      exact le_rfl

theorem endSession_tells (tells : IdsTell timer) : IdsTell (pjsipTimerEndSession timer) := by
  rw [pjsipTimerEndSession_eq tells]
  exact ⟨TimerEntry.tells_stopped, TimerEntry.tells_stopped⟩

end Entries

variable {s : Session}

theorem Inv.of_idle {s : Session} (enabled : s.options.supportTimer = true)
    (refresh : s.timer.timer = ⟨0, none⟩) (expire : s.timer.expireTimer = ⟨0, none⟩)
    (taken : Taken s) : Inv s where
  enabled := enabled
  tells := ⟨refresh ▸ TimerEntry.tells_stopped, expire ▸ TimerEntry.tells_stopped⟩
  ids := by
    rw [refresh, expire]
    exact ⟨nofun, .inl rfl⟩
  scheduled := Scheduled.idle (by rw [refresh]) (by rw [expire])
  taken := taken

theorem taken_of_not_incoming (other : ∀ before req, s.pending ≠ some (.incoming before req)) :
    Taken s := fun before req same => absurd same (other before req)

/-! ## Requests of the other side -/

variable {req : Request}

theorem processReq_ok {options : InvOptions} (enabled : options.supportTimer = true)
    {timer taken : PjsipTimer} (method : otherMethod req.method = false)
    (ok : pjsipTimerProcessReq options timer req = .ok taken) :
    ((req.sessExpires = none ∧ options.requireTimer = false ∧ options.alwaysUseTimer = false)
        ∧ ∃ setting, taken = pjsipTimerEndSession { timer with setting })
      ∨ ¬ (req.sessExpires = none ∧ options.requireTimer = false ∧ options.alwaysUseTimer = false)
        ∧ ∃ setting, taken = { timer with
          setting, refresher := requestRefresher timer req, role := .uas, active := true } := by
  unfold pjsipTimerProcessReq at ok
  rw [if_neg (by rw [enabled]; simp), if_neg (by rw [method]; simp)] at ok
  cases se : req.sessExpires with
  | some hdr =>
    rw [se] at ok
    dsimp only at ok
    split at ok
    · cases ok
    · cases ok
      exact .inr ⟨by simp, _, rfl⟩
  | none =>
    rw [se] at ok
    dsimp only at ok
    split at ok
    · rename_i free
      cases ok
      exact .inl ⟨⟨rfl, free⟩, _, rfl⟩
    · rename_i forced
      cases ok
      exact .inr ⟨fun free => forced free.2, _, rfl⟩

theorem asRefresher_uas (timer : PjsipTimer) (role : timer.role = .uas) :
    timer.asRefresher = decide (timer.refresher = .uas) := by
  simp [PjsipTimer.asRefresher, role]

theorem view_taken {options : InvOptions} (enabled : options.supportTimer = true)
    {before taken : PjsipTimer} (method : otherMethod req.method = false)
    (ok : pjsipTimerProcessReq options before req = .ok taken) (tells : IdsTell before)
    (harmless : Harmless options before req) : view taken = view before := by
  unfold Harmless at harmless
  rcases processReq_ok enabled method ok with ⟨free, setting, rfl⟩ | ⟨forced, setting, rfl⟩
  · rw [if_pos free] at harmless
    obtain ⟨active, refresh, expire⟩ := harmless
    have same : IdsTell { before with setting } := ⟨tells.refresh, tells.expire⟩
    rw [pjsipTimerEndSession_eq same]
    simp only [view, active, refresh, expire]
    rfl
  · rw [if_neg forced] at harmless
    obtain ⟨active, role⟩ := harmless
    have same : PjsipTimer.asRefresher { before with
        setting, refresher := requestRefresher before req, role := .uas, active := true }
          = before.asRefresher := by
      rw [asRefresher_uas _ rfl, Bool.eq_iff_iff, decide_eq_true_iff]
      exact role
    simp only [view, same, active]

theorem rxRequest_keeps (inv : Inv s) (idle : s.pending = none)
    (method : otherMethod req.method = false) (reached : Bool) :
    Inv (rxRequest s req reached)
      ∧ ((rxRequest s req reached).pending = none → (rxRequest s req reached).timer = s.timer) := by
  have role : roleInForce s = s.timer.asRefresher := by
    unfold roleInForce
    rw [idle]
  unfold rxRequest
  split
  · split
    · rename_i taken ok
      refine ⟨?_, fun refused => nomatch refused⟩
      rcases processReq_ok inv.enabled method ok with ⟨-, setting, rfl⟩ | ⟨-, setting, rfl⟩
      · -- the timers are stopped
        have tells : IdsTell { s.timer with setting } := ⟨inv.tells.refresh, inv.tells.expire⟩
        rw [pjsipTimerEndSession_eq tells] at ok ⊢
        refine Inv.of_idle inv.enabled rfl rfl fun before req' same => ?_
        cases same
        exact ⟨method, inv.tells, ⟨_, ok, rfl⟩, fun _ => ⟨rfl, rfl⟩⟩
      · -- the entries stay, for the role from before
        refine ⟨inv.enabled, ⟨inv.tells.refresh, inv.tells.expire⟩, inv.ids, ?_, ?_⟩
        · have scheduled := inv.scheduled
          rw [role] at scheduled
          exact ⟨scheduled.expire, scheduled.refresh⟩
        · intro before req' same
          cases same
          exact ⟨method, inv.tells, ⟨_, ok, rfl⟩, fun off => nomatch off⟩
    · exact ⟨inv, fun _ => rfl⟩
  · exact ⟨inv, fun _ => rfl⟩

theorem accept_started (enabled : s.options.supportTimer = true) {timer : PjsipTimer}
    (active : timer.active = true) (update : Bool) :
    Inv (accept s (started update s.now timer)) where
  enabled := enabled
  tells := started_tells _ _
  ids := by
    refine ⟨nofun, ?_⟩
    show (started update s.now timer).expireTimer.id = 0
      ∨ (started update s.now timer).expireTimer.id = refresherExpireTimerId
    cases refreshes : timer.asRefresher with
    | true =>
      right
      simp only [started, refreshes, if_true]
    | false =>
      left
      simp only [started, refreshes, Bool.false_eq_true, if_false]
  scheduled := by
    show Scheduled timer.asRefresher (started update s.now timer) (if timer.active then _ else none)
    rw [if_pos active]
    exact scheduled_started update s.now
  taken := taken_of_not_incoming (fun _ _ same => nomatch same)

theorem accept_idle (enabled : s.options.supportTimer = true) {timer : PjsipTimer}
    (refresh : timer.timer = ⟨0, none⟩) (expire : timer.expireTimer = ⟨0, none⟩) :
    Inv (accept s timer) :=
  Inv.of_idle enabled refresh expire (taken_of_not_incoming (fun _ _ same => nomatch same))

theorem TimerEntry.Tells.idle {entry : TimerEntry} (tells : entry.Tells)
    (idle : entry.due = none) : entry = ⟨0, none⟩ := by
  refine tells.stopped ?_
  by_contra id
  have waits := tells.1 id
  rw [idle] at waits
  nomatch waits

theorem txResponse_keeps (inv : Inv s) {before : PjsipTimer}
    (pending : s.pending = some (.incoming before req)) {res : Response} (update : Bool)
    (harmless : res.code / 100 ≠ 2 → Harmless s.options before req) :
    ∃ s', txResponse s res update = some s' ∧ Inv s'
      ∧ (res.code / 100 ≠ 2 → s'.timer = s.timer) := by
  obtain ⟨method, tells, ⟨taken, ok, role⟩, idle⟩ := inv.taken before req pending
  unfold txResponse pjsipTimerUpdateResp
  rw [if_neg (by rw [inv.enabled]; simp)]
  by_cases accepted : res.code / 100 = 2
  · rw [if_pos accepted]
    cases active : s.timer.active with
    | true =>
      rw [if_pos rfl, startTimer_eq inv.tells active]
      refine ⟨_, rfl, ?_, fun rejected => absurd accepted rejected⟩
      dsimp only
      rw [if_pos accepted]
      exact accept_started inv.enabled active update
    | false =>
      refine ⟨_, rfl, ?_, fun rejected => absurd accepted rejected⟩
      dsimp only
      rw [if_pos accepted]
      obtain ⟨refresh, expire⟩ := idle active
      exact accept_idle inv.enabled (inv.tells.refresh.idle refresh) (inv.tells.expire.idle expire)
  · have same := view_taken inv.enabled method ok tells (harmless accepted)
    have inForce : roleInForce s = s.timer.asRefresher := by
      unfold roleInForce
      rw [pending, role]
      exact (congrArg Prod.fst same).symm
    have kept : Inv { s with pending := none } := by
      refine ⟨inv.enabled, inv.tells, inv.ids, ?_,
        taken_of_not_incoming fun _ _ same => by cases same⟩
      have scheduled := inv.scheduled
      rw [inForce] at scheduled
      exact scheduled
    rw [if_neg accepted]
    by_cases tooSmall : res.code = 422
    · rw [if_pos tooSmall]
      refine ⟨_, rfl, ?_, fun _ => ?_⟩
      · dsimp only
        rw [if_neg accepted]
        exact kept
      · dsimp only
        rw [if_neg accepted]
    · rw [if_neg tooSmall]
      refine ⟨_, rfl, ?_, fun _ => ?_⟩
      · dsimp only
        rw [if_neg accepted]
        exact kept
      · dsimp only
        rw [if_neg accepted]

/-! ## Requests of this side -/

theorem txRequest_keeps (inv : Inv s) (idle : s.pending = none) (method : Method) :
    Inv (txRequest s method) := by
  have role : roleInForce s = s.timer.asRefresher := by
    unfold roleInForce
    rw [idle]
  unfold txRequest
  rw [updateReq_timer inv.enabled]
  refine ⟨inv.enabled, takeUacRole_tells inv.tells, ?_, ?_,
    taken_of_not_incoming fun _ _ same => nomatch same⟩
  · simpa using inv.ids
  · have scheduled := inv.scheduled
    rw [role] at scheduled
    show Scheduled (takeUacRole s.timer).asRefresher (takeUacRole s.timer) s.accepted
    rw [takeUacRole_asRefresher]
    refine ⟨fun due waits => ?_, fun due waits => ?_⟩
    · rw [takeUacRole_expireTimer] at waits
      exact scheduled.expire due waits
    · rw [takeUacRole_timer] at waits
      exact scheduled.refresh due waits

/-! ## `timer_cb` -/

/-- The entry for the refresh has fired, or is off. -/
structure Fired (s : Session) : Prop where
  enabled : s.options.supportTimer = true
  off : s.timer.timer.due = none
  expire : s.timer.expireTimer.Tells
  expireId : s.timer.expireTimer.id = 0 ∨ s.timer.expireTimer.id = refresherExpireTimerId
  scheduled : ∀ due, s.timer.expireTimer.due = some due →
    roleInForce s = true ∧ ∃ last, s.accepted = some last ∧ last.asRefresher = true
      ∧ last.time + last.sessExpires ≤ due
  late : roleInForce s = false → ∃ last, s.accepted = some last ∧ last.asRefresher = false
    ∧ last.time + (last.sessExpires - min 32 (last.sessExpires / 3)) ≤ s.now
  taken : Taken s
  running : ∀ before req, s.pending = some (.incoming before req) → s.timer.active = true

theorem Fired.inv (fired : Fired s) {timer : PjsipTimer} (nextTdata : Nat)
    (refreshes : timer.asRefresher = s.timer.asRefresher) (active : timer.active = s.timer.active)
    (expire : timer.expireTimer = s.timer.expireTimer)
    (entry : timer.timer = ⟨0, none⟩ ∨ ∃ due, timer.timer = ⟨1, some due⟩ ∧ s.now ≤ due) :
    Inv { s with timer, nextTdata } := by
  have role : roleInForce { s with timer, nextTdata } = roleInForce s := by
    unfold roleInForce
    rw [refreshes]
  refine ⟨fired.enabled, ⟨?_, expire ▸ fired.expire⟩, ⟨?_, expire ▸ fired.expireId⟩, ?_, ?_⟩
  · show timer.timer.Tells
    rcases entry with off | ⟨due, on_, -⟩
    · rw [off]
      exact TimerEntry.tells_stopped
    · rw [on_]
      simp [TimerEntry.Tells]
  · show timer.timer.id ≠ _
    rcases entry with off | ⟨due, on_, -⟩
    · rw [off]
      simp [refresherExpireTimerId]
    · rw [on_]
      simp [refresherExpireTimerId]
  · rw [role]
    refine ⟨fun due running => fired.scheduled due (expire ▸ running), fun due running other => ?_⟩
    obtain ⟨last, accepted, waits, late⟩ := fired.late other
    refine ⟨last, accepted, waits, late.trans ?_⟩
    change timer.timer.due = some due at running
    rcases entry with off | ⟨due', on_, after⟩
    · rw [off] at running
      cases running
    · rw [on_] at running
      cases running
      exact after
  · intro before req same
    obtain ⟨method, tells, ⟨taken, ok, role⟩, -⟩ := fired.taken before req same
    refine ⟨method, tells, ⟨taken, ok, refreshes.trans role⟩, fun off => ?_⟩
    have on_ := fired.running before req same
    rw [← active] at on_
    rw [on_] at off
    cases off

theorem sendRefresh_keeps (fired : Fired s) (entry : s.timer.timer = ⟨0, none⟩)
    {result : RefreshResult} (alone : s.pending ≠ none → result ≠ .sent) :
    Inv (sendRefresh s result) := by
  unfold sendRefresh
  dsimp only
  rw [updateReq_timer fired.enabled]
  have off : (takeUacRole s.timer).timer = ⟨0, none⟩ := by rw [takeUacRole_timer, entry]
  cases result with
  | notCreated => exact fired.inv s.nextTdata rfl rfl rfl (.inl entry)
  | notReady =>
    exact fired.inv s.nextTdata takeUacRole_asRefresher (takeUacRole_active _)
      (takeUacRole_expireTimer _) (.inl off)
  | notSent =>
    have kept : Inv { s with
        timer := { takeUacRole s.timer with refreshTdata := some s.nextTdata }
        nextTdata := s.nextTdata + 1 } :=
      fired.inv (s.nextTdata + 1) takeUacRole_asRefresher (takeUacRole_active _)
        (takeUacRole_expireTimer _) (.inl off)
    exact kept
  | sent =>
    have idle : s.pending = none := by
      by_contra pending
      exact alone pending rfl
    have kept : Inv { s with
        timer := { takeUacRole s.timer with refreshTdata := some s.nextTdata }
        nextTdata := s.nextTdata + 1 } :=
      fired.inv (s.nextTdata + 1) takeUacRole_asRefresher (takeUacRole_active _)
        (takeUacRole_expireTimer _) (.inl off)
    refine ⟨kept.enabled, kept.tells, kept.ids, ?_,
      taken_of_not_incoming (fun _ _ same => nomatch same)⟩
    have scheduled := kept.scheduled
    rw [idle] at scheduled
    exact scheduled

theorem sendRefresh_pending {result : RefreshResult} {before : PjsipTimer}
    (own : s.pending ≠ some (.incoming before req)) :
    (sendRefresh s result).pending ≠ some (.incoming before req) := by
  cases result with
  | notCreated => exact own
  | notReady => exact own
  | notSent => exact own
  | sent => exact fun same => nomatch same

theorem timerCb_refreshes (fired : Fired s) (refreshes : s.timer.asRefresher = true)
    {entryId : Nat} (id : entryId ≠ refresherExpireTimerId) {env : CbEnv}
    (alone : s.pending ≠ none → env.result ≠ .sent) :
    ∃ s', timerCb s entryId env = (s', .quiet) ∧ Inv s'
      ∧ ∀ before req, s.pending ≠ some (.incoming before req) →
        s'.pending ≠ some (.incoming before req) := by
  unfold timerCb
  rw [if_pos ⟨refreshes, id⟩]
  dsimp only
  have entry : (⟨0, s.timer.timer.due⟩ : TimerEntry) = ⟨0, none⟩ := by rw [fired.off]
  have zeroed : Fired
      { s with timer := { s.timer with timer := { s.timer.timer with id := 0 } } } := by
    refine { fired with taken := fun before req same => ?_ }
    obtain ⟨method, tells, taken, -⟩ := fired.taken before req same
    refine ⟨method, tells, taken, fun off => ?_⟩
    have on_ := fired.running before req same
    change s.timer.active = false at off
    rw [on_] at off
    nomatch off
  split
  · refine ⟨_, rfl, ?_, fun _ _ own => own⟩
    have scheduled : TimerEntry.schedule { s.timer.timer with id := 1 } (s.now + 1)
        = ⟨1, some (s.now + 1)⟩ := by
      unfold TimerEntry.schedule
      rw [if_neg (by rw [fired.off]; nofun)]
    exact zeroed.inv s.nextTdata rfl rfl rfl (.inr ⟨s.now + 1, scheduled, Nat.le_succ _⟩)
  · exact ⟨_, rfl, sendRefresh_keeps zeroed entry alone, fun _ _ own => sendRefresh_pending own⟩

theorem timerCb_refreshee (s : Session) (waits : s.timer.asRefresher = false) (entryId : Nat)
    (env : CbEnv) :
    timerCb s entryId env = ({ s with
          timer := pjsipTimerEndSession { s.timer with timer := { s.timer.timer with id := 0 } }
          ended := true }, .notRefreshed) := by
  unfold timerCb
  rw [waits]
  rfl

theorem timerCb_refresher (s : Session) (refreshes : s.timer.asRefresher = true) {entryId : Nat}
    (id : entryId = refresherExpireTimerId) (env : CbEnv) :
    timerCb s entryId env = ({ s with
          timer := pjsipTimerEndSession
            { s.timer with expireTimer := { s.timer.expireTimer with id := 0 } }
          ended := true }, .notRefreshed) := by
  unfold timerCb
  rw [refreshes, id]
  rfl

theorem TimerEntry.schedule_some (entry : TimerEntry) (time : Nat) :
    ∃ due, TimerEntry.schedule { entry with id := 1 } time = ⟨1, some due⟩ := by
  obtain ⟨id, due⟩ := entry
  cases due with
  | none => exact ⟨time, rfl⟩
  | some due => exact ⟨due, rfl⟩

theorem Inv.schedule (inv : Inv s) (role : roleInForce s = true)
    (active : s.timer.active = true) (time : Nat) : Inv { s with timer := { s.timer with
      timer := TimerEntry.schedule { s.timer.timer with id := 1 } time } } := by
  obtain ⟨due, entry⟩ := s.timer.timer.schedule_some time
  rw [entry]
  refine ⟨inv.enabled, ⟨by simp [TimerEntry.Tells], inv.tells.expire⟩, ⟨by simp [refresherExpireTimerId], inv.ids.2⟩, ?_,
    fun before req same => ?_⟩
  · refine ⟨inv.scheduled.expire, fun due _ other => ?_⟩
    change roleInForce s = false at other
    rw [role] at other
    cases other
  · obtain ⟨method, tells, taken, -⟩ := inv.taken before req same
    refine ⟨method, tells, taken, fun off => ?_⟩
    change s.timer.active = false at off
    rw [active] at off
    cases off

end Pjsip.SipUa.Timer
