import Pjsip.SipUa.Timer.Model

/-!
# The two timer entries

As long as the ids tell which entries the timer heap holds, stopping takes both out, and
starting never finds one that is still in.
-/

namespace Pjsip.SipUa.Timer

open Pjsip.Pjlib Pjsip.Sip

/-- The id is not 0 exactly while the timer heap holds the entry. -/
def TimerEntry.Tells (entry : TimerEntry) : Prop := entry.id ≠ 0 ↔ entry.due.isSome

theorem TimerEntry.tells_stopped : TimerEntry.Tells ⟨0, none⟩ := by simp [TimerEntry.Tells]

theorem TimerEntry.Tells.stopped {entry : TimerEntry} (tells : entry.Tells) (zero : entry.id = 0) :
    entry = ⟨0, none⟩ := by
  obtain ⟨id, due⟩ := entry
  obtain rfl : id = 0 := zero
  have idle : due = none := by simpa [TimerEntry.Tells] using tells
  rw [idle]

/-- The ids of both entries tell. -/
structure IdsTell (timer : PjsipTimer) : Prop where
  refresh : timer.timer.Tells
  expire : timer.expireTimer.Tells

variable {timer : PjsipTimer}

theorem stopTimer_eq (tells : IdsTell timer) :
    stopTimer timer = { timer with timer := ⟨0, none⟩, expireTimer := ⟨0, none⟩ } := by
  obtain ⟨active, setting, refresher, lastRefresh, entry, useUpdate, withSdp, role, refreshTdata,
    expire, last422Cseq⟩ := timer
  unfold stopTimer
  by_cases first : entry.id = 0
  · rw [if_neg (not_not.2 first)]
    obtain rfl := tells.refresh.stopped first
    by_cases second : expire.id = 0
    · rw [if_neg (not_not.2 second)]
      obtain rfl := tells.expire.stopped second
      rfl
    · rw [if_pos second]
  · rw [if_pos first]
    by_cases second : expire.id = 0
    · rw [if_neg (not_not.2 second)]
      obtain rfl := tells.expire.stopped second
      rfl
    · rw [if_pos second]

theorem pjsipTimerEndSession_eq (tells : IdsTell timer) : pjsipTimerEndSession timer
      = { timer with active := false, timer := ⟨0, none⟩, expireTimer := ⟨0, none⟩ } :=
  stopTimer_eq ⟨tells.refresh, tells.expire⟩

/-- What `start_timer` leaves. -/
def started (update : Bool) (now : Nat) (timer : PjsipTimer) : PjsipTimer :=
  { timer with
    useUpdate := update
    withSdp := timer.withSdp || !update
    timer := ⟨1, some (now + if timer.asRefresher then timer.setting.sessExpires / 2
      else expireDelay timer.setting.sessExpires)⟩
    expireTimer := if timer.asRefresher then
      ⟨refresherExpireTimerId, some (now + timer.setting.sessExpires)⟩ else ⟨0, none⟩
    lastRefresh := now }

theorem startTimer_eq (tells : IdsTell timer) (active : timer.active = true) (update : Bool)
    (now : Nat) : startTimer update now timer = some (started update now timer) := by
  unfold startTimer
  rw [if_neg (by rw [active]; simp), stopTimer_eq tells]
  rw [if_neg (by simp)]
  show (if timer.asRefresher = true then _ else _) = _
  cases refreshes : timer.asRefresher with
  | true =>
    rw [if_pos rfl, if_neg (by simp)]
    simp only [started, refreshes, if_true]
  | false =>
    rw [if_neg (by simp)]
    simp only [started, refreshes, Bool.false_eq_true, if_false]

theorem started_tells (update : Bool) (now : Nat) : IdsTell (started update now timer) := by
  constructor
  · simp [started, TimerEntry.Tells]
  · cases refreshes : timer.asRefresher with
    | true => simp [started, refreshes, TimerEntry.Tells, refresherExpireTimerId]
    | false => simp [started, refreshes, TimerEntry.Tells]

theorem expireDelay_eq (sessExpires : Nat) :
    expireDelay sessExpires = sessExpires - min 32 (sessExpires / 3) := by
  unfold expireDelay
  omega

/-! ## Roles -/

@[simp] theorem takeUacRole_asRefresher : (takeUacRole timer).asRefresher = timer.asRefresher := by
  unfold takeUacRole
  split
  · cases refreshes : timer.asRefresher with
    | true => rfl
    | false => rfl
  · rfl

@[simp] theorem takeUacRole_setting (timer : PjsipTimer) :
    (takeUacRole timer).setting = timer.setting := by
  unfold takeUacRole
  split <;> rfl

@[simp] theorem takeUacRole_last422Cseq (timer : PjsipTimer) :
    (takeUacRole timer).last422Cseq = timer.last422Cseq := by
  unfold takeUacRole
  split <;> rfl

@[simp] theorem takeUacRole_active (timer : PjsipTimer) :
    (takeUacRole timer).active = timer.active := by
  unfold takeUacRole
  split <;> rfl

@[simp] theorem takeUacRole_timer (timer : PjsipTimer) :
    (takeUacRole timer).timer = timer.timer := by
  unfold takeUacRole
  split <;> rfl

@[simp] theorem takeUacRole_expireTimer (timer : PjsipTimer) :
    (takeUacRole timer).expireTimer = timer.expireTimer := by
  unfold takeUacRole
  split <;> rfl

theorem takeUacRole_tells (tells : IdsTell timer) : IdsTell (takeUacRole timer) := by
  refine ⟨?_, ?_⟩
  · rw [takeUacRole_timer]
    exact tells.refresh
  · rw [takeUacRole_expireTimer]
    exact tells.expire

theorem updateReq_timer {options : InvOptions} (enabled : options.supportTimer = true)
    (timer : PjsipTimer) (req : Request) :
    (pjsipTimerUpdateReq options timer req).1 = takeUacRole timer := by
  unfold pjsipTimerUpdateReq
  rw [if_neg (by rw [enabled]; nofun)]

end Pjsip.SipUa.Timer
