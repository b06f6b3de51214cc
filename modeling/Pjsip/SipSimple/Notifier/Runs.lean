import Pjsip.SipSimple.Notifier.Sending

/-!
# The life of a server subscription

In every run in which each NOTIFY is created, passed and applied in its turn, each is transmitted
once and leaves its own state. A refresh that the user rejects leaves the state as it was, but
not the expiration that it asked for.
-/

namespace Pjsip.SipSimple

open Pjsip.Base Pjsip.Pjlib Pjsip.Sip Notifier

mutual

theorem NotifierAct.exec_safe : ∀ act : NotifierAct, Safe act.exec
  | .notify _ _ _ => fun _ => notify_leads
  | .currentNotify _ => fun _ => notify_leads
  | .sendNotify _ _ sending stateCb => fun _ =>
    sendNotify_leads (execAll_safe sending) (execAll_safe stateCb)
  | .refresh _ stateCb appCb responding sending notifyCb => fun _ =>
    onRefresh_leads ⟨execAll_safe stateCb, execAll_safe appCb, execAll_safe responding,
      execAll_safe sending, execAll_safe notifyCb⟩
  | .accept => fun s => by
      unfold NotifierAct.exec
      split
      · exact same_leads rfl
      · exact refl_leads
  | .uasSetTimeout _ => fun _ => same_leads rfl
  | .terminate telling stateCb => fun s => by
      have first : Leads True s { s with callCb := telling } := same_leads rfl
      exact first.trans (setState_leads (execAll_safe stateCb))
  | .notifyFailed stateCb => fun s => by
      unfold NotifierAct.exec
      split
      · exact refl_leads
      · exact setState_leads (execAll_safe stateCb)
  | .timer => fun _ => same_leads rfl

theorem NotifierAct.execAll_safe : ∀ acts : List NotifierAct, Safe (execAll acts)
  | [] => fun _ => refl_leads
  | act :: acts => fun s => (exec_safe act s).trans (execAll_safe acts (act.exec s))

end

namespace Notifier

theorem create_good (onEvsubState : Bool) (expires : Nat) (now : PjTimeVal) :
    Good (create onEvsubState expires now) where
  right := nofun
  order := rfl
  once := List.nodup_nil
  calling := nofun
  back := nofun
  owns := nofun

end Notifier

/-- If each NOTIFY is created, passed and applied in its turn, then each is transmitted once, in
order, and leaves its own state. -/
theorem notifies_faithful (onEvsubState : Bool) (expires : Nat) (now : PjTimeVal)
    (acts : List NotifierAct)
    (careful : (NotifierAct.execAll acts (create onEvsubState expires now)).Careful) :
    (NotifierAct.execAll acts (create onEvsubState expires now)).Faithful := by
  obtain ⟨good, kept⟩ := (NotifierAct.execAll_safe acts _).2 careful
    (create_good onEvsubState expires now) trivial
  have idle := (kept.idle rfl).1
  have order := good.order
  rw [idle] at order
  exact ⟨order.symm, good.once, good.right⟩

/-- One NOTIFY outside a refresh, and one that is passed while a refresh is being answered. -/
def turns : List NotifierAct :=
  [.notify .pending none true, .sendNotify 0 true [] [],
    .refresh { now := ⟨10, 0⟩, expires := some 300, pkgExpires := some 600 } []
      [.notify .active none true, .sendNotify 1 true [] []] [] [] []]

theorem notifies_faithful_turns : (NotifierAct.execAll turns (create true 600 ⟨0, 0⟩)).Faithful
      ∧ (NotifierAct.execAll turns (create true 600 ⟨0, 0⟩)).transmitted = [1, 0]
      ∧ (NotifierAct.execAll turns (create true 600 ⟨0, 0⟩)).state = .active :=
  ⟨notifies_faithful true 600 ⟨0, 0⟩ turns (by decide +kernel), by decide +kernel,
    by decide +kernel⟩

/-- Two NOTIFY requests are created before the first one is passed: it leaves the state of the
second one. -/
theorem notifies_crossed :
    ¬ ∀ (onEvsubState : Bool) (expires : Nat) (now : PjTimeVal) (acts : List NotifierAct),
      (NotifierAct.execAll acts (create onEvsubState expires now)).Faithful := by
  intro faithful
  have run := faithful true 600 ⟨0, 0⟩
    [.notify .pending none true, .notify .active none true, .sendNotify 0 true [] [],
      .sendNotify 1 true [] []]
  have failed : NotifierEvent.asserted ∈ (NotifierAct.execAll
      [.notify .pending none true, .notify .active none true, .sendNotify 0 true [] [],
        .sendNotify 1 true [] []] (create true 600 ⟨0, 0⟩)).log := by
    decide +kernel
  exact run.right _ failed

/-! ## Rejected refreshes -/

namespace Notifier

/-- A server subscription as it is between two events. -/
def Reachable (s : Notifier) : Prop :=
  ∃ (onEvsubState : Bool) (expires : Nat) (now : PjTimeVal) (acts : List NotifierAct),
    s = NotifierAct.execAll acts (create onEvsubState expires now)

/-- What a refresh that is rejected is not to change. -/
structure Untouched (s s' : Notifier) : Prop where
  state : s'.state = s.state
  stateStr : s'.stateStr = s.stateStr
  expires : s'.expires = s.expires
  refreshTime : s'.refreshTime = s.refreshTime
  timer : s'.timer = s.timer

theorem Reachable.rests {s : Notifier} (reachable : s.Reachable) :
    s.callingOnRxRefresh = false ∧ s.pendingNotify = none := by
  obtain ⟨onEvsubState, expires, now, acts, rfl⟩ := reachable
  have rests := (NotifierAct.execAll_safe acts (create onEvsubState expires now)).1.2
  exact ⟨rests.calling rfl, rests.pending rfl rfl⟩

/-- Nothing else happens while the refresh is being answered. -/
def quiet : RefreshScripts where
  stateCb := id
  appCb := id
  responding := id
  sending := id
  notifyCb := id

variable {s : Notifier} {info : RefreshInfo}

theorem clampCode_rejects {stCode : Nat} (rejects : 300 ≤ stCode) :
    ¬ Evsub.clampCode stCode / 100 = 2 := by
  unfold Evsub.clampCode
  grind

theorem respond_quiet {stCode : Nat} {old : EvsubState} {oldStr : List UInt8} :
    s.respond info stCode old oldStr quiet
      = (s.begun info).settleRefresh stCode old oldStr id := by
  rw [respond_eq]
  exact congrArg (settleRefresh · stCode old oldStr id) (ite_self _)

theorem answer_rejected (pending : s.pendingNotify = none) (asked : s.callCb = true)
    (lasting : s.expires ≠ 0) (rejects : 300 ≤ info.stCode) :
    Untouched s (s.answer info quiet) := by
  have rejected := clampCode_rejects rejects
  obtain ⟨s₁, begun, called, sized, renewed, timed, back⟩ : ∃ s₁,
      s.enterRefresh.beginRefresh quiet.stateCb = s₁ ∧ s₁.callCb = s.callCb
        ∧ s₁.expires = s.expires ∧ s₁.refreshTime = s.refreshTime ∧ s₁.timer = s.timer
        ∧ s₁.pendingNotify = s.pendingNotify := by
    have sized : ¬ s.enterRefresh.expires = 0 := lasting
    refine ⟨_, rfl, ?_⟩
    rw [beginRefresh, if_neg sized]
    split <;> exact ⟨rfl, rfl, rfl, rfl, rfl⟩
  have user : s.enterRefresh.askUser info quiet = (s₁, info.stCode) := by
    rw [askUser, begun]
    show (if s₁.callCb = true then s₁ else s₁, if s₁.callCb = true
      ∧ (if s₁.callCb = true then s₁ else s₁).expires ≠ 0 then info.stCode else 200) = _
    rw [ite_self, if_pos ⟨called.trans asked, sized ▸ lasting⟩]
  have settled : s₁.leaveRefresh.respond info (Evsub.clampCode info.stCode) s.state s.stateStr quiet
      = { s₁.leaveRefresh.begun info with state := s.state, stateStr := s.stateStr } := by
    rw [respond_quiet, settleRefresh, if_neg rejected]
  have nothing : ({ s₁.leaveRefresh.begun info with state := s.state, stateStr := s.stateStr } :
      Notifier).pendingNotify = none := back.trans pending
  unfold answer
  rw [user]
  dsimp only
  rw [settled, sendPending, nothing]
  exact ⟨rfl, rfl, sized, renewed, timed⟩

theorem answer_terminates (info : RefreshInfo) (pending : s.pendingNotify = none) (zero : s.expires = 0) :
    (s.answer info quiet).state = .terminated := by
  obtain ⟨s₁, begun, terminated, sized, back⟩ : ∃ s₁,
      s.enterRefresh.beginRefresh quiet.stateCb = s₁ ∧ s₁.state = .terminated
        ∧ s₁.expires = 0 ∧ s₁.pendingNotify = s.pendingNotify := by
    have sized : s.enterRefresh.expires = 0 := zero
    refine ⟨_, rfl, ?_⟩
    rw [beginRefresh, if_pos sized]
    dsimp only [setState, tellState, quiet, id]
    rw [ite_self]
    split <;> exact ⟨rfl, zero, rfl⟩
  have user : s.enterRefresh.askUser info quiet = (s₁, 200) := by
    rw [askUser, begun]
    show (if s₁.callCb = true then s₁ else s₁, if s₁.callCb = true
      ∧ (if s₁.callCb = true then s₁ else s₁).expires ≠ 0 then info.stCode else 200) = _
    rw [ite_self, if_neg fun given => given.2 sized]
  have ended : (s₁.leaveRefresh.begun info).state = .terminated := terminated
  have settled : s₁.leaveRefresh.respond info (Evsub.clampCode 200) s.state s.stateStr quiet
      = s₁.leaveRefresh.begun info := by
    have accepted : Evsub.clampCode 200 / 100 = 2 := rfl
    rw [respond_quiet, settleRefresh, if_pos accepted]
    simp [ended]
  have nothing : (s₁.leaveRefresh.begun info).pendingNotify = none := back.trans pending
  unfold answer
  rw [user]
  dsimp only
  rw [settled, sendPending, nothing]
  exact terminated

theorem requestExpires_expires (s : Notifier) (info : RefreshInfo) :
    (s.requestExpires info).expires = match info.pkgExpires, info.expires with
      | some pkgExpires, some expires => min expires pkgExpires
      | _, _ => s.expires := by
  unfold requestExpires
  cases info.pkgExpires <;> cases info.expires <;> rfl

theorem onRefresh_updated (s : Notifier) (info : RefreshInfo) :
    ∃ u : Notifier, s.onRefresh info quiet = u.answer info quiet
      ∧ u.expires = (s.requestExpires info).expires
      ∧ u.refreshTime = { info.now with sec := info.now.sec + (s.requestExpires info).expires }
      ∧ u.state = s.state ∧ u.stateStr = s.stateStr ∧ u.timer = s.timer ∧ u.callCb = s.callCb
      ∧ u.pendingNotify = s.pendingNotify := by
  have same := requestExpires_expires (s.tell (.refreshed s.refreshing s.pendingNotify)) info
  have before := requestExpires_expires s info
  have sized : ((s.tell (.refreshed s.refreshing s.pendingNotify)).requestExpires info).expires
      = (s.requestExpires info).expires := same.trans before.symm
  refine ⟨_, rfl, sized, ?_⟩
  rw [sized]
  refine ⟨rfl, ?_⟩
  unfold requestExpires
  split <;> exact ⟨rfl, rfl, rfl, rfl, rfl⟩

/-- A refresh with an expiration that the user rejects changes nothing just if it comes to the
expiration that the subscription has, at the moment from which that one counts. -/
theorem rejected_refresh_iff (reachable : s.Reachable) (open_ : s.state ≠ .terminated)
    (asked : s.callCb = true) (rejects : 300 ≤ info.stCode) :
    Untouched s (s.onRefresh info quiet) ↔
      (s.requestExpires info).expires = s.expires ∧ s.expires ≠ 0
        ∧ s.refreshTime = { info.now with sec := info.now.sec + s.expires } := by
  obtain ⟨u, answered, sized, renewed, state, stateStr, timer, called, back⟩ :=
    onRefresh_updated s info
  have pending : u.pendingNotify = none := back.trans reachable.rests.2
  rw [answered]
  by_cases zero : u.expires = 0
  · have ended := answer_terminates info pending zero
    constructor
    · intro untouched
      exact absurd (untouched.state.symm.trans ended) open_
    · rintro ⟨same, lasting, -⟩
      exact absurd (same.symm.trans (sized.symm.trans zero)) lasting
  · have kept := answer_rejected pending (called.trans asked) zero rejects
    constructor
    · intro untouched
      have same : (s.requestExpires info).expires = s.expires :=
        sized.symm.trans (kept.expires.symm.trans untouched.expires)
      refine ⟨same, fun gone => zero (sized.trans (same.trans gone)), ?_⟩
      rw [← same, ← renewed]
      exact untouched.refreshTime.symm.trans kept.refreshTime
    · rintro ⟨same, -, time⟩
      exact {
        state := kept.state.trans state
        stateStr := kept.stateStr.trans stateStr
        expires := kept.expires.trans (sized.trans same)
        refreshTime := by rw [kept.refreshTime, renewed, same, time]
        timer := kept.timer.trans timer }

/-- A subscription for 600 seconds, whose first request is answered at once. -/
def accepted : Notifier :=
  NotifierAct.execAll [.refresh { now := ⟨100, 0⟩, expires := some 600, pkgExpires := some 600 }
    [] [] [] [] []] (create true 600 ⟨100, 0⟩)

theorem accepted_reachable : accepted.Reachable := ⟨true, 600, ⟨100, 0⟩, _, rfl⟩

/-- The same expiration again, in the same moment. -/
theorem rejected_refresh_same : Untouched accepted (accepted.onRefresh
      { now := ⟨100, 0⟩, expires := some 600, pkgExpires := some 600, stCode := 403 } quiet) :=
  (rejected_refresh_iff accepted_reachable (by decide +kernel) (by decide +kernel)
    (by decide)).2 (by decide +kernel)

/-- A refresh for 300 seconds is rejected a minute later, and the expiration is now 300. -/
theorem rejected_refresh_shortens :
    ¬ ∀ (s : Notifier) (info : RefreshInfo), s.Reachable → s.state ≠ .terminated →
      s.callCb = true → (∀ expires ∈ info.expires, 0 < expires) → info.expires.isSome = true →
      300 ≤ info.stCode → Untouched s (s.onRefresh info quiet) := by
  intro untouched
  have kept := untouched accepted
    { now := ⟨160, 0⟩, expires := some 300, pkgExpires := some 600, stCode := 403 }
    accepted_reachable (by decide +kernel) (by decide +kernel) (by decide) rfl (by decide)
  have shorter : (accepted.onRefresh
      { now := ⟨160, 0⟩, expires := some 300, pkgExpires := some 600, stCode := 403 }
      quiet).expires ≠ accepted.expires := by
    decide +kernel
  exact shorter kept.expires

end Notifier

end Pjsip.SipSimple
