import Pjsip.Sip.Lifetime.Model
import Mathlib.Data.List.Nodup
import Mathlib.Tactic.Common

/-!
# A dialog keeps its accounts

What code called by the dialog may rely on, and must keep, is one invariant; a dialog that is
locked from outside stays alive under it, whatever is called in between. Every function of the
dialog is a lock, some calls and an unlock, so that one lemma about such a bracket carries the
invariant through all of them.
-/

namespace Pjsip.Sip.Lifetime

open Pjsip.Base Pjsip.Pjlib Pjsip.Sip.Dlg

/-- The transaction that an event counts out. -/
def LifeEvent.counts : LifeEvent → Option Nat
  | .countedOut tsx _ => some tsx
  | _ => none

/-- Nothing in it has to do with the end of the dialog. -/
def Quiet (log : List LifeEvent) : Prop :=
  ∀ event ∈ log, event ≠ .unlocked 0 0 ∧ event ≠ .unregistered ∧ event ≠ .destroyed ∧ event ≠ .stale

namespace Life

def Detached (s : Life) (tsx : Nat) : Prop := ∃ t, s.tsxs[tsx]? = some t ∧ t.user ≠ .dialog

/-- The transaction is terminated and no longer points to the dialog. -/
def Ended (s : Life) (tsx : Nat) : Prop :=
  ∃ t, s.tsxs[tsx]? = some t ∧ t.state = .terminated ∧ t.user ≠ .dialog

/-- The dialog is unregistered and destroyed once, at the first unlock that leaves both counters
at zero, and not touched afterwards. -/
def EndsInTime (s : Life) : Prop :=
  if s.destroyed then
    ∃ before, s.log = .destroyed :: .unregistered :: .unlocked 0 0 :: before ∧ Quiet before
  else Quiet s.log

/-- The accounts are right. -/
structure Accounted (s : Life) : Prop where
  /-- `tsx_count` is the number of transactions that point to the dialog, -/
  counted : s.dlg.tsxCount = s.attached
  /-- also whenever the usages are called. -/
  reported : ∀ tsxCount attached, .reported tsxCount attached ∈ s.log → tsxCount = attached
  /-- It is never decremented below zero -/
  positive : ∀ tsx tsxCount, .countedOut tsx tsxCount ∈ s.log → 0 < tsxCount
  /-- nor twice for one transaction. -/
  once : (s.log.filterMap LifeEvent.counts).Nodup
  /-- A transaction whose request could not be sent has been terminated and detached. -/
  ended : ∀ tsx, .sendFailed tsx ∈ s.log → s.Ended tsx
  ending : s.EndsInTime

/-- The invariant of the dialog and all that is called by it. -/
structure Good (s : Life) : Prop extends s.Accounted where
  gone : ∀ tsx ∈ s.log.filterMap LifeEvent.counts, s.Detached tsx
  /-- What is held is counted. -/
  covered : (s.held : Int) ≤ s.sessCount
  registered : s.registered = !s.destroyed
  idle : s.destroyed = true → s.sessCount = 0 ∧ s.dlg.tsxCount = 0

/-- A function of the dialog, or the caller of one, has it locked. -/
def Pinned (s : Life) : Prop := (s.held : Int) < s.sessCount

/-- Transactions stay what they have become, and no lock is lost. -/
structure Grows (s s' : Life) : Prop where
  surplus : s.sessCount - s.held ≤ s'.sessCount - s'.held
  detached : ∀ tsx, s.Detached tsx → s'.Detached tsx
  ended : ∀ (tsx : Nat) (t : DlgTsx), s.tsxs[tsx]? = some t → t.state = .terminated →
    ∃ t' : DlgTsx, s'.tsxs[tsx]? = some t' ∧ t'.state = .terminated

end Life

/-- Where `P` holds, the code keeps the invariant. -/
def Keeps (P : Life → Prop) (code : Callback) : Prop :=
  ∀ s s', s.Good → P s → code s = some s' → s'.Good ∧ s.Grows s'

abbrev Safe (code : Callback) : Prop := Keeps Life.Pinned code

namespace Life

section Growth

variable {s s' s'' : Life}

theorem Grows.refl (s : Life) : s.Grows s :=
  ⟨Int.le_refl _, fun _ => id, fun _ t here ended => ⟨t, here, ended⟩⟩

theorem Grows.trans (first : s.Grows s') (second : s'.Grows s'') : s.Grows s'' where
  surplus := Int.le_trans first.surplus second.surplus
  detached := fun tsx here => second.detached tsx (first.detached tsx here)
  ended := fun tsx t here ended => by
    obtain ⟨t', here', ended'⟩ := first.ended tsx t here ended
    exact second.ended tsx t' here' ended'

theorem Grows.same (tsxs : s'.tsxs = s.tsxs)
    (surplus : s.sessCount - s.held ≤ s'.sessCount - s'.held) : s.Grows s' where
  surplus
  detached := fun tsx here => by rwa [Detached, tsxs]
  ended := fun tsx t here ended => ⟨t, by rwa [tsxs], ended⟩

theorem Grows.ends {tsx : Nat} (grows : s.Grows s') (ended : s.Ended tsx) : s'.Ended tsx := by
  obtain ⟨t, here, ended, off⟩ := ended
  obtain ⟨t', here', ended'⟩ := grows.ended tsx t here ended
  obtain ⟨t'', here'', off'⟩ := grows.detached tsx ⟨t, here, off⟩
  rw [here'] at here''
  cases here''
  exact ⟨t', here', ended', off'⟩

theorem Grows.pinned (grows : s.Grows s') (pinned : s.Pinned) : s'.Pinned := by
  have := grows.surplus
  rw [Pinned] at *
  omega

theorem Pinned.alive (pinned : s.Pinned) (good : s.Good) : s.destroyed = false := by
  refine Bool.not_eq_true _ ▸ fun gone => ?_
  have := (good.idle gone).1
  rw [Pinned] at pinned
  omega

theorem Good.alive (good : s.Good) {tsx : Nat} {t : DlgTsx} (here : s.tsxs[tsx]? = some t)
    (user : t.user = .dialog) : s.destroyed = false := by
  refine Bool.not_eq_true _ ▸ fun gone => ?_
  have unattached := good.counted.symm.trans (good.idle gone).2
  rw [attached, List.countP_eq_zero] at unattached
  exact unattached t (List.mem_of_getElem? here) (by simpa using user)

theorem Good.quiet (good : s.Good) (alive : s.destroyed = false) : Quiet s.log := by
  have ending := good.ending
  rwa [EndsInTime, if_neg (by simp [alive])] at ending

theorem endsInTime_of_quiet (alive : s.destroyed = false) (quiet : Quiet s.log) : s.EndsInTime := by
  rwa [EndsInTime, if_neg (by simp [alive])]

end Growth

end Life

section Rules

variable {P Q : Life → Prop} {code next : Callback}

theorem Keeps.mono (weaken : ∀ s, s.Good → Q s → P s) (keeps : Keeps P code) : Keeps Q code :=
  fun s s' good q done => keeps s s' good (weaken s good q) done

theorem Life.Good.unmoved {s s' : Life} (good : s.Good) (done : some s = some s') :
    s'.Good ∧ s.Grows s' := by
  cases done
  exact ⟨good, .refl s⟩

theorem keeps_some : Keeps P some := fun _ _ good _ done => good.unmoved done

theorem Keeps.bind (first : Safe code) (second : Safe next) : Safe fun s => (code s).bind next := by
  intro s s'' good pinned done
  obtain ⟨s', taken, rest⟩ := Option.bind_eq_some_iff.1 done
  obtain ⟨good', grows⟩ := first s s' good pinned taken
  obtain ⟨good'', grows'⟩ := second s' s'' good' (grows.pinned pinned) rest
  exact ⟨good'', grows.trans grows'⟩

theorem Keeps.always (keeps : Keeps (fun _ => True) code) : Keeps P code :=
  keeps.mono fun _ _ _ => trivial

end Rules

namespace Life

section Steps

variable {s s' : Life} {code usages : Callback}

theorem touch_alive (alive : s.destroyed = false) : s.touch = s := by
  rw [touch, if_neg (by simp [alive])]

theorem Good.recount (good : s.Good) (alive : s.destroyed = false) {dlg : Dialog}
    (same : dlg.tsxCount = s.dlg.tsxCount) {sessCount : Int} {held : Nat}
    (covered : (held : Int) ≤ sessCount) : Good { s with dlg, sessCount, held } where
  counted := same.trans good.counted
  reported := good.reported
  positive := good.positive
  once := good.once
  ended := good.ended
  ending := good.ending
  gone := good.gone
  covered
  registered := good.registered
  idle := fun gone => by
    rw [alive] at gone
    cases gone

theorem Good.telling (good : s.Good) (alive : s.destroyed = false) {event : LifeEvent}
    (calm : Quiet [event]) (uncounted : ∀ tsx tsxCount, event ≠ .countedOut tsx tsxCount)
    (reported : ∀ tsxCount attached, event = .reported tsxCount attached → tsxCount = attached)
    (ended : ∀ tsx, event = .sendFailed tsx → s.Ended tsx) : (s.tell event).Good := by
  have silent : event.counts = none := by
    cases event with
    | countedOut tsx tsxCount => exact absurd rfl (uncounted tsx tsxCount)
    | _ => rfl
  have same : (event :: s.log).filterMap LifeEvent.counts = s.log.filterMap LifeEvent.counts := by
    rw [List.filterMap_cons, silent]
  refine { good with
    reported := fun tsxCount attached here => ?_
    positive := fun tsx tsxCount here => ?_
    once := ?_
    ended := fun tsx here => ?_
    ending := ?_
    gone := ?_ }
  · rcases List.mem_cons.1 here with now | before
    · exact reported _ _ now.symm
    · exact good.reported _ _ before
  · rcases List.mem_cons.1 here with now | before
    · exact absurd now.symm (uncounted _ _)
    · exact good.positive _ _ before
  · rw [tell, same]
    exact good.once
  · rcases List.mem_cons.1 here with now | before
    · exact ended tsx now.symm
    · exact good.ended tsx before
  · refine endsInTime_of_quiet alive fun e here => ?_
    rcases List.mem_cons.1 here with now | before
    · exact calm e (List.mem_singleton.2 now)
    · exact good.quiet alive e before
  · rw [tell, same]
    exact good.gone

theorem incLock_alive (alive : s.destroyed = false) :
    s.incLock = { s with sessCount := s.sessCount + 1 } := by
  rw [incLock, touch_alive alive]

theorem Good.locked (good : s.Good) (alive : s.destroyed = false) :
    s.incLock.Good ∧ s.Grows s.incLock ∧ s.incLock.Pinned := by
  have covered := good.covered
  rw [incLock_alive alive]
  refine ⟨good.recount alive rfl (by omega), .same rfl ?_, ?_⟩
  · change s.sessCount - s.held ≤ s.sessCount + 1 - s.held
    omega
  · change (s.held : Int) < s.sessCount + 1
    omega

theorem unregisterAndDestroy_idle (registered : s.registered = true) (sess : s.sessCount = 0)
    (count : s.dlg.tsxCount = 0) :
    s.unregisterAndDestroy = { s with
      registered := false, destroyed := true
      log := .destroyed :: .unregistered :: s.log } := by
  rw [unregisterAndDestroy, if_neg (not_not.2 sess), if_neg (not_not.2 count), if_pos registered]
  rfl

theorem Good.unlocked (good : s.Good) (pinned : s.Pinned) :
    s.decLock.Good ∧ s.decLock.tsxs = s.tsxs ∧ s.decLock.held = s.held
      ∧ s.decLock.sessCount = s.sessCount - 1 := by
  have alive := pinned.alive good
  have registered : s.registered = true := by
    rw [good.registered, alive]
    rfl
  rw [Pinned] at pinned
  rw [decLock, touch_alive alive]
  have quiet := good.quiet alive
  split
  · next zero =>
    -- The last one out: the dialog is unregistered and destroyed.
    obtain ⟨sess, count⟩ := zero
    change s.sessCount - 1 = 0 at sess
    change s.dlg.tsxCount = 0 at count
    rw [unregisterAndDestroy_idle (by exact registered) (by exact sess) (by exact count)]
    dsimp only [tell]
    rw [sess, count]
    refine ⟨?_, rfl, rfl, rfl⟩
    refine { good with
      reported := fun tsxCount attached here => good.reported tsxCount attached ?_
      positive := fun tsx tsxCount here => good.positive tsx tsxCount ?_
      ended := fun tsx here => good.ended tsx ?_
      ending := ⟨s.log, rfl, quiet⟩
      covered := ?_
      registered := rfl
      idle := fun _ => ⟨rfl, count⟩ }
    · simpa using here
    · simpa using here
    · simpa using here
    · change (s.held : Int) ≤ 0
      omega
  · next busy =>
    refine ⟨?_, rfl, rfl, rfl⟩
    have counted : Good { s with sessCount := s.sessCount - 1 } :=
      good.recount alive rfl (by omega)
    refine counted.telling alive ?_ (fun _ _ => nofun) (fun _ _ => nofun) (fun _ => nofun)
    intro event here
    rw [List.mem_singleton.1 here]
    refine ⟨fun same => busy ?_, nofun, nofun, nofun⟩
    injection same with sess count
    exact ⟨sess, count⟩

theorem keeps_bracket (safe : Safe code) :
    Keeps (fun s => s.destroyed = false) fun s => (code s.incLock).map decLock := by
  intro s s'' good alive done
  obtain ⟨s', taken, rfl⟩ := Option.map_eq_some_iff.1 done
  obtain ⟨locked, grown, pinned⟩ := good.locked alive
  obtain ⟨good', grows⟩ := safe _ _ locked pinned taken
  obtain ⟨good'', tsxs, held, sess⟩ := good'.unlocked (grows.pinned pinned)
  have whole := grown.trans grows
  refine ⟨good'', ⟨?_, fun tsx here => ?_, fun tsx t here ended => ?_⟩⟩
  · have surplus := grows.surplus
    rw [incLock_alive alive] at surplus
    change s.sessCount + 1 - s.held ≤ _ at surplus
    omega
  · rw [Detached, tsxs]
    exact whole.detached tsx here
  · rw [tsxs]
    exact whole.ended tsx t here ended

theorem callUsages_safe (safe : Safe usages) : Safe fun s => s.callUsages usages := by
  intro s s' good pinned done
  have alive := pinned.alive good
  have told : (s.tell (.reported s.dlg.tsxCount s.attached)).Good := by
    refine good.telling alive ?_ (fun _ _ => nofun) (fun _ _ same => ?_) (fun _ => nofun)
    · intro event here
      rw [List.mem_singleton.1 here]
      exact ⟨nofun, nofun, nofun, nofun⟩
    · injection same with count attached
      rw [← count, ← attached]
      exact good.counted
  have start : s.Grows (s.tell (.reported s.dlg.tsxCount s.attached)) :=
    .same rfl (Int.le_refl _)
  obtain ⟨good', grows⟩ := safe _ s' told pinned done
  exact ⟨good', start.trans grows⟩

end Steps

section Transactions

variable {s s' : Life} {tsx : Nat} {t t' : DlgTsx} {response usages : Callback}

/-- The transaction `tsx` becomes `t`. -/
def become (s : Life) (tsx : Nat) (t : DlgTsx) : Life := { s with tsxs := s.tsxs.set tsx t }

theorem become_this (here : s.tsxs[tsx]? = some t) (t' : DlgTsx) :
    (s.become tsx t').tsxs[tsx]? = some t' := by
  obtain ⟨bound, -⟩ := List.getElem?_eq_some_iff.1 here
  rw [become, List.getElem?_set_self bound]

theorem become_other {other : Nat} (differ : other ≠ tsx) :
    (s.become tsx t').tsxs[other]? = s.tsxs[other]? := by
  rw [become, List.getElem?_set_ne differ.symm]

theorem attached_become (here : s.tsxs[tsx]? = some t) (t' : DlgTsx) :
    (s.become tsx t').attached + (if t.user = .dialog then 1 else 0) =
      s.attached + if t'.user = .dialog then 1 else 0 := by
  obtain ⟨bound, this⟩ := List.getElem?_eq_some_iff.1 here
  have least := List.boole_getElem_le_countP (p := fun t : DlgTsx => t.user = .dialog) bound
  rw [attached, attached, become, List.countP_set bound]
  simp only [this, decide_eq_true_eq] at least ⊢
  omega

theorem become_grows (here : s.tsxs[tsx]? = some t) (off : t.user ≠ .dialog → t'.user ≠ .dialog)
    (ended : t.state = .terminated → t'.state = .terminated) : s.Grows (s.become tsx t') where
  surplus := Int.le_refl _
  detached := fun other away => by
    obtain ⟨x, there, user⟩ := away
    by_cases same : other = tsx
    · rw [same] at there ⊢
      rw [here] at there
      cases there
      exact ⟨t', become_this here t', off user⟩
    · exact ⟨x, by rwa [become_other same], user⟩
  ended := fun other x there beyond => by
    by_cases same : other = tsx
    · rw [same] at there ⊢
      rw [here] at there
      cases there
      exact ⟨t', become_this here t', ended beyond⟩
    · exact ⟨x, by rwa [become_other same], beyond⟩

theorem Good.become (good : s.Good) (here : s.tsxs[tsx]? = some t) (user : t'.user = t.user)
    (ended : t.state = .terminated → t'.state = .terminated) : (s.become tsx t').Good := by
  have grows := become_grows here (fun off => user ▸ off) ended
  have same := attached_become here t'
  rw [user] at same
  exact { good with
    counted := good.counted.trans (by omega)
    ended := fun other failed => grows.ends (good.ended other failed)
    ending := good.ending
    gone := fun other counted => grows.detached other (good.gone other counted) }

theorem countOut_attached (here : s.tsxs[tsx]? = some t) (beyond : t.state = .terminated)
    (user : t.user = .dialog) :
    s.countOut tsx = { s.become tsx { t with user := .null } with
      dlg := s.dlg.tsxTerminated
      log := .countedOut tsx s.dlg.tsxCount :: s.log } := by
  rw [countOut, here]
  exact if_pos ⟨beyond, user⟩

theorem countOut_else (here : s.tsxs[tsx]? = some t)
    (otherwise : ¬ (t.state = .terminated ∧ t.user = .dialog)) : s.countOut tsx = s := by
  rw [countOut, here]
  exact if_neg otherwise

theorem Good.countingOut (good : s.Good) (tsx : Nat) :
    (s.countOut tsx).Good ∧ s.Grows (s.countOut tsx) := by
  cases here : s.tsxs[tsx]? with
  | none =>
    have eq : s.countOut tsx = s := by rw [countOut, here]
    rw [eq]
    exact ⟨good, .refl s⟩
  | some t =>
  by_cases beyond : t.state = .terminated ∧ t.user = .dialog
  · obtain ⟨beyond, user⟩ := beyond
    have alive := good.alive here user
    have grows : s.Grows (s.become tsx { t with user := .null }) :=
      become_grows here (fun off => absurd user off) id
    have counted := attached_become here { t with user := .null }
    rw [if_pos user, if_neg nofun, ← good.counted] at counted
    have fresh : tsx ∉ s.log.filterMap LifeEvent.counts := fun before => by
      obtain ⟨x, there, off⟩ := good.gone tsx before
      rw [here] at there
      cases there
      exact off user
    rw [countOut_attached here beyond user]
    have off : (s.become tsx { t with user := .null }).Detached tsx :=
      ⟨_, become_this here _, nofun⟩
    refine ⟨?_, { grows with }⟩
    refine { good with
      counted := ?_
      reported := fun tsxCount attached there => good.reported tsxCount attached ?_
      positive := fun other tsxCount there => ?_
      once := ?_
      ended := fun other failed => grows.ends (good.ended other ?_)
      ending := endsInTime_of_quiet alive fun event there => ?_
      gone := fun other there => ?_
      idle := fun gone => ?_ }
    · change s.dlg.tsxCount - 1 = (s.become tsx { t with user := .null }).attached
      omega
    · simpa using there
    · rcases List.mem_cons.1 there with now | before
      · injection now with same count
        omega
      · exact good.positive other tsxCount before
    · exact List.nodup_cons.2 ⟨fresh, good.once⟩
    · simpa using failed
    · rcases List.mem_cons.1 there with rfl | before
      · exact ⟨nofun, nofun, nofun, nofun⟩
      · exact good.quiet alive event before
    · rcases List.mem_cons.1 there with rfl | before
      · exact off
      · exact grows.detached other (good.gone other before)
    · change s.destroyed = true at gone
      rw [alive] at gone
      cases gone
  · rw [countOut_else here beyond]
    exact ⟨good, .refl s⟩

theorem countOut_ends (here : s.tsxs[tsx]? = some t) (beyond : t.state = .terminated) :
    (s.countOut tsx).Ended tsx := by
  by_cases user : t.user = .dialog
  · rw [countOut_attached here beyond user]
    exact ⟨_, become_this here _, beyond, nofun⟩
  · rw [countOut_else here (fun both => user both.2)]
    exact ⟨t, here, beyond, user⟩

end Transactions

section Notices

variable {s s' : Life} {tsx : Nat} {t : DlgTsx} {usages : Callback}

theorem attached_some (attached : (s.tsxs[tsx]?).any (·.user = .dialog)) :
    ∃ t, s.tsxs[tsx]? = some t ∧ t.user = .dialog := by
  cases here : s.tsxs[tsx]? with
  | none => simp [here] at attached
  | some t => exact ⟨t, rfl, by simpa [here] using attached⟩

theorem countingOut_safe (safe : Safe usages) (tsx : Nat) :
    Safe fun s => (s.callUsages usages).map (·.countOut tsx) := by
  intro s s'' good pinned done
  obtain ⟨s', taken, rfl⟩ := Option.map_eq_some_iff.1 done
  obtain ⟨good', grows⟩ := callUsages_safe safe s s' good pinned taken
  obtain ⟨good'', grows'⟩ := good'.countingOut tsx
  exact ⟨good'', grows.trans grows'⟩

theorem dlgOnTsxState_keeps (safe : Safe usages) (tsx : Nat) :
    Keeps (fun s => s.destroyed = false) fun s => s.dlgOnTsxState tsx usages := by
  intro s s' good alive done
  refine keeps_bracket (countingOut_safe safe tsx) s s' good alive ?_
  dsimp only
  rwa [Option.map_map]

theorem onTsxState_keeps (safe : Safe usages) (tsx : Nat) :
    Keeps (fun _ => True) fun s => s.onTsxState tsx usages := by
  intro s s' good _ done
  dsimp only [onTsxState] at done
  split at done
  · next attached =>
    obtain ⟨t, here, user⟩ := attached_some attached
    exact dlgOnTsxState_keeps safe tsx s s' good (good.alive here user) done
  · exact good.unmoved done

theorem onRxResponse_keeps (safe : Safe usages) (tsx : Nat) :
    Keeps (fun _ => True) fun s => s.onRxResponse tsx usages := by
  intro s s' good _ done
  dsimp only [onRxResponse] at done
  split at done
  · next attached =>
    obtain ⟨t, here, user⟩ := attached_some attached
    exact keeps_bracket (callUsages_safe safe) s s' good (good.alive here user) done
  · exact good.unmoved done

theorem onTsxState_ends (safe : Safe usages) (good : s.Good) (here : s.tsxs[tsx]? = some t)
    (beyond : t.state = .terminated) (done : s.onTsxState tsx usages = some s') : s'.Ended tsx := by
  rw [onTsxState] at done
  split at done
  · next attached =>
    obtain ⟨x, there, user⟩ := attached_some attached
    rw [here] at there
    cases there
    rw [dlgOnTsxState, Option.map_eq_some_iff] at done
    obtain ⟨s₁, taken, rfl⟩ := done
    obtain ⟨locked, grown, pinned⟩ := good.locked (good.alive here user)
    obtain ⟨good₁, grows⟩ := callUsages_safe safe _ _ locked pinned taken
    obtain ⟨t₁, here₁, over₁⟩ := (grown.trans grows).ended tsx t here beyond
    obtain ⟨good₂, grows₂⟩ := good₁.countingOut tsx
    have pinned₂ := grows₂.pinned (grows.pinned pinned)
    rw [Ended, (good₂.unlocked pinned₂).2.1]
    exact countOut_ends here₁ over₁
  · next detached =>
    cases done
    exact ⟨t, here, beyond, fun user => detached (by simp [here, user])⟩

theorem setState_keeps (safe : Safe usages) {response : Option Callback}
    (safe' : ∀ code ∈ response, Safe code) (tsx : Nat) (state : TsxState) (code : Nat) :
    Keeps (fun _ => True) fun s => s.setState tsx state code response usages := by
  intro s s'' good _ done
  dsimp only [setState] at done
  cases here : s.tsxs[tsx]? with
  | none =>
    rw [here] at done
    exact good.unmoved done
  | some t =>
  rw [here] at done
  dsimp only at done
  split at done
  · next goes =>
    have unended : t.state ≠ .terminated := fun beyond => by
      rw [beyond] at goes
      exact absurd goes.1 (Nat.lt_irrefl _)
    have changed : (s.become tsx { t with state, statusCode := code }).Good :=
      good.become here rfl fun beyond => absurd beyond unended
    have grown : s.Grows (s.become tsx { t with state, statusCode := code }) :=
      become_grows here id fun beyond => absurd beyond unended
    obtain ⟨s', taken, rest⟩ := Option.bind_eq_some_iff.1 done
    have answered : s'.Good ∧ (s.become tsx { t with state, statusCode := code }).Grows s' := by
      cases response with
      | none => exact changed.unmoved taken
      | some response => exact onRxResponse_keeps (safe' _ rfl) tsx _ _ changed trivial taken
    obtain ⟨good'', grows''⟩ := onTsxState_keeps safe tsx s' s'' answered.1 trivial rest
    exact ⟨good'', (grown.trans answered.2).trans grows''⟩
  · exact good.unmoved done

theorem setState_none_keeps (safe : Safe usages) (tsx : Nat) (state : TsxState) (code : Nat) :
    Keeps (fun _ => True) fun s => s.setState tsx state code none usages :=
  setState_keeps safe (fun _ there => by cases there) tsx state code

theorem setState_terminated_ends (safe : Safe usages) (good : s.Good)
    (here : s.tsxs[tsx]? = some t) (low : t.state.rank < TsxState.terminated.rank) {code : Nat}
    (done : s.setState tsx .terminated code none usages = some s') : s'.Ended tsx := by
  rw [setState, here] at done
  dsimp only at done
  rw [if_pos ⟨low, Nat.le_of_lt low, Nat.le_refl _⟩] at done
  have unended : t.state ≠ .terminated := fun beyond => by
    rw [beyond] at low
    exact absurd low (Nat.lt_irrefl _)
  have changed : (s.become tsx { t with state := .terminated, statusCode := code }).Good :=
    good.become here rfl fun beyond => absurd beyond unended
  exact onTsxState_ends safe changed (become_this here _) rfl done

theorem tsxTerminate_keeps (safe : Safe usages) (tsx code : Nat) :
    Keeps (fun _ => True) fun s => s.tsxTerminate tsx code usages := by
  intro s s' good _ done
  dsimp only [tsxTerminate] at done
  split at done
  · exact good.unmoved done
  · exact setState_none_keeps safe tsx .terminated code s s' good trivial done

end Notices

end Life

end Pjsip.Sip.Lifetime
