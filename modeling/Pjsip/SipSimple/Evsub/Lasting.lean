import Pjsip.Base.Script
import Pjsip.SipSimple.Evsub.Model

/-!
# Terminated subscriptions

What is to hold of a subscription that has been terminated, when the steps of a run do not stand
in its way, and the invariant from which it follows.
-/

namespace Pjsip.SipSimple

open Pjsip.Base Pjsip.Pjlib Pjsip.Sip

namespace EvEvent

/-- What is to hold of a step of the subscription: nothing follows Terminated, no timer is
scheduled in it, and it is destroyed only there, with nothing pending. -/
def Lasting : EvEvent → Prop
  | .wrote old new => old = .terminated → new = .terminated
  | .armed state => state ≠ .terminated
  | .destroyed state pending refreshing => state = .terminated ∧ pending = 0 ∧ refreshing = 0
  | _ => True

/-- The step does not meet a subscription that has been terminated meanwhile, unless the step
terminates it itself, and a transaction does not end while it is being handled, nor the last one
while the user is told of the termination. -/
def Careful : EvEvent → Prop
  | .notifySent state dst => state = .terminated → dst = .terminated
  | .subscribed state seconds | .extended state seconds | .timeoutSet state seconds =>
    seconds ≠ expiresNotSpecified → state ≠ .terminated
  | .notified state new => state = .terminated → new = .terminated
  | .rejected state => state ≠ .terminated
  | .refused state old => state = .terminated → old = .terminated
  | .ended busy => busy = false
  | .countedOut pendingTsx terminating => pendingTsx = 0 → terminating = 0
  | _ => True

def isDestroyed : EvEvent → Bool
  | .destroyed _ _ _ => true
  | _ => false

instance : DecidablePred Lasting := fun event => by
  cases event <;> unfold Lasting <;> infer_instance

instance : DecidablePred Careful := fun event => by
  cases event <;> unfold Careful <;> infer_instance

end EvEvent

namespace Evsub

def Careful (s : Evsub) : Prop := ∀ event ∈ s.log, event.Careful

/-- It is time for the subscription to be destroyed. -/
def Due (s : Evsub) : Prop :=
  s.state = .terminated ∧ ∀ t ∈ s.tsxs, t.attached = true → t.state = .terminated

instance : DecidablePred Careful := fun _ => inferInstanceAs (Decidable (∀ _ ∈ _, _))

instance : DecidablePred Due := fun _ => inferInstanceAs (Decidable (_ ∧ _))

def destructions (s : Evsub) : Nat := s.log.countP EvEvent.isDestroyed

/-- Termination lasts, and leads to one destruction, as soon as nothing is pending. -/
structure Lasts (s : Evsub) : Prop where
  steps : ∀ event ∈ s.log, event.Lasting
  destroyed : s.destructions = if s.Due then 1 else 0

/-- What holds between any two steps, while others are being executed. -/
structure Good (s : Evsub) : Prop where
  steps : ∀ event ∈ s.log, event.Lasting
  counted : s.pendingTsx = s.pendings
  destroyed : s.destructions = if s.listed then 0 else 1
  gone : s.listed = false → s.state = .terminated ∧ s.pendingTsx = 0 ∧ s.terminating = 0
  due : s.state = .terminated → s.pendingTsx = 0 → s.listed = false ∨ 0 < s.terminating
  told : 0 < s.terminating → s.state = .terminated ∧ s.terminating = 1
  busy : ∀ tsx ∈ s.handling, ∃ t, s.tsxs[tsx]? = some t ∧ t.attached = true ∧ t.finished = false
  past : ∀ t ∈ s.tsxs, t.finished = true → t.attached = true ∧ t.state = .terminated
  ended : ∀ (tsx : Nat) (t : EvTsx), s.tsxs[tsx]? = some t → t.attached = true →
    t.state = .terminated → t.finished = true ∨ tsx ∈ s.handling
  calling : s.callingOnRxRefresh = true → 0 < s.refreshing
  inside : s.handling = [] → s.refreshing = 0

/-- What a script leaves as it was. -/
structure Kept (s s' : Evsub) : Prop where
  state : s.state = .terminated → s'.state = .terminated
  terminating : s'.terminating = s.terminating
  refreshing : s'.refreshing = s.refreshing
  handling : s'.handling = s.handling
  /-- A transaction does not end while it is being handled. -/
  handled : ∀ tsx ∈ s.handling, ∀ t', s'.tsxs[tsx]? = some t' → t'.state = .terminated →
    ∃ t, s.tsxs[tsx]? = some t ∧ t.state = .terminated

theorem Kept.trans {s s' s'' : Evsub} (first : s.Kept s') (second : s'.Kept s'') : s.Kept s'' where
  state terminated := second.state (first.state terminated)
  terminating := second.terminating.trans first.terminating
  refreshing := second.refreshing.trans first.refreshing
  handling := second.handling.trans first.handling
  handled tsx mem t'' here finished := by
    obtain ⟨t', here', finished'⟩ := second.handled tsx (first.handling ▸ mem) t'' here finished
    exact first.handled tsx mem t' here' finished'

/-- The steps are to be careful, and then the invariant is kept. -/
def discipline : Discipline Evsub EvEvent where
  log := log
  careful := EvEvent.Careful
  always _ _ := True
  good := Good
  kept := Kept
  always_trans _ _ := trivial
  kept_trans := Kept.trans

/-- The subscription gets from one state to another, provided that `P`. -/
abbrev Leads (P : Prop) (s s' : Evsub) : Prop := discipline.Leads P s s'

abbrev Safe (script : Script) : Prop := discipline.Safe script

variable {P Q : Prop} {s s' s'' : Evsub}

theorem Careful.suffix (careful : s'.Careful) (adds : s.log <:+ s'.log) : s.Careful :=
  Discipline.Careful.suffix (D := discipline) careful adds

/-- What the invariant is about. -/
def core (s : Evsub) :=
  (s.log, s.state, s.pendingTsx, s.listed, s.terminating, s.refreshing, s.handling, s.tsxs,
    s.callingOnRxRefresh)

theorem same_leads (same : s'.core = s.core) : Leads P s s' := by
  simp only [core, Prod.mk.injEq] at same
  obtain ⟨log, state, pendingTsx, listed, terminating, refreshing, handling, tsxs, calling⟩ := same
  refine ⟨⟨⟨[], log.symm⟩, trivial⟩, fun _ good _ => ⟨?_, ?_⟩⟩
  · exact {
      steps := log ▸ good.steps
      counted := by rw [pendingTsx, pendings, tsxs]; exact good.counted
      destroyed := by rw [destructions, log, listed]; exact good.destroyed
      gone := by rw [listed, state, pendingTsx, terminating]; exact good.gone
      due := by rw [listed, state, pendingTsx, terminating]; exact good.due
      told := by rw [state, terminating]; exact good.told
      busy := by rw [handling, tsxs]; exact good.busy
      past := by rw [tsxs]; exact good.past
      ended := by rw [handling, tsxs]; exact good.ended
      calling := by rw [calling, refreshing]; exact good.calling
      inside := by rw [handling, refreshing]; exact good.inside }
  · exact ⟨state ▸ id, terminating, refreshing, handling,
      fun _ _ t' here finished => ⟨t', tsxs ▸ here, finished⟩⟩

theorem refl_leads : Leads P s s := same_leads rfl

theorem tell_leads (event : EvEvent) (lasting : event.Lasting)
    (alive : event.isDestroyed = false) : Leads P s (s.tell event) := by
  refine ⟨⟨⟨[event], rfl⟩, trivial⟩, fun _ good _ => ⟨{ good with
    steps := ?_
    destroyed := ?_ }, ⟨id, rfl, rfl, rfl, fun _ _ t' here finished => ⟨t', here, finished⟩⟩⟩⟩
  · exact List.forall_mem_cons.2 ⟨lasting, good.steps⟩
  · show List.countP _ (event :: s.log) = _
    rw [List.countP_cons_of_neg (by simp [alive])]
    exact good.destroyed

theorem write_leads {state : EvsubState} :
    Leads (s.state = .terminated ↔ state = .terminated) s (s.write state) := by
  refine ⟨⟨⟨[_], rfl⟩, trivial⟩, fun careful good same => ?_⟩
  obtain ⟨good', kept⟩ := (tell_leads (P := True) (.wrote s.state state) same.1 rfl).2
    careful good trivial
  refine ⟨{ good' with
    gone := fun gone => ?_
    due := fun terminated => good.due (same.2 terminated)
    told := fun told => ?_ }, { kept with state := same.1 }⟩
  · obtain ⟨terminated, rest⟩ := good.gone gone
    exact ⟨same.1 terminated, rest⟩
  · obtain ⟨terminated, rest⟩ := good.told told
    exact ⟨same.1 terminated, rest⟩

theorem setTimer_leads {id : TimerType} {seconds : Nat} :
    Leads (seconds ≠ expiresNotSpecified → s.state ≠ .terminated) s (s.setTimer id seconds) := by
  unfold setTimer
  split
  · next specified =>
    refine ⟨⟨⟨[_], rfl⟩, trivial⟩, fun careful good open_ => ?_⟩
    have told := tell_leads (s := s) (P := True) (.armed s.state) (open_ specified) rfl
    have rest : Leads True (s.tell (.armed s.state))
        { s.tell (.armed s.state) with timer := some id } := same_leads rfl
    exact (told.trans rest).2 careful good trivial
  · exact same_leads rfl

theorem setTimer_open {id : TimerType} {seconds : Nat} (open_ : s.state ≠ .terminated) :
    Leads P s (s.setTimer id seconds) :=
  setTimer_leads.weaken fun _ _ => open_

theorem tell_then (event : EvEvent) (lasting : event.Lasting) (alive : event.isDestroyed = false)
    (asks : P → event.Careful → Q) (rest : Leads Q (s.tell event) s') : Leads P s s' :=
  (tell_leads event lasting alive).informed List.mem_cons_self asks rest

theorem Good.idle (good : s.Good) (nonePending : s.pendingTsx = 0) : s.handling = [] := by
  cases handling : s.handling with
  | nil => rfl
  | cons tsx rest =>
    obtain ⟨t, here, attached, fresh⟩ := good.busy tsx (handling ▸ List.mem_cons_self)
    have pending : 0 < s.pendings :=
      List.countP_pos_iff.2 ⟨t, List.mem_of_getElem? here, by simp [EvTsx.pending, attached, fresh]⟩
    have := good.counted
    omega

/-- The user is told that the subscription is terminated, and this leads from where the state
has been written to `mid`. -/
theorem terminated_bracket (open_ : s.state ≠ .terminated)
    (inner : Leads True s.enterTerminated s') : Leads P s s'.leaveTerminated := by
  have adds : s'.log <:+ s'.leaveTerminated.log := by
    dsimp only [leaveTerminated]
    split
    · exact ⟨[_], rfl⟩
    · exact List.suffix_rfl
  refine ⟨⟨(List.suffix_cons _ _).trans (inner.1.1.trans adds), trivial⟩, fun careful good _ => ?_⟩
  have untold : s.terminating = 0 :=
    Nat.eq_zero_of_not_pos fun told => open_ (good.told told).1
  have listed : s.listed = true := by
    by_contra gone
    exact open_ (good.gone (Bool.eq_false_iff.2 gone)).1
  have entered : s.enterTerminated.Good := {
    good with
    steps := List.forall_mem_cons.2 ⟨fun _ => rfl, good.steps⟩
    destroyed := by
      show List.countP _ (_ :: s.log) = _
      rw [List.countP_cons_of_neg (by simp [EvEvent.isDestroyed])]
      exact good.destroyed
    gone := fun gone => absurd (listed.symm.trans gone) (by decide)
    due := fun _ _ => .inr (Nat.succ_pos _)
    told := fun _ => ⟨rfl, congrArg (· + 1) untold⟩ }
  obtain ⟨good', kept⟩ := inner.2 (careful.suffix adds) entered trivial
  have one : s'.terminating = 1 := kept.terminating.trans (congrArg (· + 1) untold)
  have terminated : s'.state = .terminated := kept.state rfl
  have listed' : s'.listed = true := by
    by_contra gone
    have := (good'.gone (Bool.eq_false_iff.2 gone)).2.2
    omega
  have kept' : s.Kept s'.leaveTerminated := by
    dsimp only [leaveTerminated]
    split
    all_goals
      refine ⟨fun _ => terminated, ?_, kept.refreshing, kept.handling, kept.handled⟩
      show s'.terminating - 1 = s.terminating
      omega
  refine ⟨?_, kept'⟩
  dsimp only [leaveTerminated]
  split
  · next last =>
    have idle : s'.handling = [] := good'.idle last.1
    have pendings : s'.pendings = 0 := by
      have := good'.counted
      have : s'.pendingTsx = 0 := last.1
      omega
    exact { good' with
      steps := List.forall_mem_cons.2 ⟨⟨terminated, pendings, good'.inside idle⟩, good'.steps⟩
      destroyed := by
        show List.countP _ (_ :: s'.log) = _
        rw [List.countP_cons_of_pos (by simp [EvEvent.isDestroyed])]
        have counts := good'.destroyed
        rw [listed'] at counts
        exact congrArg (· + 1) counts
      gone := fun _ => ⟨terminated, last.1, by show s'.terminating - 1 = 0; omega⟩
      due := fun _ _ => .inl rfl
      told := fun told => absurd told (by show ¬ 0 < s'.terminating - 1; omega) }
  · next more =>
    exact { good' with
      gone := fun gone => absurd (listed'.symm.trans gone) (by decide)
      due := fun _ counts => by
        refine absurd ⟨counts, ?_⟩ more
        -- A refresh that is being answered is pending.
        by_contra calling
        have := good'.calling (Bool.not_eq_false _ ▸ calling)
        have := good'.inside (good'.idle counts)
        omega
      told := fun told => absurd told (by show ¬ 0 < s'.terminating - 1; omega) }

theorem refresh_bracket (inner : Leads True s.enterRefresh s') :
    Leads (s.handling ≠ []) s s'.leaveRefresh := by
  refine ⟨⟨inner.1.1, trivial⟩, fun careful good handled => ?_⟩
  have entered : s.enterRefresh.Good := {
    good with
    calling := fun _ => Nat.succ_pos _
    inside := fun idle => absurd idle handled }
  obtain ⟨good', kept⟩ := inner.2 careful entered trivial
  have more : s'.refreshing = s.refreshing + 1 := kept.refreshing
  have handling : s'.handling = s.handling := kept.handling
  refine ⟨{ good' with
    calling := nofun
    inside := fun idle => absurd (handling.symm.trans idle) handled }, { kept with
    refreshing := ?_ }⟩
  show s'.refreshing - 1 = s.refreshing
  omega

end Evsub

end Pjsip.SipSimple
