import Pjsip.Base.Script
import Pjsip.SipSimple.Notifier.Model

/-!
# Each NOTIFY with its own state

What is to hold of the requests that a server subscription sends, when each is created, passed
and applied in its turn, and the invariant from which it follows.
-/

namespace Pjsip.SipSimple

open Pjsip.Base Pjsip.Pjlib Pjsip.Sip

namespace NotifierEvent

/-- A NOTIFY is created for a state that a header can carry; it is passed once, while no other
one waits for the response to a refresh; when it is applied, the state to be set is its own; a
refresh comes in when none is being answered; and the response to it can be created if a NOTIFY waits
for it. -/
def Careful : NotifierEvent → Prop
  | .created state stateStr =>
    state ≠ .null ∧ state ≠ .sent ∧ (state = .unknown → stateStr.getD [] ≠ [])
  | .passed id refreshing calling before waiting =>
    id ∉ before ∧ waiting = none ∧ (0 < refreshing → calling = true)
  | .applying id owner => owner = some id
  | .refreshed refreshing pendingNotify => refreshing = 0 ∧ pendingNotify = none
  | .responded made pendingNotify => made = true ∨ pendingNotify = none
  | _ => True

/-- What is to hold of a step: nothing is handed to the dialog while a refresh is being answered,
and nothing that has been kept back before the response; and a NOTIFY that has been sent has left
the state that its header carries. -/
def Right (notifies : List NotifyRequest) : NotifierEvent → Prop
  | .transmitted _ refreshing after => refreshing = 0 ∧ after ≠ some false
  | .sent id state stateStr =>
    ∃ n, notifies[id]? = some n ∧ state = n.state ∧ subStateText stateStr state = n.subState
  | .asserted => False
  | _ => True

instance : DecidablePred Careful := fun event => by
  cases event <;> unfold Careful <;> infer_instance

theorem Right.grows {notifies : List NotifyRequest} {event : NotifierEvent}
    (right : event.Right notifies) (n : NotifyRequest) : event.Right (notifies ++ [n]) := by
  cases event with
  | sent id state stateStr =>
    obtain ⟨n', there, rest⟩ := right
    refine ⟨n', ?_, rest⟩
    rw [List.getElem?_append_left (List.getElem?_eq_some_iff.1 there).1]
    exact there
  | _ => exact right

end NotifierEvent

namespace Notifier

def Careful (s : Notifier) : Prop := ∀ event ∈ s.log, event.Careful

instance : DecidablePred Careful := fun _ => inferInstanceAs (Decidable (∀ _ ∈ _, _))

/-- The NOTIFY requests that have been passed are those that have been transmitted, in this order
and each once, and all steps have been right. -/
structure Faithful (s : Notifier) : Prop where
  order : s.transmitted = s.passed
  once : s.passed.Nodup
  right : ∀ event ∈ s.log, event.Right s.notifies

/-- A state that waits to be set is the one of this NOTIFY, and its text. -/
structure Owned (notifies : List NotifyRequest) (state : EvsubState) (stateStr : List UInt8)
    (id : Nat) : Prop where
  made : ∃ n, notifies[id]? = some n ∧ n.state = state ∧ n.subState = subStateText stateStr state
  real : state ≠ .null
  named : state = .unknown → stateStr ≠ []

/-- What holds between any two steps, while others are being executed. -/
structure Good (s : Notifier) : Prop where
  right : ∀ event ∈ s.log, event.Right s.notifies
  order : s.passed = s.waiting.toList ++ s.transmitted
  once : s.passed.Nodup
  calling : s.callingOnRxRefresh = true → 0 < s.refreshing
  back : ∀ id, s.waiting = some id → s.pendingNotify = some id
  owns : ∀ id, s.owner = some id → Owned s.notifies s.dstState s.dstStateStr id

/-- What a script leaves as it was. -/
structure Kept (s s' : Notifier) : Prop where
  refreshing : s'.refreshing = s.refreshing
  calling : s'.callingOnRxRefresh = s.callingOnRxRefresh
  /-- A NOTIFY is kept back only while a refresh is being answered. -/
  idle : s.callingOnRxRefresh = false → s'.waiting = s.waiting ∧ s'.pendingNotify = s.pendingNotify
  answered : s.callingOnRxRefresh = false → s.pendingNotify ≠ none → s'.responded = s.responded
  synced : s.pendingNotify = s.waiting → s'.pendingNotify = s'.waiting

theorem Kept.trans {s s' s'' : Notifier} (first : s.Kept s') (second : s'.Kept s'') :
    s.Kept s'' where
  refreshing := second.refreshing.trans first.refreshing
  calling := second.calling.trans first.calling
  idle off := by
    obtain ⟨waiting, pending⟩ := first.idle off
    obtain ⟨waiting', pending'⟩ := second.idle (first.calling.trans off)
    exact ⟨waiting'.trans waiting, pending'.trans pending⟩
  answered off waits := (second.answered (first.calling.trans off)
    ((first.idle off).2 ▸ waits)).trans (first.answered off waits)
  synced same := second.synced (first.synced same)

/-- What a script leaves as it was in any case, when no refresh is being answered. -/
structure Rests (s s' : Notifier) : Prop where
  calling : s.callingOnRxRefresh = false → s'.callingOnRxRefresh = false
  pending : s.callingOnRxRefresh = false → s.pendingNotify = none → s'.pendingNotify = none

theorem Rests.trans {s s' s'' : Notifier} (first : s.Rests s') (second : s'.Rests s'') :
    s.Rests s'' where
  calling off := second.calling (first.calling off)
  pending off idle := second.pending (first.calling off) (first.pending off idle)

theorem Rests.same {s s' : Notifier} (calling : s'.callingOnRxRefresh = s.callingOnRxRefresh)
    (pending : s'.pendingNotify = s.pendingNotify) : s.Rests s' :=
  ⟨calling.trans, fun _ => pending.trans⟩

/-- The steps are to be careful, and then the invariant is kept. -/
def discipline : Discipline Notifier NotifierEvent where
  log := log
  careful := NotifierEvent.Careful
  always := Rests
  good := Good
  kept := Kept
  always_trans := Rests.trans
  kept_trans := Kept.trans

/-- The subscription gets from one state to another, provided that `P`. -/
abbrev Leads (P : Prop) (s s' : Notifier) : Prop := discipline.Leads P s s'

abbrev Safe (script : Script) : Prop := discipline.Safe script

variable {P Q : Prop} {s s' s'' : Notifier} {stateCb sending : Script}

/-- What the invariant is about. -/
def core (s : Notifier) :=
  (s.log, s.notifies, s.waiting, s.pendingNotify, s.callingOnRxRefresh, s.refreshing, s.owner,
    s.dstState, s.dstStateStr, s.responded)

theorem same_leads (same : s'.core = s.core) : Leads P s s' := by
  simp only [core, Prod.mk.injEq] at same
  obtain ⟨log, notifies, waiting, pending, calling, refreshing, owner, dst, dstStr, responded⟩ := same
  refine ⟨⟨⟨[], log.symm⟩, .same calling pending⟩, fun _ good _ => ⟨?_, ?_⟩⟩
  · exact {
      right := by rw [log, notifies]; exact good.right
      order := by rw [passed, transmitted, log, waiting]; exact good.order
      once := by rw [passed, log]; exact good.once
      calling := by rw [calling, refreshing]; exact good.calling
      back := by rw [waiting, pending]; exact good.back
      owns := by rw [owner, notifies, dst, dstStr]; exact good.owns }
  · exact ⟨refreshing, calling, fun _ => ⟨waiting, pending⟩, fun _ _ => responded, fun same => by
      rw [waiting, pending]; exact same⟩

theorem refl_leads : Leads P s s := same_leads rfl

theorem tell_leads (event : NotifierEvent) (passes : event.passes = none)
    (transmits : event.transmits = none) : Leads (event.Right s.notifies) s (s.tell event) := by
  refine ⟨⟨⟨[event], rfl⟩, .same rfl rfl⟩, fun _ good right => ⟨{ good with
    right := ?_
    order := ?_
    once := ?_ }, ⟨rfl, rfl, fun _ => ⟨rfl, rfl⟩, fun _ _ => rfl, id⟩⟩⟩
  · exact List.forall_mem_cons.2 ⟨right, good.right⟩
  · show List.filterMap _ (event :: s.log) = _ ++ List.filterMap _ (event :: s.log)
    rw [List.filterMap_cons_none passes, List.filterMap_cons_none transmits]
    exact good.order
  · show (List.filterMap _ (event :: s.log)).Nodup
    rw [List.filterMap_cons_none passes]
    exact good.once

theorem tellState_leads (safe : Safe stateCb) (s : Notifier) (old : EvsubState) :
    Leads P s (s.tellState old stateCb) := by
  dsimp only [tellState]
  have told : Leads P s (if s.onEvsubState ∧ s.callCb then stateCb s else s) := by
    split
    · exact safe.leads
    · exact refl_leads
  generalize (if s.onEvsubState ∧ s.callCb then stateCb s else s) = s₁ at told ⊢
  split
  · exact told.trans (same_leads rfl)
  · exact told

variable {state : EvsubState}

theorem setState_leads (safe : Safe stateCb) {stateStr : List UInt8} :
    Leads P s (s.setState state stateStr stateCb) := by
  have written : Leads P s (s.writeState state stateStr) := same_leads rfl
  exact written.trans (tellState_leads safe _ _)

theorem notify_leads {stateStr : Option (List UInt8)} {created : Bool} :
    Leads P s (s.notify state stateStr created) := by
  unfold notify
  split
  · refine (tell_leads (.created state stateStr) rfl rfl).weaken (Q := P) (fun _ => trivial)
      |>.informed List.mem_cons_self (fun _ asks => asks) (Q := _) ?_
    refine ⟨?_, fun _ good valid => ?_⟩
    · dsimp only
      split
      · exact ⟨⟨[.asserted], rfl⟩, .same rfl rfl⟩
      · exact ⟨⟨[], rfl⟩, .same rfl rfl⟩
    · obtain ⟨real, unsent, named⟩ := valid
      have valid : ¬ (state = .null ∨ state = .sent ∨ state = .unknown ∧ stateStr = none) := by
        rintro (null | sent | ⟨unknown, bare⟩)
        · exact real null
        · exact unsent sent
        · exact named unknown (by rw [bare]; rfl)
      dsimp only
      rw [if_neg valid]
      refine ⟨{ good with
        right := fun event mem => (good.right event mem).grows _
        owns := fun id owned => ?_ }, rfl, rfl, fun _ => ⟨rfl, rfl⟩, fun _ _ => rfl, id⟩
      cases owned
      exact ⟨⟨_, List.getElem?_concat_length, rfl, rfl⟩, real, named⟩
  · exact refl_leads

theorem subStateText_written {stateStr : List UInt8} (named : state = .unknown → stateStr ≠ []) :
    subStateText (if stateStr ≠ [] then stateStr else evsubStateName state) state
      = subStateText stateStr state := by
  cases state with
  | unknown => rw [if_pos (named rfl)]
  | _ => rfl

theorem applyDst_leads (safe : Safe stateCb) {id : Nat} :
    Leads (s.owner = some id) s (s.applyDst id stateCb) := by
  by_cases null : s.dstState = .null
  · rw [applyDst, if_pos null]
    exact ⟨⟨⟨[_], rfl⟩, .same rfl rfl⟩, fun _ good owned => absurd null (good.owns id owned).real⟩
  · rw [applyDst, if_neg null]
    have written : Leads (s.owner = some id) s (s.writeState s.dstState s.dstStateStr) :=
      same_leads rfl
    have sent : Leads (s.owner = some id) (s.writeState s.dstState s.dstStateStr) _ :=
      (tell_leads (.sent id s.dstState (s.writeState s.dstState s.dstStateStr).stateStr) rfl
        rfl).granted fun good owned => by
          obtain ⟨⟨n, made, state, text⟩, -, named⟩ := good.owns id owned
          exact ⟨n, made, state.symm, (subStateText_written named).trans text.symm⟩
    have all := (written.trans' sent fun owned _ => owned).trans (tellState_leads safe _ s.state)
    refine ⟨⟨all.1.1, all.1.2.trans (.same rfl rfl)⟩, fun careful good owned => ?_⟩
    obtain ⟨good', kept⟩ := all.2 careful good owned
    exact ⟨{ good' with owns := nofun }, { kept with }⟩

theorem applyNotify_leads (safe : Safe stateCb) {id : Nat} :
    Leads P s (s.applyNotify id stateCb) := by
  have asked : Leads P s (s.tell (.applying id s.owner)) :=
    (tell_leads (.applying id s.owner) rfl rfl).weaken fun _ => trivial
  exact asked.informed List.mem_cons_self (fun _ owned => owned) (applyDst_leads safe)

theorem transmit_rest (safe : Safe sending) (safe' : Safe stateCb) {id : Nat} {sent : Bool} :
    Leads P s (if sent then (sending s).applyNotify id stateCb else sending s) := by
  split
  · exact safe.leads.trans (applyNotify_leads safe')
  · exact safe.leads

section Passing

variable {id : Nat} {sent : Bool}

/-- The call of `pjsip_evsub_send_request`. -/
def told (s : Notifier) (id : Nat) : Notifier :=
  s.tell (.passed id s.refreshing s.callingOnRxRefresh s.passed s.waiting)

theorem keepBack_leads (calling : s.callingOnRxRefresh = true) :
    Leads P s ((s.told id).keepBack id) := by
  have rests : s.Rests ((s.told id).keepBack id) :=
    ⟨fun off => off, fun off => absurd (calling.symm.trans off) (by decide)⟩
  refine ⟨⟨⟨[_], rfl⟩, rests⟩, fun careful good _ => ?_⟩
  obtain ⟨fresh, idle, -⟩ : NotifierEvent.Careful
      (.passed id s.refreshing s.callingOnRxRefresh s.passed s.waiting) :=
    careful _ List.mem_cons_self
  have order := good.order
  rw [idle] at order
  refine ⟨{ good with
    right := List.forall_mem_cons.2 ⟨trivial, good.right⟩
    order := congrArg (id :: ·) order
    once := List.nodup_cons.2 ⟨fresh, good.once⟩
    back := fun _ same => same }, rfl, rfl, fun off => ?_, fun off => ?_, fun _ => rfl⟩
  all_goals exact absurd (calling.symm.trans off) (by decide)

theorem handOver_leads (calling : s.callingOnRxRefresh = false) :
    Leads P s ((s.told id).tell (.transmitted id s.refreshing none)) := by
  refine ⟨⟨⟨[_, _], rfl⟩, .same rfl rfl⟩, fun careful good _ => ?_⟩
  obtain ⟨fresh, idle, answered⟩ : NotifierEvent.Careful
      (.passed id s.refreshing s.callingOnRxRefresh s.passed s.waiting) :=
    careful _ (List.mem_cons_of_mem _ List.mem_cons_self)
  have alone : s.refreshing = 0 := by
    by_contra more
    exact absurd (calling.symm.trans (answered (Nat.pos_of_ne_zero more))) (by decide)
  have order := good.order
  rw [idle] at order
  refine ⟨{ good with
    right := List.forall_mem_cons.2 ⟨⟨alone, nofun⟩, List.forall_mem_cons.2 ⟨trivial, good.right⟩⟩
    order := ?_
    once := List.nodup_cons.2 ⟨fresh, good.once⟩ },
    rfl, rfl, fun _ => ⟨rfl, rfl⟩, fun _ _ => rfl, fun same => same⟩
  show id :: s.passed = s.waiting.toList ++ id :: s.transmitted
  rw [idle, order]
  rfl

theorem sendNotify_leads (safe : Safe sending) (safe' : Safe stateCb) :
    Leads P s (s.sendNotify id sent sending stateCb) := by
  have is : s.sendNotify id sent sending stateCb =
      if s.callingOnRxRefresh then (s.told id).keepBack id
      else (s.told id).transmit id none sent sending stateCb := rfl
  rw [is]
  split
  · next calling => exact keepBack_leads calling
  · next calling =>
    have handed : Leads P s ((s.told id).tell (.transmitted id s.refreshing none)) :=
      handOver_leads (Bool.eq_false_iff.2 calling)
    exact handed.trans (transmit_rest safe safe')

theorem release_leads (back : s.waiting = some id) (alone : s.refreshing = 0)
    (responded : s.responded = true) :
    s.Good → Good ({ s with waiting := none }.tell (.transmitted id s.refreshing
      (some s.responded))) := by
  intro good
  have order := good.order
  rw [back] at order
  exact { good with
    right := List.forall_mem_cons.2 ⟨⟨alone, by rw [responded]; nofun⟩, good.right⟩
    order := order
    back := nofun }

/-- Where a subscription is between two events of the environment. -/
structure Idle (s : Notifier) : Prop where
  refreshing : s.refreshing = 0
  calling : s.callingOnRxRefresh = false
  pending : s.pendingNotify = none
  waiting : s.waiting = none

theorem sendPending_log (safe : Safe sending) (safe' : Safe stateCb) :
    s.log <:+ (s.sendPending sent sending stateCb).log ∧ (s.callingOnRxRefresh = false →
        (s.sendPending sent sending stateCb).callingOnRxRefresh = false)
      ∧ (s.sendPending sent sending stateCb).pendingNotify = none := by
  unfold sendPending
  split
  · next idle => exact ⟨List.suffix_rfl, fun off => off, idle⟩
  · next id there =>
    split
    · exact ⟨List.suffix_rfl, fun off => off, rfl⟩
    · have rest : Leads True ({ s with waiting := none }.tell (.transmitted id s.refreshing
            (some s.responded)))
          ({ s with waiting := none }.transmit id (some s.responded) sent sending stateCb) :=
        transmit_rest safe safe'
      exact ⟨(List.suffix_cons _ _).trans rest.1.1, rest.1.2.calling, rfl⟩

theorem sendPending_some (pending : s.pendingNotify = some id)
    (calling : s.callingOnRxRefresh = false) :
    s.sendPending sent sending stateCb =
      { { s with waiting := none }.transmit id (some s.responded) sent sending stateCb with
        pendingNotify := none } := by
  unfold sendPending
  split
  · next idle => exact absurd (idle.symm.trans pending) nofun
  · next id' there =>
    have same : id' = id := Option.some.inj (there.symm.trans pending)
    have off : ¬ s.callingOnRxRefresh = true := Bool.eq_false_iff.1 calling
    rw [same]
    rw [if_neg off]

theorem sendPending_idle (safe : Safe sending) (safe' : Safe stateCb)
    (careful : (s.sendPending sent sending stateCb).Careful) (good : s.Good)
    (refreshing : s.refreshing = 0) (calling : s.callingOnRxRefresh = false)
    (synced : s.pendingNotify = s.waiting)
    (responded : s.pendingNotify ≠ none → s.responded = true) :
    (s.sendPending sent sending stateCb).Good ∧ (s.sendPending sent sending stateCb).Idle := by
  by_cases idle : s.pendingNotify = none
  · have same : s.sendPending sent sending stateCb = s := by
      unfold sendPending
      rw [idle]
    rw [same]
    exact ⟨good, refreshing, calling, idle, synced ▸ idle⟩
  · obtain ⟨id, pending⟩ := Option.ne_none_iff_exists'.1 idle
    rw [sendPending_some pending calling] at careful ⊢
    have released := release_leads (synced.symm.trans pending) refreshing (responded idle) good
    have rest : Leads True ({ s with waiting := none }.tell (.transmitted id s.refreshing
          (some s.responded)))
        ({ s with waiting := none }.transmit id (some s.responded) sent sending stateCb) :=
      transmit_rest safe safe'
    obtain ⟨good', kept⟩ := rest.2 careful released trivial
    obtain ⟨idle, -⟩ := kept.idle calling
    refine ⟨{ good' with back := ?_ }, kept.refreshing.trans refreshing,
      kept.calling.trans calling, rfl, idle⟩
    intro id back
    exact absurd (idle.symm.trans back) nofun

end Passing

section Refreshes

variable {info : RefreshInfo}

/-- The scripts keep the invariant. -/
structure RefreshScripts.Safe (scripts : RefreshScripts) : Prop where
  stateCb : Notifier.Safe scripts.stateCb
  appCb : Notifier.Safe scripts.appCb
  responding : Notifier.Safe scripts.responding
  sending : Notifier.Safe scripts.sending
  notifyCb : Notifier.Safe scripts.notifyCb

variable {scripts : RefreshScripts}

theorem askUser_leads (safe : scripts.Safe) : Leads P s (s.askUser info scripts).1 := by
  dsimp only [askUser]
  have begun : Leads P s (s.beginRefresh scripts.stateCb) := by
    unfold beginRefresh
    split
    · exact setState_leads safe.stateCb
    · split
      · exact same_leads rfl
      · exact refl_leads
  generalize s.beginRefresh scripts.stateCb = s₁ at begun ⊢
  split
  · exact begun.trans safe.appCb.leads
  · exact begun

/-- The response is handed to the dialog, or there is none. -/
def begun (s : Notifier) (info : RefreshInfo) : Notifier :=
  { s.tell (.responded info.created s.pendingNotify) with responded := info.created }

theorem respond_eq {stCode : Nat} {old : EvsubState} {oldStr : List UInt8} :
    s.respond info stCode old oldStr scripts =
      (if info.created then scripts.responding (s.begun info) else s.begun info).settleRefresh
        stCode old oldStr scripts.stateCb := rfl

theorem respond_leads (safe : scripts.Safe) {stCode : Nat}
    {old : EvsubState} {oldStr : List UInt8} :
    Leads P (s.begun info) (s.respond info stCode old oldStr scripts) := by
  rw [respond_eq]
  have responded : Leads P (s.begun info)
      (if info.created then scripts.responding (s.begun info) else s.begun info) := by
    split
    · exact safe.responding.leads
    · exact refl_leads
  generalize (if info.created then scripts.responding (s.begun info) else s.begun info) = s₁
    at responded ⊢
  refine responded.trans ?_
  dsimp only [settleRefresh]
  split
  · have told : Leads True s₁
        (if s₁.state = .null then s₁.setState s₁.state [] scripts.stateCb else s₁) := by
      split
      · exact setState_leads safe.stateCb
      · exact refl_leads
    generalize (if s₁.state = .null then s₁.setState s₁.state [] scripts.stateCb else s₁) = s₂
      at told ⊢
    split
    · exact told.trans (same_leads rfl)
    · exact told
  · exact same_leads rfl

theorem answer_leads (safe : scripts.Safe) :
    Leads (s.refreshing = 0 ∧ s.pendingNotify = none) s (s.answer info scripts) := by
  have asked : Leads True s.enterRefresh (s.enterRefresh.askUser info scripts).1 :=
    askUser_leads safe
  dsimp only [answer]
  generalize s.enterRefresh.askUser info scripts = given at asked ⊢
  have answered : Leads True (given.1.leaveRefresh.begun info) (given.1.leaveRefresh.respond info
      (Evsub.clampCode given.2) s.state s.stateStr scripts) := respond_leads safe
  generalize given.1.leaveRefresh.respond info (Evsub.clampCode given.2) s.state s.stateStr
    scripts = mid at answered ⊢
  obtain ⟨released, off, cleared⟩ : _ ∧ _ ∧ (mid.sendPending info.notifySent scripts.sending
      scripts.notifyCb).pendingNotify = none := sendPending_log safe.sending safe.notifyCb
  have rests : s.Rests (mid.sendPending info.notifySent scripts.sending scripts.notifyCb) :=
    ⟨fun _ => off (answered.1.2.calling rfl), fun _ _ => cleared⟩
  have grown : given.1.log <:+ mid.log := (List.suffix_cons _ _).trans answered.1.1
  refine ⟨⟨asked.1.1.trans (grown.trans released), rests⟩, fun careful good ⟨alone, pending⟩ => ?_⟩
  have off : s.callingOnRxRefresh = false := by
    refine Bool.eq_false_iff.2 fun calling => ?_
    have := good.calling calling
    omega
  have idle : s.waiting = none := by
    cases waiting : s.waiting with
    | none => rfl
    | some id => exact absurd ((good.back id waiting).symm.trans pending) nofun
  have entered : s.enterRefresh.Good := { good with calling := fun _ => Nat.succ_pos _ }
  have before : mid.Careful := Discipline.Careful.suffix (D := discipline) careful released
  obtain ⟨good₁, kept₁⟩ := asked.2 (Discipline.Careful.suffix (D := discipline) before grown)
    entered trivial
  have left : (given.1.leaveRefresh.begun info).Good :=
    { good₁ with right := List.forall_mem_cons.2 ⟨trivial, good₁.right⟩, calling := nofun }
  obtain ⟨good₂, kept₂⟩ := answered.2 before left trivial
  have refreshing : mid.refreshing = 0 := by
    have entered : given.1.refreshing = s.refreshing + 1 := kept₁.refreshing
    have left : mid.refreshing = given.1.refreshing - 1 := kept₂.refreshing
    omega
  have synced : mid.pendingNotify = mid.waiting :=
    kept₂.synced (kept₁.synced (pending.trans idle.symm))
  have responded : mid.pendingNotify ≠ none → mid.responded = true := by
    intro waits
    have same : mid.pendingNotify = given.1.pendingNotify := (kept₂.idle rfl).2
    have made : info.created = true ∨ given.1.pendingNotify = none :=
      before _ (answered.1.1.mem List.mem_cons_self)
    exact (kept₂.answered rfl (same ▸ waits)).trans (made.resolve_right (same ▸ waits))
  obtain ⟨good₃, done⟩ := sendPending_idle safe.sending safe.notifyCb careful good₂ refreshing
    kept₂.calling synced responded
  exact ⟨good₃, done.refreshing.trans alone.symm, done.calling.trans off.symm,
    fun _ => ⟨done.waiting.trans idle.symm, done.pending.trans pending.symm⟩,
    fun _ waits => absurd pending waits, fun _ => done.pending.trans done.waiting.symm⟩

theorem onRefresh_leads (safe : scripts.Safe) : Leads P s (s.onRefresh info scripts) := by
  have came : Leads P s (s.tell (.refreshed s.refreshing s.pendingNotify)) :=
    (tell_leads (.refreshed s.refreshing s.pendingNotify) rfl rfl).weaken fun _ => trivial
  refine came.informed List.mem_cons_self (fun _ alone => alone) ?_
  have updated (s₀ : Notifier) :
      ((s₀.requestExpires info).updateExpires info.now (s₀.requestExpires info).expires).core
        = s₀.core := by
    unfold requestExpires
    split <;> rfl
  have before := updated (s.tell (.refreshed s.refreshing s.pendingNotify))
  refine (same_leads before).trans' (answer_leads safe) fun alone _ => ?_
  simp only [core, Prod.mk.injEq] at before
  obtain ⟨-, -, -, pending, -, refreshing, -⟩ := before
  exact ⟨refreshing.trans alone.1, pending.trans alone.2⟩

end Refreshes

end Notifier

end Pjsip.SipSimple
