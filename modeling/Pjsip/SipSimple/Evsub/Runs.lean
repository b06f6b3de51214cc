import Pjsip.SipSimple.Evsub.Calls

/-!
# The life of a subscription

The events of a transaction are handled between two steps of a run, and nothing that happens
meanwhile ends them. In every run of careful steps a terminated subscription stays terminated.
-/

namespace Pjsip.SipSimple

open Pjsip.Base Pjsip.Pjlib Pjsip.Sip

namespace Evsub

section Lists

variable {tsxs : List EvTsx} {tsx i : Nat} {t t' x : EvTsx}

theorem set_self (here : tsxs[tsx]? = some t) : (tsxs.set tsx t')[tsx]? = some t' :=
  List.getElem?_set_self (List.getElem?_eq_some_iff.1 here).1

theorem set_cases (here : tsxs[tsx]? = some t) (at_ : (tsxs.set tsx t')[i]? = some x) :
    i = tsx ∧ x = t' ∨ i ≠ tsx ∧ tsxs[i]? = some x := by
  by_cases same : i = tsx
  · subst same
    rw [set_self here] at at_
    exact .inl ⟨rfl, (Option.some.inj at_).symm⟩
  · rw [List.getElem?_set_ne (Ne.symm same)] at at_
    exact .inr ⟨same, at_⟩

theorem countP_set_add (here : tsxs[tsx]? = some t) (t' : EvTsx) (p : EvTsx → Bool) :
    (tsxs.set tsx t').countP p + (p t).toNat = tsxs.countP p + (p t').toNat := by
  obtain ⟨inside, is⟩ := List.getElem?_eq_some_iff.1 here
  have positive : p t = true → 0 < tsxs.countP p := fun found =>
    List.countP_pos_iff.2 ⟨t, List.mem_of_getElem? here, found⟩
  rw [List.countP_set inside, is]
  cases was : p t with
  | false => cases p t' <;> rfl
  | true =>
    have := positive was
    cases p t'
    · show tsxs.countP p - 1 + 0 + 1 = tsxs.countP p + 0
      omega
    · show tsxs.countP p - 1 + 1 + 1 = tsxs.countP p + 1
      omega

end Lists

/-- A transaction that was `t` is now `t'`, and attached. -/
structure Arrives (s a : Evsub) (tsx : Nat) (t t' : EvTsx) : Prop where
  log : a.log = if t'.state = .terminated then .ended (s.handling.contains tsx) :: s.log else s.log
  tsxs : a.tsxs = s.tsxs.set tsx t'
  pendingTsx : a.pendingTsx = s.pendingTsx + if t.attached then 0 else 1
  found : t.attached = false → s.listed = true
  attached : t'.attached = true
  past : t'.finished = t.finished
  listed : a.listed = s.listed
  state : a.state = s.state
  terminating : a.terminating = s.terminating
  refreshing : a.refreshing = s.refreshing
  handling : a.handling = s.handling
  calling : a.callingOnRxRefresh = s.callingOnRxRefresh

variable {P : Prop} {s s' a : Evsub} {tsx : Nat} {t t' : EvTsx}

variable {found : EvMatch}

theorem finds_listed (finds : s.finds t found = true) : s.listed = true := by
  unfold Evsub.finds at finds
  grind

theorem moveTsx_log : (s.moveTsx tsx t').log =
      if t'.state = .terminated then .ended (s.handling.contains tsx) :: s.log else s.log := by
  dsimp only [moveTsx]
  split <;> rfl

theorem moveTsx_rest (s : Evsub) (tsx : Nat) (t' : EvTsx) :
    (s.moveTsx tsx t').tsxs = s.tsxs.set tsx t' ∧ (s.moveTsx tsx t').pendingTsx = s.pendingTsx
      ∧ (s.moveTsx tsx t').listed = s.listed ∧ (s.moveTsx tsx t').state = s.state
      ∧ (s.moveTsx tsx t').terminating = s.terminating
      ∧ (s.moveTsx tsx t').refreshing = s.refreshing
      ∧ (s.moveTsx tsx t').handling = s.handling
      ∧ (s.moveTsx tsx t').callingOnRxRefresh = s.callingOnRxRefresh := by
  dsimp only [moveTsx]
  split <;> exact ⟨rfl, rfl, rfl, rfl, rfl, rfl, rfl, rfl⟩

theorem attachTsx_unfound (same : t'.attached = t.attached)
    (attached : ((s.moveTsx tsx t').attachTsx tsx t' found).2 = false) :
    t.attached = false ∧ ((s.moveTsx tsx t').attachTsx tsx t' found).1 = s.moveTsx tsx t' := by
  unfold attachTsx at attached ⊢
  unfold onNewTransaction at attached ⊢
  grind

theorem attachTsx_arrives (same : t'.attached = t.attached) (past : t'.finished = t.finished)
    (attached : ((s.moveTsx tsx t').attachTsx tsx t' found).2 = true) :
    Arrives s ((s.moveTsx tsx t').attachTsx tsx t' found).1 tsx t { t' with attached := true } := by
  obtain ⟨tsxs, pendingTsx, listed, state, terminating, refreshing, handling, calling⟩ :=
    moveTsx_rest s tsx t'
  unfold attachTsx at attached ⊢
  split
  · next old =>
    have full : { t' with attached := true } = t' := by
      cases t'
      cases old
      rfl
    rw [full]
    exact ⟨moveTsx_log, tsxs, by simp [pendingTsx, ← same, old], by simp [← same, old], old, past,
      listed, state, terminating, refreshing, handling, calling⟩
  · next new =>
    rw [if_neg new] at attached
    have found' : (s.moveTsx tsx t').finds t' found = true := by
      unfold onNewTransaction at attached
      grind
    have fresh : t.attached = false := same ▸ Bool.eq_false_iff.2 new
    unfold onNewTransaction at attached ⊢
    split
    · next refused => simp [if_pos refused] at attached
    · dsimp only
      split
      all_goals
        exact ⟨moveTsx_log, by simp [tsxs], by simp [pendingTsx, fresh],
          fun _ => listed ▸ finds_listed found', rfl, past, listed, state, terminating, refreshing,
          handling, calling⟩

theorem Arrives.good (arrives : Arrives s a tsx t t') (good : s.Good)
    (here : s.tsxs[tsx]? = some t) (low : t.state ≠ .terminated) :
    Good { a with handling := tsx :: a.handling } := by
  have fresh : t.finished = false := by
    by_contra finished
    exact low (good.past t (List.mem_of_getElem? here) (Bool.not_eq_false _ ▸ finished)).2
  have fresh' : t'.finished = false := arrives.past.trans fresh
  have counted : a.pendingTsx = a.pendings := by
    have change := countP_set_add here t' EvTsx.pending
    have before : t.pending = t.attached := by simp [EvTsx.pending, fresh]
    have after : t'.pending = true := by simp [EvTsx.pending, fresh', arrives.attached]
    rw [arrives.pendingTsx, pendings, arrives.tsxs, good.counted, pendings]
    rw [before, after] at change
    cases attached : t.attached <;> simp [attached] at change ⊢ <;> omega
  have listed : 0 < a.pendingTsx ∧ a.listed = true := by
    have pending : 0 < a.pendings := by
      refine List.countP_pos_iff.2 ⟨t', ?_, by simp [EvTsx.pending, fresh', arrives.attached]⟩
      exact List.mem_of_getElem? (arrives.tsxs ▸ set_self here)
    refine ⟨by omega, arrives.listed.trans ?_⟩
    cases attached : t.attached with
    | false => exact arrives.found attached
    | true =>
      by_contra gone
      have idle := (good.gone (Bool.eq_false_iff.2 gone)).2.1
      have := arrives.pendingTsx
      rw [idle, attached] at this
      simp only [if_true] at this
      omega
  exact {
    steps := by
      rw [show ({ a with handling := tsx :: a.handling } : Evsub).log = a.log from rfl, arrives.log]
      split
      · exact List.forall_mem_cons.2 ⟨trivial, good.steps⟩
      · exact good.steps
    counted
    destroyed := by
      show List.countP _ a.log = if a.listed then 0 else 1
      rw [arrives.listed, arrives.log]
      split
      · rw [List.countP_cons_of_neg (by simp [EvEvent.isDestroyed])]
        exact good.destroyed
      · exact good.destroyed
    gone := fun gone => absurd (listed.2.symm.trans gone) (by decide)
    due := fun _ idle => absurd idle (Int.ne_of_gt listed.1)
    told := by
      show 0 < a.terminating → a.state = .terminated ∧ a.terminating = 1
      rw [arrives.state, arrives.terminating]
      exact good.told
    busy := by
      show ∀ i ∈ tsx :: a.handling, ∃ t, a.tsxs[i]? = some t ∧ t.attached = true ∧ t.finished = false
      rw [arrives.tsxs, arrives.handling]
      refine List.forall_mem_cons.2 ⟨⟨t', set_self here, arrives.attached, fresh'⟩, ?_⟩
      intro i mem
      by_cases same : i = tsx
      · rw [same]
        exact ⟨t', set_self here, arrives.attached, fresh'⟩
      · rw [List.getElem?_set_ne (Ne.symm same)]
        exact good.busy i mem
    past := by
      show ∀ t ∈ a.tsxs, t.finished = true → t.attached = true ∧ t.state = .terminated
      rw [arrives.tsxs]
      intro x mem finished
      rcases List.mem_or_eq_of_mem_set mem with old | new
      · exact good.past x old finished
      · rw [new, fresh'] at finished
        cases finished
    ended := by
      show ∀ (i : Nat) (x : EvTsx), a.tsxs[i]? = some x → x.attached = true →
        x.state = .terminated → x.finished = true ∨ i ∈ tsx :: a.handling
      rw [arrives.tsxs, arrives.handling]
      intro i x at_ attached finished
      rcases set_cases here at_ with ⟨rfl, rfl⟩ | ⟨_, old⟩
      · exact .inr List.mem_cons_self
      · exact (good.ended i x old attached finished).imp_right (List.mem_cons_of_mem _)
    calling := by
      show a.callingOnRxRefresh = true → 0 < a.refreshing
      rw [arrives.calling, arrives.refreshing]
      exact good.calling
    inside := by simp }

/-- What is known when the event of a transaction has been processed. -/
structure Handles (s mid : Evsub) (tsx : Nat) : Prop where
  state : s.state = .terminated → mid.state = .terminated
  terminating : mid.terminating = s.terminating
  refreshing : mid.refreshing = s.refreshing
  handling : mid.handling = tsx :: s.handling
  handled : ∀ i ∈ s.handling, ∀ t', mid.tsxs[i]? = some t' → t'.state = .terminated →
    ∃ t, s.tsxs[i]? = some t ∧ t.state = .terminated
  alone : ∀ t', mid.tsxs[tsx]? = some t' → t'.state = .terminated → tsx ∉ s.handling

theorem Arrives.handles (arrives : Arrives s a tsx t t') (here : s.tsxs[tsx]? = some t)
    (careful : a.Careful) (kept : Kept { a with handling := tsx :: a.handling } s') :
    Handles s s' tsx := by
  have alone : t'.state = .terminated → tsx ∉ s.handling := by
    intro finished
    have logged := arrives.log
    rw [if_pos finished] at logged
    have idle : EvEvent.Careful (.ended (s.handling.contains tsx)) :=
      careful _ (logged ▸ List.mem_cons_self)
    simpa [EvEvent.Careful] using idle
  refine ⟨fun terminated => kept.state (arrives.state.trans terminated),
    kept.terminating.trans arrives.terminating, kept.refreshing.trans arrives.refreshing,
    kept.handling.trans (arrives.handling ▸ rfl), ?_, ?_⟩
  · intro i mem x at_ finished
    have mem' : i ∈ tsx :: a.handling := List.mem_cons_of_mem _ (arrives.handling ▸ mem)
    obtain ⟨y, before, finished'⟩ := kept.handled i mem' x at_ finished
    rcases set_cases here (arrives.tsxs ▸ before) with ⟨rfl, rfl⟩ | ⟨_, old⟩
    · exact absurd mem (alone finished')
    · exact ⟨y, old, finished'⟩
  · intro x at_ finished
    obtain ⟨y, before, finished'⟩ := kept.handled tsx List.mem_cons_self x at_ finished
    have is : y = t' := Option.some.inj (before.symm.trans (arrives.tsxs ▸ set_self here))
    exact alone (is ▸ finished')

section Ends

variable {mid : Evsub}

theorem Handles.stays (handles : Handles s mid tsx) (good : s.Good) (good' : mid.Good)
    (here : mid.tsxs[tsx]? = some t) (open_ : t.state ≠ .terminated) :
    Good { mid with handling := s.handling } := {
  good' with
  busy := fun i mem => good'.busy i (handles.handling ▸ List.mem_cons_of_mem _ mem)
  ended := fun i x at_ attached finished => by
    rcases good'.ended i x at_ attached finished with past | mem
    · exact .inl past
    · rcases List.mem_cons.1 (handles.handling ▸ mem) with rfl | mem
      · rw [here] at at_
        cases at_
        exact absurd finished open_
      · exact .inr mem
  inside := fun idle => handles.refreshing.trans (good.inside idle) }

/-- `countOut`, up to the decision that the subscription is to be destroyed. -/
def afterEnd (s : Evsub) (tsx : Nat) (t : EvTsx) : Evsub :=
  { s with
    pendingTsx := s.pendingTsx - 1
    tsxs := s.tsxs.set tsx { t with finished := true } }.tell
      (.countedOut (s.pendingTsx - 1) s.terminating)

/-- A transaction that has ended is counted out; what is due now is decided next. -/
theorem Handles.ends (handles : Handles s mid tsx) (good : s.Good) (good' : mid.Good)
    (here : mid.tsxs[tsx]? = some t) (finished : t.state = .terminated) {final : Evsub}
    (careful : (mid.afterEnd tsx t).Careful)
    (rests : final = { mid.afterEnd tsx t with handling := s.handling }
        ∧ ¬ (mid.state = .terminated ∧ mid.pendingTsx - 1 = 0)
      ∨ final = { (mid.afterEnd tsx t).destroy with handling := s.handling }
        ∧ mid.state = .terminated ∧ mid.pendingTsx - 1 = 0) :
    final.Good := by
  have handled : tsx ∈ mid.handling := handles.handling ▸ List.mem_cons_self
  have fresh : t.attached = true ∧ t.finished = false := by
    obtain ⟨x, at_, attached, fresh⟩ := good'.busy tsx handled
    rw [here] at at_
    cases at_
    exact ⟨attached, fresh⟩
  have alone : tsx ∉ s.handling := handles.alone t here finished
  have counted : mid.pendingTsx - 1 = (mid.afterEnd tsx t).pendings ∧ 0 < mid.pendingTsx := by
    have change := countP_set_add here { t with finished := true } EvTsx.pending
    have before : t.pending = true := by simp [EvTsx.pending, fresh]
    have after : EvTsx.pending { t with finished := true } = false := by simp [EvTsx.pending]
    have counted := good'.counted
    rw [before, after] at change
    simp only [Bool.toNat_true, Bool.toNat_false] at change
    rw [pendings] at counted
    show mid.pendingTsx - 1 = ((List.countP _ (mid.tsxs.set tsx _) : Nat) : Int) ∧ _
    omega
  have listed : mid.listed = true := by
    by_contra gone
    have := (good'.gone (Bool.eq_false_iff.2 gone)).2.1
    omega
  have told : mid.pendingTsx - 1 = 0 → mid.terminating = 0 :=
    careful (.countedOut (mid.pendingTsx - 1) mid.terminating) List.mem_cons_self
  have past : ∀ x ∈ mid.tsxs.set tsx { t with finished := true }, x.finished = true →
      x.attached = true ∧ x.state = .terminated := by
    intro x mem past
    rcases List.mem_or_eq_of_mem_set mem with old | rfl
    · exact good'.past x old past
    · exact ⟨fresh.1, finished⟩
  have busy : ∀ i ∈ s.handling, ∃ x, (mid.tsxs.set tsx { t with finished := true })[i]? = some x
      ∧ x.attached = true ∧ x.finished = false := by
    intro i mem
    have other : tsx ≠ i := fun same => alone (same ▸ mem)
    rw [List.getElem?_set_ne other]
    exact good'.busy i (handles.handling ▸ List.mem_cons_of_mem _ mem)
  have ended : ∀ (i : Nat) (x : EvTsx), (mid.tsxs.set tsx { t with finished := true })[i]? = some x →
      x.attached = true → x.state = .terminated → x.finished = true ∨ i ∈ s.handling := by
    intro i x at_ attached finished
    rcases set_cases here at_ with ⟨rfl, rfl⟩ | ⟨other, old⟩
    · exact .inl rfl
    · refine (good'.ended i x old attached finished).imp_right fun mem => ?_
      rcases List.mem_cons.1 (handles.handling ▸ mem) with same | mem
      · exact absurd same other
      · exact mem
  have inside : s.handling = [] → mid.refreshing = 0 := fun idle' =>
    handles.refreshing.trans (good.inside idle')
  have idle' := good'.destroyed
  rw [listed] at idle'
  rcases rests with ⟨rfl, more⟩ | ⟨rfl, terminated, last⟩
  · exact { good' with
      steps := List.forall_mem_cons.2 ⟨trivial, good'.steps⟩
      counted := counted.1
      destroyed := by
        show List.countP _ (_ :: mid.log) = if mid.listed then 0 else 1
        rw [List.countP_cons_of_neg (by simp [EvEvent.isDestroyed]), listed]
        exact idle'
      gone := fun gone => absurd (listed.symm.trans gone) (by decide)
      due := fun terminated idle' => absurd ⟨terminated, idle'⟩ more
      busy, past, ended, inside }
  · -- Nothing else is being handled, hence no refresh either.
    have pendings : (mid.afterEnd tsx t).pendings = 0 := by omega
    have idle : s.handling = [] := by
      cases handling : s.handling with
      | nil => rfl
      | cons i rest =>
        obtain ⟨x, at_, attached, fresh⟩ := busy i (handling ▸ List.mem_cons_self)
        have : 0 < (mid.afterEnd tsx t).pendings :=
          List.countP_pos_iff.2
            ⟨x, List.mem_of_getElem? at_, by simp [EvTsx.pending, attached, fresh]⟩
        omega
    exact { good' with
      steps := List.forall_mem_cons.2 ⟨⟨terminated, pendings, inside idle⟩,
        List.forall_mem_cons.2 ⟨trivial, good'.steps⟩⟩
      counted := counted.1
      destroyed := by
        show List.countP _ (_ :: _ :: mid.log) = 1
        rw [List.countP_cons_of_pos (by simp [EvEvent.isDestroyed]),
          List.countP_cons_of_neg (by simp [EvEvent.isDestroyed])]
        exact congrArg (· + 1) idle'
      gone := fun _ => ⟨terminated, last, told last⟩
      due := fun _ _ => .inl rfl
      busy, past, ended, inside }

theorem endTsx_log : mid.log <:+ (mid.endTsx tsx).log := by
  unfold endTsx
  split
  · exact List.suffix_rfl
  · split
    · dsimp only [countOut]
      split
      · exact ⟨[_, _], rfl⟩
      · exact ⟨[_], rfl⟩
    · exact List.suffix_rfl

theorem Handles.leads (handles : Handles s mid tsx) (good : s.Good) (good' : mid.Good)
    (careful : (mid.endTsx tsx).Careful) :
    Good { mid.endTsx tsx with handling := (mid.endTsx tsx).handling.tail }
      ∧ s.Kept { mid.endTsx tsx with handling := (mid.endTsx tsx).handling.tail } := by
  obtain ⟨t, here, -⟩ := good'.busy tsx (handles.handling ▸ List.mem_cons_self)
  have tail : mid.handling.tail = s.handling := by rw [handles.handling, List.tail_cons]
  unfold endTsx at careful ⊢
  rw [here] at careful ⊢
  dsimp only at careful ⊢
  by_cases finished : t.state = .terminated
  · rw [if_pos finished] at careful ⊢
    have handled : ∀ i ∈ s.handling, ∀ x, (mid.tsxs.set tsx { t with finished := true })[i]? = some x →
        x.state = .terminated → ∃ y, s.tsxs[i]? = some y ∧ y.state = .terminated := by
      intro i mem x at_ finished'
      rcases set_cases here at_ with ⟨rfl, rfl⟩ | ⟨_, old⟩
      · exact handles.handled i mem t here finished
      · exact handles.handled i mem x old finished'
    dsimp only [countOut] at careful ⊢
    split at careful
    · next last =>
      rw [if_pos last]
      have same : (mid.afterEnd tsx t).destroy.handling.tail = s.handling := tail
      refine ⟨handles.ends good good' here finished (careful.suffix ⟨[_], rfl⟩)
        (.inr ⟨?_, last⟩), handles.state, handles.terminating, handles.refreshing, tail, handled⟩
      rw [← same]
      rfl
    · next more =>
      rw [if_neg more]
      have same : (mid.afterEnd tsx t).handling.tail = s.handling := tail
      refine ⟨handles.ends good good' here finished careful (.inl ⟨?_, more⟩), handles.state,
        handles.terminating, handles.refreshing, tail, handled⟩
      rw [← same]
      rfl
  · rw [if_neg finished, tail]
    exact ⟨handles.stays good good' here finished, handles.state, handles.terminating,
      handles.refreshing, rfl, handles.handled⟩

end Ends

theorem moveTsx_leads (here : s.tsxs[tsx]? = some t) (loose : t.attached = false)
    (same : t'.attached = t.attached) (past : t'.finished = t.finished) :
    Leads P s (s.moveTsx tsx t') := by
  have moved : Leads P s { s with tsxs := s.tsxs.set tsx t' } := by
    refine ⟨⟨List.suffix_rfl, trivial⟩, fun _ good _ => ⟨{ good with
      counted := ?_
      busy := fun i mem => ?_
      past := fun x mem finished => ?_
      ended := fun i x at_ attached finished => ?_ }, ⟨id, rfl, rfl, rfl, ?_⟩⟩⟩
    · have change := countP_set_add here t' EvTsx.pending
      have before : t.pending = false := by simp [EvTsx.pending, loose]
      have after : t'.pending = false := by simp [EvTsx.pending, same, loose]
      rw [before, after] at change
      refine good.counted.trans (congrArg Int.ofNat ?_)
      exact (Nat.add_right_cancel change).symm
    · obtain ⟨x, at_, attached, fresh⟩ := good.busy i mem
      have other : tsx ≠ i := by
        rintro rfl
        rw [here] at at_
        cases at_
        exact absurd (loose.symm.trans attached) (by decide)
      exact ⟨x, (List.getElem?_set_ne other).trans at_, attached, fresh⟩
    · rcases List.mem_or_eq_of_mem_set mem with old | rfl
      · exact good.past x old finished
      · have := (good.past t (List.mem_of_getElem? here) (past ▸ finished)).1
        exact absurd (loose.symm.trans this) (by decide)
    · rcases set_cases here at_ with ⟨rfl, rfl⟩ | ⟨_, old⟩
      · exact absurd ((same.trans loose).symm.trans attached) (by decide)
      · exact good.ended i x old attached finished
    · intro i mem x at_ finished
      obtain ⟨y, at', attached, -⟩ := good.busy i mem
      rcases set_cases here at_ with ⟨rfl, rfl⟩ | ⟨_, old⟩
      · rw [here] at at'
        cases at'
        exact absurd (loose.symm.trans attached) (by decide)
      · exact ⟨x, old, finished⟩
  dsimp only [moveTsx]
  split
  · exact moved.trans (tell_leads (.ended _) trivial rfl)
  · exact moved

theorem tsxState_leads {scripts : Scripts} (safe : scripts.Safe) {state : TsxState} {code : Nat}
    {info : EvInfo} : Leads P s (s.tsxState tsx state code info scripts) := by
  unfold tsxState
  split
  · exact refl_leads
  · next t here =>
    split
    · next guard =>
      have low : t.state ≠ .terminated := by
        intro finished
        rw [finished] at guard
        exact absurd guard.1 (Nat.lt_irrefl _)
      dsimp only
      cases attached : ((s.moveTsx tsx { t with state, statusCode := code }).attachTsx tsx
        { t with state, statusCode := code } info.found).2 with
      | false =>
        obtain ⟨loose, unmoved⟩ := attachTsx_unfound (t := t) (by rfl) attached
        rw [if_neg (by decide), unmoved]
        exact moveTsx_leads here loose rfl rfl
      | true =>
        have arrives := attachTsx_arrives (t := t) (by rfl) (by rfl) attached
        generalize ((s.moveTsx tsx { t with state, statusCode := code }).attachTsx tsx
          { t with state, statusCode := code } info.found).1 = a at arrives ⊢
        have came : s.log <:+ a.log := by
          rw [arrives.log]
          split
          · exact List.suffix_cons _ _
          · exact List.suffix_rfl
        have processed : Leads (tsx :: a.handling ≠ []) { a with handling := tsx :: a.handling }
            ({ a with handling := tsx :: a.handling }.processTsx tsx info scripts) :=
          processTsx_leads safe
        dsimp only [handleTsx]
        generalize ({ a with handling := tsx :: a.handling } : Evsub).processTsx tsx info scripts
          = mid at processed ⊢
        refine ⟨⟨came.trans (processed.1.1.trans endTsx_log), trivial⟩, fun careful good _ => ?_⟩
        have careful' : mid.Careful := careful.suffix endTsx_log
        obtain ⟨good', kept⟩ := processed.2 careful' (arrives.good good here low) nofun
        exact (arrives.handles here (careful'.suffix processed.1.1) kept).leads good good' careful
    · exact refl_leads

theorem newTsx_leads (role : Role) (method : Method) :
    Leads P s { s with tsxs := s.tsxs ++ [{ role, method }] } := by
  have kept : ∀ (i : Nat) (x : EvTsx), s.tsxs[i]? = some x →
      (s.tsxs ++ [({ role, method } : EvTsx)])[i]? = some x := fun i x at_ => by
    rw [List.getElem?_append_left (List.getElem?_eq_some_iff.1 at_).1]
    exact at_
  have fresh : ∀ x ∈ s.tsxs ++ [({ role, method } : EvTsx)],
      x ∈ s.tsxs ∨ x.attached = false ∧ x.finished = false := fun x mem => by
    rcases List.mem_append.1 mem with old | new
    · exact .inl old
    · rw [List.mem_singleton.1 new]
      exact .inr ⟨rfl, rfl⟩
  have cases_ : ∀ (i : Nat) (x : EvTsx), (s.tsxs ++ [({ role, method } : EvTsx)])[i]? = some x →
      x.attached = true → s.tsxs[i]? = some x := fun i x at_ attached => by
    by_cases inside : i < s.tsxs.length
    · rw [List.getElem?_append_left inside] at at_
      exact at_
    · rw [List.getElem?_append_right (Nat.not_lt.1 inside)] at at_
      rw [List.mem_singleton.1 (List.mem_of_getElem? at_)] at attached
      cases attached
  refine ⟨⟨List.suffix_rfl, trivial⟩, fun _ good _ => ⟨{ good with
    counted := ?_
    busy := fun i mem => ?_
    past := fun x mem finished => ?_
    ended := fun i x at_ attached finished => good.ended i x (cases_ i x at_ attached) attached finished },
    ⟨id, rfl, rfl, rfl, ?_⟩⟩⟩
  · refine good.counted.trans (congrArg Int.ofNat ?_)
    show _ = List.countP EvTsx.pending (s.tsxs ++ [({ role, method } : EvTsx)])
    rw [List.countP_append]
    rfl
  · obtain ⟨x, at_, rest⟩ := good.busy i mem
    exact ⟨x, kept i x at_, rest⟩
  · rcases fresh x mem with old | new
    · exact good.past x old finished
    · exact absurd (new.2.symm.trans finished) (by decide)
  · intro i mem x at_ finished
    obtain ⟨y, at', -⟩ := good.busy i mem
    have same : y = x := Option.some.inj ((kept i y at').symm.trans at_)
    exact ⟨y, at', same ▸ finished⟩

end Evsub

open Evsub

mutual

theorem EvAct.exec_safe : ∀ act : EvAct, Safe act.exec
  | .terminate _ stateCb => fun _ => terminate_leads (execAll_safe stateCb)
  | .initiate _ _ _ => fun _ => initiate_leads
  | .notify _ _ => fun _ => notify_leads
  | .sendRequest _ _ sending stateCb => fun _ =>
    sendRequest_leads (execAll_safe sending) (execAll_safe stateCb)
  | .accept _ _ _ _ sending => fun _ => accept_leads (execAll_safe sending)
  | .uasSetTimeout _ => fun _ => uasSetTimeout_leads
  | .newTsx role method => fun _ => newTsx_leads role method
  | .tsxState _ _ _ _ tsxCb stateCb appCb sending notifySending notifyCb => fun _ =>
    tsxState_leads ⟨execAll_safe tsxCb, execAll_safe stateCb, execAll_safe appCb,
      execAll_safe sending, execAll_safe notifySending, execAll_safe notifyCb⟩
  | .timer _ appCb sending stateCb => fun _ =>
    onTimer_leads (execAll_safe appCb) (execAll_safe sending) (execAll_safe stateCb)

theorem EvAct.execAll_safe : ∀ acts : List EvAct, Safe (execAll acts)
  | [] => fun _ => refl_leads
  | act :: acts => fun s => (exec_safe act s).trans (execAll_safe acts (act.exec s))

end

theorem Evsub.Created.good {s : Evsub} (created : s.Created) :
    s.Good ∧ s.terminating = 0 ∧ s.handling = [] := by
  have loose : ∀ tsxs : List EvTsx, (∀ t ∈ tsxs, t.attached = false ∧ t.finished = false) →
      tsxs.countP EvTsx.pending = 0 := fun tsxs fresh =>
    List.countP_eq_zero.2 fun t mem => by simp [EvTsx.pending, (fresh t mem).1]
  refine ⟨?_, ?_⟩
  · cases created with
    | uac user noEventId expires tsxs fresh =>
      exact {
        steps := by simp
        counted := (congrArg Int.ofNat (loose tsxs fresh)).symm
        destroyed := rfl
        gone := by simp
        due := by simp
        told := by simp
        busy := by simp
        past := fun t mem finished => absurd ((fresh t mem).2.symm.trans finished) (by decide)
        ended := fun i t at_ attached _ =>
          absurd ((fresh t (List.mem_of_getElem? at_)).1.symm.trans attached) (by decide)
        calling := by simp
        inside := fun _ => rfl }
    | uas user noEventId expires method tsxs fresh =>
      exact {
        steps := by simp
        counted := by
          show (1 : Int) = ((List.countP EvTsx.pending (_ :: tsxs) : Nat) : Int)
          rw [List.countP_cons_of_pos rfl, loose tsxs fresh]
          rfl
        destroyed := rfl
        gone := by simp
        due := by simp
        told := by simp
        busy := by simp
        past := fun t mem finished => by
          rcases List.mem_cons.1 mem with rfl | mem
          · cases finished
          · exact absurd ((fresh t mem).2.symm.trans finished) (by decide)
        ended := fun i t at_ attached finished => by
          rcases List.mem_cons.1 (List.mem_of_getElem? at_) with rfl | mem
          · cases finished
          · exact absurd ((fresh t mem).1.symm.trans attached) (by decide)
        calling := by simp
        inside := fun _ => rfl }
  · cases created <;> exact ⟨rfl, rfl⟩

theorem Evsub.Good.lasts {s : Evsub} (good : s.Good) (untold : s.terminating = 0)
    (idle : s.handling = []) : s.Lasts := by
  refine ⟨good.steps, good.destroyed.trans ?_⟩
  have pending : s.pendingTsx = 0 ↔ ∀ t ∈ s.tsxs, t.attached = true → t.state = .terminated := by
    rw [good.counted, Int.natCast_eq_zero, pendings, List.countP_eq_zero]
    refine forall₂_congr fun t mem => ?_
    obtain ⟨i, at_⟩ := List.getElem?_of_mem mem
    have past := good.past t mem
    have ended := good.ended i t at_
    unfold EvTsx.pending
    grind
  have due : s.Due ↔ s.listed = false := by
    refine ⟨fun due => ?_, fun gone => ?_⟩
    · refine (good.due due.1 (pending.2 due.2)).resolve_right fun told => ?_
      omega
    · obtain ⟨terminated, nonePending, -⟩ := good.gone gone
      exact ⟨terminated, pending.1 nonePending⟩
  cases listed : s.listed with
  | false => rw [if_pos (due.2 listed), if_neg (by decide)]
  | true =>
    have live : ¬ s.Due := fun isDue => absurd (listed.symm.trans (due.1 isDue)) (by decide)
    rw [if_neg live, if_pos rfl]

/-- In every run whose steps are careful, the termination of a subscription lasts. -/
theorem terminated_lasts {s : Evsub} (created : s.Created) (acts : List EvAct)
    (careful : (EvAct.execAll acts s).Careful) : (EvAct.execAll acts s).Lasts := by
  obtain ⟨good, untold, idle⟩ := created.good
  obtain ⟨good', kept⟩ := (EvAct.execAll_safe acts s).2 careful good trivial
  exact good'.lasts (kept.terminating.trans untold) (kept.handling.trans idle)

/-- A client subscription to a package with this expiration, as it is created. -/
def newUac (expires : Nat) : Evsub :=
  { role := .uac
    noEventId := false
    user := {}
    method := subscribeMethod
    expires
    pendingTsx := 0
    tsxs := [] }

theorem newUac_created (expires : Nat) : (newUac expires).Created :=
  .uac {} false expires [] nofun

/-- The client subscribes, and receives a NOTIFY with this header; `rxNotify` happens in
`on_rx_notify`. -/
def subscribed (hdr : SubStateHdr) (rxNotify : List EvAct) : List EvAct :=
  [.newTsx .uac subscribeMethod, .tsxState 0 .calling 0 { source := .tx } [] [] [] [] [] [],
    .tsxState 0 .completed 200 { source := .rx } [] [] [] [] [] [],
    .newTsx .uas notifyMethod,
    .tsxState 1 .trying 0 { source := .rx, subState := some hdr } [] [] rxNotify
      [.tsxState 1 .completed 200 { source := .tx } [] [] [] [] [] []] [] [],
    .tsxState 0 .terminated 200 { source := .timer } [] [] [] [] [] [],
    .tsxState 1 .terminated 200 { source := .timer } [] [] [] [] [] []]

/-- The server ends the subscription, which is destroyed when both transactions are over. -/
theorem terminated_lasts_server :
    (EvAct.execAll (subscribed { state := .terminated } []) (newUac 600)).Lasts
      ∧ (EvAct.execAll (subscribed { state := .terminated } []) (newUac 600)).destructions = 1 :=
  ⟨terminated_lasts (newUac_created 600) _ (by decide +kernel), by decide +kernel⟩

/-- The user terminates the subscription in `on_rx_notify`, and the NOTIFY makes it active. -/
theorem terminated_revived :
    ¬ ∀ s : Evsub, s.Created → ∀ acts : List EvAct, (EvAct.execAll acts s).Lasts := by
  intro lasts
  have revived : EvEvent.wrote .terminated .active
      ∈ (EvAct.execAll (subscribed { state := .active } [.terminate true []]) (newUac 600)).log := by
    decide +kernel
  have same := (lasts (newUac 600) (newUac_created 600) _).steps _ revived rfl
  cases same

end Pjsip.SipSimple
