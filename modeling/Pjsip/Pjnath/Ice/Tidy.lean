import Pjsip.Pjnath.Ice.Backing

/-!
# A tidy check list

Each check pairs candidates of one component and of one address family, and no two checks go
from the same base to the same remote candidate. Pairing and pruning keep a list so where the
base of a reflexive candidate is there and is of its component and family.
-/

namespace Pjsip.Pjnath.Ice

open Pjsip.Base Pjsip.Pjnath.Stun

/-- The candidates of a check are there, and are of one component and one address family. -/
structure Fits (lcands rcands : List Cand) (c : Check) : Prop where
  lcand : c.lcand < lcands.length
  rcand : c.rcand < rcands.length
  comp : (lcands.getD c.lcand {}).compId = (rcands.getD c.rcand {}).compId
  family : sameFamily (lcands.getD c.lcand {}).addr (rcands.getD c.rcand {}).addr = true

/-- The checks do not go from one base to one remote candidate. -/
def Apart (lcands : List Cand) (a b : Check) : Prop :=
  ¬ (a.rcand = b.rcand ∧ (lcands.getD a.lcand {}).baseAddr = (lcands.getD b.lcand {}).baseAddr)

structure Tidy (lcands rcands : List Cand) (checks : List Check) : Prop where
  based : ∀ c ∈ checks, (lcands.getD c.lcand {}).reflexive = false
  fits : ∀ c ∈ checks, Fits lcands rcands c
  apart : checks.Pairwise (Apart lcands)

section Lists

variable {lcands rcands : List Cand} {checks checks' : List Check} {a b c c' : Check}

theorem Apart.symm (apart : Apart lcands a b) : Apart lcands b a :=
  fun same => apart ⟨same.1.symm, same.2.symm⟩

theorem Fits.of_pair (fits : Fits lcands rcands c) (same : c'.pair = c.pair) :
    Fits lcands rcands c' := by
  obtain ⟨lcand, rcand⟩ := Prod.mk.inj same
  exact ⟨lcand ▸ fits.lcand, rcand ▸ fits.rcand, lcand ▸ rcand ▸ fits.comp,
    lcand ▸ rcand ▸ fits.family⟩

theorem Fits.grow (fits : Fits lcands rcands c) (more more' : List Cand) :
    Fits (lcands ++ more) (rcands ++ more') c := by
  have lcand := List.getD_append lcands more {} _ fits.lcand
  have rcand := List.getD_append rcands more' {} _ fits.rcand
  refine ⟨?_, ?_, lcand ▸ rcand ▸ fits.comp, lcand ▸ rcand ▸ fits.family⟩
  · exact Nat.lt_of_lt_of_le fits.lcand (by rw [List.length_append]; exact Nat.le_add_right _ _)
  · exact Nat.lt_of_lt_of_le fits.rcand (by rw [List.length_append]; exact Nat.le_add_right _ _)

theorem Tidy.nil : Tidy lcands rcands [] := 
  ⟨List.forall_mem_nil _, List.forall_mem_nil _, .nil⟩

theorem Tidy.sublist (tidy : Tidy lcands rcands checks) (sub : checks'.Sublist checks) :
    Tidy lcands rcands checks' :=
  ⟨fun c mem => tidy.based c (sub.subset mem), fun c mem => tidy.fits c (sub.subset mem),
    tidy.apart.sublist sub⟩

theorem Tidy.perm (tidy : Tidy lcands rcands checks) (perm : checks'.Perm checks) :
    Tidy lcands rcands checks' :=
  ⟨fun c mem => tidy.based c (perm.mem_iff.1 mem), fun c mem => tidy.fits c (perm.mem_iff.1 mem),
    tidy.apart.perm perm.symm Apart.symm⟩

theorem Tidy.subperm (tidy : Tidy lcands rcands checks) (sub : checks'.Subperm checks) :
    Tidy lcands rcands checks' := by
  obtain ⟨mid, perm, sublist⟩ := sub
  exact (tidy.sublist sublist).perm perm.symm

theorem Tidy.of_pairs (tidy : Tidy lcands rcands checks)
    (same : checks'.map Check.pair = checks.map Check.pair) : Tidy lcands rcands checks' := by
  have origin : ∀ c' ∈ checks', ∃ c ∈ checks, c'.pair = c.pair := by
    intro c' mem
    have there : c'.pair ∈ checks.map Check.pair := same ▸ List.mem_map_of_mem mem
    obtain ⟨c, mem, pair⟩ := List.mem_map.1 there
    exact ⟨c, mem, pair.symm⟩
  refine ⟨?_, ?_, ?_⟩
  · intro c' mem
    obtain ⟨c, mem, pair⟩ := origin c' mem
    have lcand : c'.lcand = c.lcand := congrArg Prod.fst pair
    exact lcand ▸ tidy.based c mem
  · intro c' mem
    obtain ⟨c, mem, pair⟩ := origin c' mem
    exact (tidy.fits c mem).of_pair pair
  · have apart : (checks.map Check.pair).Pairwise fun p q : Nat × Nat =>
        ¬ (p.2 = q.2 ∧ (lcands.getD p.1 {}).baseAddr = (lcands.getD q.1 {}).baseAddr) :=
      List.pairwise_map.2 tidy.apart
    rw [← same] at apart
    have apart' := (List.pairwise_map (f := Check.pair)).1 apart
    exact apart'

theorem Tidy.grow (tidy : Tidy lcands rcands checks) (more more' : List Cand) :
    Tidy (lcands ++ more) (rcands ++ more') checks := by
  have at_ : ∀ c ∈ checks, (lcands ++ more).getD c.lcand {} = lcands.getD c.lcand {} :=
    fun c mem => List.getD_append lcands more {} _ (tidy.fits c mem).lcand
  refine ⟨fun c mem => at_ c mem ▸ tidy.based c mem, fun c mem => (tidy.fits c mem).grow more more',
    ?_⟩
  refine tidy.apart.imp_of_mem fun here there apart same => apart ?_
  rw [at_ _ here, at_ _ there] at same
  exact same

theorem Tidy.append (tidy : Tidy lcands rcands checks)
    (based : (lcands.getD c.lcand {}).reflexive = false) (fits : Fits lcands rcands c)
    (apart : ∀ a ∈ checks, Apart lcands a c) : Tidy lcands rcands (checks ++ [c]) := by
  refine ⟨forall_mem_concat tidy.based based, forall_mem_concat tidy.fits fits, ?_⟩
  rw [List.pairwise_append]
  refine ⟨tidy.apart, List.pairwise_singleton _ _, ?_⟩
  intro a mem b new
  rw [List.mem_singleton.1 new]
  exact apart a mem

end Lists

/-! ## Pairing and pruning -/

/-- The base of each reflexive candidate that is paired is there, and is of its component and
family. -/
def WellBased (lcands rcands : List Cand) : Prop :=
  ∀ c ∈ lcands, c.reflexive = true →
    (∃ r ∈ rcands, c.compId = r.compId ∧ sameFamily c.addr r.addr = true) →
    ∃ host ∈ findBase lcands c,
      (lcands.getD host {}).compId = c.compId ∧ sameFamily (lcands.getD host {}).addr c.addr = true

theorem sameFamily_trans {a b c : SockAddr} (first : sameFamily a b = true)
    (second : sameFamily b c = true) : sameFamily a c = true := by
  cases a <;> cases b <;> cases c <;> simp_all [sameFamily]

/-- While pairs are added: those that have been performed are tidy, and all pairs fit. -/
structure Draft (lcands rcands : List Cand) (checks : List Check) : Prop where
  performed : Tidy lcands rcands (checks.filter fun c => !c.state.toDo)
  fits : ∀ c ∈ checks, Fits lcands rcands c

section Draft

variable {lcands rcands : List Cand} {checks checks' : List Check}

theorem Tidy.draft (tidy : Tidy lcands rcands checks) : Draft lcands rcands checks :=
  ⟨tidy.sublist List.filter_sublist, tidy.fits⟩

theorem Draft.sublist (draft : Draft lcands rcands checks) (sub : checks'.Sublist checks) :
    Draft lcands rcands checks' :=
  ⟨draft.performed.sublist (sub.filter _), fun c mem => draft.fits c (sub.subset mem)⟩

theorem Draft.perm (draft : Draft lcands rcands checks) (perm : checks'.Perm checks) :
    Draft lcands rcands checks' :=
  ⟨draft.performed.perm (perm.filter _), fun c mem => draft.fits c (perm.mem_iff.1 mem)⟩

theorem Draft.subperm (draft : Draft lcands rcands checks) (sub : checks'.Subperm checks) :
    Draft lcands rcands checks' := by
  obtain ⟨mid, perm, sublist⟩ := sub
  exact (draft.sublist sublist).perm perm.symm

theorem Draft.add (draft : Draft lcands rcands checks) {c : Check} (toDo : c.state.toDo)
    (fits : Fits lcands rcands c) : Draft lcands rcands (checks ++ [c]) := by
  refine ⟨?_, forall_mem_concat draft.fits fits⟩
  rw [List.filter_append, List.filter_cons_of_neg (by simp [toDo]), List.filter_nil,
    List.append_nil]
  exact draft.performed

theorem WellBased.base (based : WellBased lcands rcands) {c : Check} (fits : Fits lcands rcands c)
    (reflexive : (lcands.getD c.lcand {}).reflexive = true) :
    ∃ host ∈ findBase lcands (lcands.getD c.lcand {}),
      (lcands.getD host {}).compId = (lcands.getD c.lcand {}).compId
        ∧ sameFamily (lcands.getD host {}).addr (lcands.getD c.lcand {}).addr = true := by
  refine based _ ?_ reflexive ⟨rcands.getD c.rcand {}, ?_, fits.comp, fits.family⟩
  · rw [List.getD_eq_getElem _ _ fits.lcand]
    exact List.getElem_mem fits.lcand
  · rw [List.getD_eq_getElem _ _ fits.rcand]
    exact List.getElem_mem fits.rcand

theorem WellBased.replaceBases_ok (based : WellBased lcands rcands)
    (fits : ∀ c ∈ checks, Fits lcands rcands c) : (replaceBases lcands checks).2 = true := by
  refine Ice.replaceBases_ok lcands fun c mem reflexive unbased => ?_
  obtain ⟨host, found, _⟩ := based.base (fits c mem) reflexive
  rw [Option.mem_def.1 found] at unbased
  cases unbased

theorem Rebased.fits {c c' : Check} (rebased : Rebased lcands c c') (based : WellBased lcands rcands)
    (fits : Fits lcands rcands c) : Fits lcands rcands c' := by
  have rcand : c'.rcand = c.rcand := by
    rw [rebased.same]
  rcases rebased.lcand with same | ⟨reflexive, found⟩
  · exact fits.of_pair (Prod.ext same rcand)
  · obtain ⟨host, found', comp, family⟩ := based.base fits reflexive
    have same : host = c'.lcand := Option.some.inj (found'.symm.trans found)
    subst same
    refine ⟨(findBase_host lcands found).1, rcand ▸ fits.rcand, ?_, ?_⟩
    · rw [comp, rcand]
      exact fits.comp
    · rw [rcand]
      exact sameFamily_trans family fits.family

theorem Draft.prune {clist : Checklist} (draft : Draft lcands rcands clist.checks)
    (based : WellBased lcands rcands) : Tidy lcands rcands (clist.sort.prune lcands).1.checks := by
  have ordered : clist.sort.checks.Pairwise fun a b => a.state.toDo → b.state.toDo :=
    sort_ordered clist.checks
  have sorted : Draft lcands rcands clist.sort.checks := draft.perm clist.sort_perm
  generalize clist.sort = clist at ordered sorted ⊢
  have ok := based.replaceBases_ok sorted.fits
  have replaced := replaceBases_replaced lcands ok
  have same := replaced_performed sorted.performed.based replaced
  have ordered' := replaced_ordered replaced ordered
  have fits : ∀ c ∈ (replaceBases lcands clist.checks).1, Fits lcands rcands c := by
    intro c' mem
    obtain ⟨c, there, rebased⟩ := forall₂_origin (replaceBases_rebased lcands clist.checks) mem
    exact rebased.fits based (sorted.fits c there)
  have replaced_ : Draft lcands rcands (replaceBases lcands clist.checks).1 :=
    ⟨same.symm ▸ sorted.performed, fits⟩
  rw [Checklist.prune, if_pos ok]
  obtain ⟨sublist, settled⟩ := prune_settled lcands
    (clist.setChecks (replaceBases lcands clist.checks).1
      (Checklist.replaceBases_length lcands clist.checks)) (Nat.le_refl _)
  have left := replaced_.sublist sublist
  refine ⟨?_, left.fits, ?_⟩
  · intro c' mem
    obtain ⟨c, _, become⟩ := forall₂_origin replaced (sublist.subset mem)
    exact become.based
  · have performed := List.pairwise_filter.1 left.performed.apart
    refine ((performed.and settled).and (ordered'.sublist sublist)).imp ?_
    intro a b facts same
    obtain ⟨⟨apart, notPruned⟩, order⟩ := facts
    cases toDo : b.state.toDo with
    | true =>
      have pruned : prunedBy lcands a b = true := by
        rw [prunedBy, toDo, Bool.true_and, Bool.or_eq_true]
        right
        rw [Bool.and_eq_true, decide_eq_true_eq, decide_eq_true_eq]
        exact ⟨same.1.symm, same.2.symm⟩
      cases notPruned.symm.trans pruned
    | false =>
      have performed_ : a.state.toDo = false := by
        rw [← Bool.not_eq_true]
        intro toDo'
        rw [order toDo'] at toDo
        cases toDo
      exact apart (by simp [performed_]) (by simp [toDo]) same

end Draft

/-! ## Sessions -/

/-- Neither the candidates nor the pairs of a session change, and what is valid stays. -/
structure Still (ice ice' : IceSess) : Prop where
  lcands : ice'.lcands = ice.lcands
  rcands : ice'.rcands = ice.rcands
  comps : ice'.comps = ice.comps
  compCnt : ice'.compCnt = ice.compCnt
  validList : ice'.validList = ice.validList
  pairs : ice'.clist.checks.map Check.pair = ice.clist.checks.map Check.pair

namespace Still

variable {ice ice' ice'' : IceSess}

theorem refl (ice : IceSess) : Still ice ice := ⟨rfl, rfl, rfl, rfl, rfl, rfl⟩

theorem trans (first : Still ice ice') (second : Still ice' ice'') : Still ice ice'' where
  lcands := second.lcands.trans first.lcands
  rcands := second.rcands.trans first.rcands
  comps := second.comps.trans first.comps
  compCnt := second.compCnt.trans first.compCnt
  validList := second.validList.trans first.validList
  pairs := second.pairs.trans first.pairs

theorem of_frame (frame : Frame ice ice')
    (pairs : ice'.clist.checks.map Check.pair = ice.clist.checks.map Check.pair) : Still ice ice' :=
  ⟨frame.lcands, frame.rcands, frame.comps, frame.compCnt, frame.validList, pairs⟩

end Still

theorem map_pair_modify {checks : List Check} {i : Nat} {f : Check → Check}
    (same : ∀ c, (f c).pair = c.pair) : (checks.modify i f).map Check.pair = checks.map Check.pair := by
  induction checks generalizing i with
  | nil => rw [List.modify_nil]
  | cons c rest ih =>
    cases i with
    | zero => rw [List.modify_zero_cons, List.map_cons, List.map_cons, same]
    | succ i => rw [List.modify_succ_cons, List.map_cons, List.map_cons, ih]

theorem calms_pairs {checks checks' : List Check} (calms : List.Forall₂ Calm checks checks') :
    checks'.map Check.pair = checks.map Check.pair := by
  induction calms with
  | nil => rfl
  | cons calm _ ih => rw [List.map_cons, List.map_cons, calm.pair, ih]

theorem Updated.still {ice ice' : IceSess} {check : Check} (updated : Updated check ice ice') :
    Still ice ice' :=
  .of_frame updated.frame (calms_pairs updated.calm)

theorem Performed.still {ice ice' : IceSess} {checkId : Nat} {nominate : Bool}
    (performed : Performed ice checkId nominate ice') : Still ice ice' := by
  refine .of_frame performed.frame ?_
  cases performed with
  | unmade => rfl
  | unsent => exact map_pair_modify fun _ => rfl
  | sent => exact map_pair_modify fun _ => rfl

namespace IceSess

variable {env : IceEnv} {ice : IceSess}

theorem modifySlot_still (i : Nat) (f : Check → Check) (same : ∀ c, (f c).pair = c.pair) :
    Still ice { ice with clist := ice.clist.modifySlot i f } :=
  ⟨rfl, rfl, rfl, rfl, rfl, map_pair_modify same⟩

theorem failCheck_still (ice : IceSess) (ckid : Nat) (status : IceStatus) :
    Still ice (ice.failCheck ckid status) :=
  (modifySlot_still ckid (Check.setState .failed status) fun _ => rfl).trans (failCheck_updated ice ckid status).still

theorem startPeriodicCheck_still (ice : IceSess) : Still ice (ice.startPeriodicCheck env) := by
  have checked := startPeriodicCheck_checked env ice
  generalize ice.startPeriodicCheck env = made at checked ⊢
  have running : Still ice ice.running := ⟨rfl, rfl, rfl, rfl, rfl, rfl⟩
  cases checked with
  | destroying => exact .refl ice
  | idle => exact running
  | sent _ _ performed =>
    have sent := running.trans performed.still
    exact sent.trans ⟨rfl, rfl, rfl, rfl, rfl, rfl⟩
  | @failed i ice₁ _ _ performed status =>
    have failed := (running.trans performed.still).trans (failCheck_still ice₁ i status)
    exact failed.trans ⟨rfl, rfl, rfl, rfl, rfl, rfl⟩

theorem onTimer_still (ice : IceSess) : Still ice ice.onTimer := by
  have off : Still ice { ice with timer := .none } := ⟨rfl, rfl, rfl, rfl, rfl, rfl⟩
  rw [onTimer]
  split
  · exact off
  split
  · exact off
  · exact off.trans (onIceComplete_updated _ {} _).still
  · split <;> exact ⟨rfl, rfl, rfl, rfl, rfl, rfl⟩
  · exact off.trans (startNominatedCheck_updated _ {}).still
  · exact ⟨rfl, rfl, rfl, rfl, rfl, rfl⟩

theorem endOfCandIndTimer_still (ice : IceSess) : Still ice ice.endOfCandIndTimer := by
  rw [endOfCandIndTimer]
  split
  · have ended : Still ice { ice with timerEndOfCand := false, isTrickling := false } :=
      ⟨rfl, rfl, rfl, rfl, rfl, rfl⟩
    exact ended.trans (checkIceComplete_updated _ {}).still
  · exact ⟨rfl, rfl, rfl, rfl, rfl, rfl⟩

theorem thawed_still (ice : IceSess) : Still ice ice.thawed := by
  obtain ⟨clist, eq, calms⟩ := ice.thawed_eq
  rw [eq]
  refine ⟨rfl, rfl, rfl, rfl, rfl, calms_pairs ?_⟩
  refine calms.imp fun c c' changes => ?_
  induction changes with
  | refl => exact Calm.refl c
  | tail _ change ih => exact ih.trans change

theorem clearTdata_still (ice : IceSess) (ckid : Nat) : Still ice (ice.clearTdata ckid) :=
  modifySlot_still ckid (fun c => { c with tdata := none }) fun _ => rfl

end IceSess

end Pjsip.Pjnath.Ice
