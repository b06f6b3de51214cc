import Pjsip.Pjnath.Ice.Backing
import Pjsip.Pjnath.Ice.ValidList

/-!
# Starting nominated checks

A controlling session that has not begun to nominate has nothing nominated, and each of its
valid pairs is backed by its check list: whenever nominated checks are started it is fit for
them, unless a step takes that away while the start is still waiting for the timer.
-/

namespace Pjsip.Pjnath.Ice

open Pjsip.Base

/-- The transport of a check and its remote candidate. -/
def IceSess.way (ice : IceSess) (c : Check) : Nat × Nat :=
  ((ice.lcand c.lcand).transportId, c.rcand)

/-- Nothing is nominated, and what is valid is backed. -/
structure Electable (ice : IceSess) : Prop where
  comps : ∀ i, (ice.comp i).nominatedCheck = none
  unmarked : ice.clist.Slots (·.nominated = false)
  valid : ∀ vc ∈ ice.validList, vc.nominated = false ∧ vc.errCode = .success
  backed : ∀ vc ∈ ice.validList, Backed ice.way (ice.way vc) ice.clist.checks

/-- The session is controlling, and has neither begun to nominate nor is it complete. -/
structure Electing (ice : IceSess) : Prop where
  role : ice.role = .controlling
  idle : ice.isNominating = false
  active : ice.isComplete = false

instance (ice : IceSess) : Decidable (Electing ice) :=
  decidable_of_iff (ice.role = .controlling ∧ ice.isNominating = false ∧ ice.isComplete = false)
    ⟨fun ⟨role, idle, active⟩ => ⟨role, idle, active⟩,
      fun ⟨role, idle, active⟩ => ⟨role, idle, active⟩⟩

/-- What a session keeps to. -/
structure Prepared (ice : IceSess) : Prop where
  starts : ∀ fit ∈ ice.starts, fit = true
  known : ice.role ≠ .unknown
  inside : ∀ c ∈ ice.clist.checks, c.lcand < ice.lcands.length
  validInside : ∀ c ∈ ice.validList, c.lcand < ice.lcands.length
  settled : ∀ c ∈ ice.clist.checks, c.Settled
  pointed : ice.Pointed
  armed : ice.timer = .startNominatedCheck → Electing ice ∧ ice.allComps Comp.validCheck = true
  electable : Electing ice → Electable ice

namespace IceSess

variable {env : IceEnv} {ice ice' : IceSess}

theorem sameWay_iff {vc c : Check} : ice.sameWay vc c = true ↔ ice.way c = ice.way vc := by
  rw [sameWay, way, way, Prod.mk.injEq, Bool.and_eq_true, decide_eq_true_eq, decide_eq_true_eq]

theorem way_pair (ice : IceSess) {c c' : Check} (same : c.pair = c'.pair) :
    ice.way c = ice.way c' := by
  rw [way, way, show c.lcand = c'.lcand from congrArg Prod.fst same,
    show c.rcand = c'.rcand from congrArg Prod.snd same]

theorem behind_backed {vc : Check} (backed : Backed ice.way (ice.way vc) ice.clist.checks) :
    ice.behind vc = true := by
  obtain ⟨led, c, mem, here, _⟩ := backed
  rw [behind]
  generalize ice.clist.checks = checks at led mem ⊢
  induction checks with
  | nil => cases mem
  | cons a rest ih =>
    rw [Led] at led
    by_cases first : ice.way a = ice.way vc
    · rw [if_pos first] at led
      rw [List.find?_cons_of_pos (sameWay_iff.2 first)]
      exact decide_eq_true led
    · rw [if_neg first] at led
      rw [List.find?_cons_of_neg fun same => first (sameWay_iff.1 same)]
      cases mem with
      | head => exact absurd here first
      | tail _ mem => exact ih led mem

theorem valid_mem {i : Nat} (inside : i < ice.validList.length) : ice.valid i ∈ ice.validList := by
  rw [valid, List.getD_eq_getElem _ _ inside]
  exact List.getElem_mem inside

theorem comp_cases (ice : IceSess) (i : Nat) : ice.comp i ∈ ice.comps ∨ ice.comp i = {} := by
  rw [comp, List.getD_eq_getElem?_getD]
  cases at_ : ice.comps[i]? with
  | none => exact .inr rfl
  | some comp => exact .inl (List.mem_of_getElem? at_)

theorem fitToNominate_electing (electing : Electing ice) (electable : Electable ice)
    (pointed : ice.Pointed) (all : ice.allComps Comp.validCheck = true) :
    ice.fitToNominate = true := by
  simp only [fitToNominate, electing.role, electing.idle, electing.active, Bool.not_false,
    decide_true, Bool.and_true, Bool.true_and, List.all_eq_true, Bool.and_eq_true]
  intro i mem
  have valid := List.all_eq_true.1 all i mem
  rcases ice.comp_cases i with here | fresh
  · refine ⟨Option.isNone_iff_eq_none.2 (electable.comps i), ?_⟩
    obtain ⟨vc, at_⟩ := Option.isSome_iff_exists.1 valid
    have there := valid_mem ((pointed _ here).1 vc at_)
    rw [at_]
    simp only [(electable.valid _ there).2, behind_backed (electable.backed _ there), decide_true,
      Bool.and_self]
  · rw [fresh] at valid
    cases valid

end IceSess

theorem Update.settled {ice : IceSess} {check c c' : Check} (update : Update ice check c c') :
    c'.Settled := by
  cases update with
  | unfreeze => exact ⟨nofun, nofun⟩
  | giveUp => exact ⟨nofun, fun _ => nofun⟩
  | cancel => exact ⟨nofun, fun _ => nofun⟩
  | renominate => exact ⟨nofun, nofun⟩

theorem Updated.entries {ice ice' : IceSess} {check : Check} (updated : Updated check ice ice')
    {P : Check → Prop} (keeps : ∀ c c', P c → Update ice check c c' → P c')
    (before : ∀ c ∈ ice.clist.checks, P c) : ∀ c ∈ ice'.clist.checks, P c := by
  intro c' mem
  obtain ⟨c, there, change⟩ := forall₂_origin updated.checks mem
  have start := before c there
  clear mem
  induction change with
  | refl => exact start
  | tail _ update ih => exact keeps _ _ ih update

theorem Updated.prepared {ice ice' : IceSess} {check : Check} (updated : Updated check ice ice')
    (prepared : Prepared ice) (starts : ∀ fit ∈ ice'.starts, fit = true)
    (armed : ice'.timer = .startNominatedCheck →
      Electing ice' ∧ ice'.allComps Comp.validCheck = true)
    (electable : Electing ice' → Electable ice') : Prepared ice' where
  starts := starts
  known := updated.frame.role ▸ prepared.known
  inside := by
    rw [updated.frame.lcands]
    refine updated.entries (fun c c' inside update => ?_) prepared.inside
    rw [update.calm.lcand]
    exact inside
  validInside := by
    rw [updated.frame.validList, updated.frame.lcands]
    exact prepared.validInside
  settled := updated.entries (fun _ _ _ update => update.settled) prepared.settled
  pointed := updated.frame.listed.pointed prepared.pointed
  armed := armed
  electable := electable

section Completing

variable {ice ice' : IceSess}

theorem startNominatedCheck_prepared (prepared : Prepared ice) (fit : ice.fitToNominate = true) :
    Prepared ice.startNominatedCheck := by
  have updated := startNominatedCheck_updated ice {}
  obtain ⟨clist, eq⟩ := ice.startNominatedCheck_eq
  refine updated.prepared prepared ?_ ?_ ?_
  · rw [eq]
    intro start mem
    rcases List.mem_cons.1 mem with rfl | mem
    · exact fit
    · exact prepared.starts start mem
  · rw [eq]
    split
    · nofun
    · next other => exact fun armed => absurd armed other
  · rw [eq]
    exact fun electing => Bool.noConfusion electing.idle

theorem onIceComplete_prepared (prepared : Prepared ice) (status : IceStatus) :
    Prepared (ice.onIceComplete status) := by
  have updated := onIceComplete_updated ice {} status
  rw [IceSess.onIceComplete] at updated ⊢
  split
  · exact prepared
  · next active =>
    rw [if_neg active] at updated
    exact updated.prepared prepared prepared.starts (by simp) fun electing =>
      Bool.noConfusion electing.active

theorem Prepared.keep (prepared : Prepared ice) (clist : ice'.clist = ice.clist)
    (lcands : ice'.lcands = ice.lcands) (validList : ice'.validList = ice.validList)
    (comps : ice'.comps = ice.comps) (starts : ice'.starts = ice.starts)
    (known : ice'.role ≠ .unknown)
    (armed : ice'.timer = .startNominatedCheck →
      Electing ice' ∧ ice'.allComps Comp.validCheck = true)
    (electing : Electing ice' → Electable ice) : Prepared ice' where
  starts := starts ▸ prepared.starts
  known := known
  inside := by
    rw [clist, lcands]
    exact prepared.inside
  validInside := by
    rw [validList, lcands]
    exact prepared.validInside
  settled := clist ▸ prepared.settled
  pointed := (Listed.of_eq validList comps).pointed prepared.pointed
  armed := armed
  electable := by
    intro electing'
    obtain ⟨comps', unmarked, valid, backed⟩ := electing electing'
    have way : ice'.way = ice.way := by
      funext c
      rw [IceSess.way, IceSess.way, IceSess.lcand, IceSess.lcand, lcands]
    refine ⟨?_, clist ▸ unmarked, validList ▸ valid, ?_⟩
    · intro i
      rw [IceSess.comp, comps]
      exact comps' i
    · rw [way, clist, validList]
      exact backed

/-- No nominated checks are started in a session that is complete. -/
def Past (ice : IceSess) : Prop :=
  ice.isComplete = true → ¬ (ice.role = .controlling ∧ ice.isNominating = false)

theorem checkIceComplete_prepared (prepared : Prepared ice) (past : Past ice) :
    Prepared ice.checkIceComplete.1 := by
  have electing : ice.role ≠ .controlled → ice.isNominating = false → Electing ice := by
    intro role idle
    have controlling : ice.role = .controlling := by
      cases is : ice.role with
      | unknown => exact absurd is prepared.known
      | controlled => exact absurd is role
      | controlling => rfl
    exact ⟨controlling, idle, Bool.not_eq_true _ ▸ fun complete => past complete ⟨controlling, idle⟩⟩
  unfold IceSess.checkIceComplete
  split
  · exact onIceComplete_prepared prepared .success
  split
  · split
    · split
      · exact onIceComplete_prepared prepared .eicefailed
      split
      · exact prepared.keep rfl rfl rfl rfl rfl prepared.known nofun fun electing =>
          prepared.electable { electing with }
      · exact prepared
    · next role =>
      split
      · exact onIceComplete_prepared prepared .eicefailed
      next idle =>
      split
      · exact onIceComplete_prepared prepared .eicefailed
      · next all =>
        have ready := electing role (Bool.not_eq_true _ ▸ idle)
        refine startNominatedCheck_prepared prepared ?_
        exact IceSess.fitToNominate_electing ready (prepared.electable ready) prepared.pointed
          (by simpa using all)
  · split
    · next waits =>
      have ready := electing (by rw [waits.1]; nofun) waits.2.1
      exact prepared.keep rfl rfl rfl rfl rfl prepared.known
        (fun _ => ⟨{ ready with }, waits.2.2.2⟩) fun _ =>
          prepared.electable ready
    · exact prepared

/-- Nothing has changed but the list and what is sent. -/
structure Same (ice ice' : IceSess) : Prop where
  frame : Frame ice ice'
  isNominating : ice'.isNominating = ice.isNominating
  isComplete : ice'.isComplete = ice.isComplete
  timer : ice'.timer = ice.timer
  starts : ice'.starts = ice.starts

theorem Same.electing (same : Same ice ice') : Electing ice' ↔ Electing ice := by
  constructor
  · exact fun ⟨role, idle, active⟩ => ⟨same.frame.role ▸ role, same.isNominating ▸ idle,
      same.isComplete ▸ active⟩
  · exact fun ⟨role, idle, active⟩ => ⟨same.frame.role.trans role, same.isNominating.trans idle,
      same.isComplete.trans active⟩

theorem Same.past (same : Same ice ice') (past : Past ice) : Past ice' := by
  rw [Past, same.isComplete, same.frame.role, same.isNominating]
  exact past

theorem Frame.way (frame : Frame ice ice') : ice'.way = ice.way := by
  funext c
  rw [IceSess.way, IceSess.way, frame.lcand]

theorem Prepared.relist (prepared : Prepared ice) (same : Same ice ice')
    (inside : ∀ c ∈ ice'.clist.checks, c.lcand < ice.lcands.length)
    (settled : ∀ c ∈ ice'.clist.checks, c.Settled)
    (electing : Electing ice → Electable ice → ice'.clist.Slots (·.nominated = false)
      ∧ ∀ vc ∈ ice.validList, Backed ice.way (ice.way vc) ice.clist.checks →
        Backed ice.way (ice.way vc) ice'.clist.checks) : Prepared ice' where
  starts := same.starts ▸ prepared.starts
  known := same.frame.role ▸ prepared.known
  inside := same.frame.lcands ▸ inside
  validInside := by
    rw [same.frame.validList, same.frame.lcands]
    exact prepared.validInside
  settled := settled
  pointed := same.frame.listed.pointed prepared.pointed
  armed := by
    intro armed
    obtain ⟨ready, all⟩ := prepared.armed (same.timer ▸ armed)
    exact ⟨same.electing.2 ready, (same.frame.allComps _).trans all⟩
  electable := by
    intro ready
    have ready := same.electing.1 ready
    have before := prepared.electable ready
    obtain ⟨unmarked, backed⟩ := electing ready before
    refine ⟨same.frame.comp ▸ before.comps, unmarked, same.frame.validList ▸ before.valid, ?_⟩
    rw [same.frame.validList, same.frame.way]
    exact fun vc mem => backed vc mem (before.backed vc mem)

theorem Prepared.same (prepared : Prepared ice) (same : Same ice ice')
    (clist : ice'.clist.checks = ice.clist.checks) (stale : ice'.clist.stale = ice.clist.stale) :
    Prepared ice' := by
  refine prepared.relist same (clist ▸ prepared.inside) (clist ▸ prepared.settled) ?_
  intro _ before
  rw [Checklist.Slots, clist, stale]
  exact ⟨before.unmarked, fun _ _ backed => backed⟩

theorem Prepared.mapChecks (prepared : Prepared ice) {f : Check → Check}
    (lcand : ∀ c, (f c).lcand = c.lcand) (rcand : ∀ c, (f c).rcand = c.rcand)
    (settled : ∀ c, c.Settled → (f c).Settled)
    (electing : Electing ice → ∀ c, (c.nominated = false → (f c).nominated = false)
      ∧ (c.state = .succeeded → (f c).state = .succeeded)
      ∧ (c.errCode = .success → (f c).errCode = .success)) (pending : List Request) :
    Prepared { ice with clist := ice.clist.mapChecks f, pending } := by
  refine prepared.relist ⟨by constructor <;> rfl, rfl, rfl, rfl, rfl⟩ ?_ ?_ ?_
  · intro c mem
    obtain ⟨d, there, rfl⟩ := List.mem_map.1 mem
    rw [lcand]
    exact prepared.inside d there
  · intro c mem
    obtain ⟨d, there, rfl⟩ := List.mem_map.1 mem
    exact settled d (prepared.settled d there)
  · intro ready before
    refine ⟨before.unmarked.mapChecks fun c => (electing ready c).1, fun vc _ backed => ?_⟩
    refine backed.map (fun c => ?_) (fun c => (electing ready c).2.1) fun c => (electing ready c).2.2
    rw [IceSess.way, IceSess.way, lcand, rcand]

theorem onCheckComplete_prepared (prepared : Prepared ice) (past : Past ice) {check : Check}
    (plain : Electing ice → check.nominated = false) :
    Prepared (ice.onCheckComplete check).1 := by
  have thawed : Prepared (if check.errCode = .success then
      { ice with clist := ice.clist.mapChecks (IceSess.unfreeze check) } else ice) := by
    split
    · refine prepared.mapChecks ?_ ?_ ?_ ?_ ice.pending <;> intro c
      · rw [IceSess.unfreeze]
        split <;> rfl
      · rw [IceSess.unfreeze]
        split <;> rfl
      · rw [IceSess.unfreeze]
        split
        · exact fun _ => ⟨by rintro ⟨⟩, by rintro ⟨⟩⟩
        · exact id
      · intro c
        rw [IceSess.unfreeze]
        split
        · next frozen =>
          refine ⟨id, fun state => ?_, fun _ => rfl⟩
          rw [frozen.2] at state
          cases state
        · exact ⟨id, id, id⟩
    · exact prepared
  have same : Same ice (if check.errCode = .success then
      { ice with clist := ice.clist.mapChecks (IceSess.unfreeze check) } else ice) := by
    split <;> exact ⟨by constructor <;> rfl, rfl, rfl, rfl, rfl⟩
  rw [IceSess.onCheckComplete]
  generalize (if check.errCode = .success then
    { ice with clist := ice.clist.mapChecks (IceSess.unfreeze check) } else ice) = ice₁
    at thawed same ⊢
  have past₁ := same.past past
  split
  · next nominated =>
    refine checkIceComplete_prepared ?_ past₁
    refine thawed.mapChecks ?_ ?_ ?_ ?_ _ <;> intro c
    · rw [IceSess.giveUp]
      split
      · rfl
      · split <;> rfl
    · rw [IceSess.giveUp]
      split
      · rfl
      · split <;> rfl
    · rw [IceSess.giveUp]
      split
      · exact fun _ => ⟨by rintro ⟨⟩, fun _ => by rintro ⟨⟩⟩
      split
      · exact fun _ => ⟨by rintro ⟨⟩, fun _ => by rintro ⟨⟩⟩
      · exact id
    · have electing := same.electing.1 c
      rw [plain electing] at nominated
      cases nominated.2
  · exact checkIceComplete_prepared thawed past₁

theorem Prepared.modifySlot (prepared : Prepared ice) {i : Nat}
    {f : Check → Check} (same : Same ice ice') (changed : ice'.clist = ice.clist.modifySlot i f)
    (lcand : ∀ c, (f c).lcand = c.lcand) (rcand : ∀ c, (f c).rcand = c.rcand)
    (settled : ∀ c, c.Settled → (f c).Settled)
    (electing : Electing ice → Electable ice → (∀ c, c.nominated = false → (f c).nominated = false)
      ∧ ∀ vc ∈ ice.validList, ∀ c, ice.clist.checks[i]? = some c → ice.way c = ice.way vc →
        (c.state = .succeeded → (f c).state = .succeeded)
          ∧ ((∀ a ∈ ice.clist.checks.take i, ice.way a ≠ ice.way vc) → c.errCode = .success →
            (f c).errCode = .success)) : Prepared ice' := by
  have entries : ∀ {P : Check → Prop}, (∀ c, P c → P (f c)) → (∀ c ∈ ice.clist.checks, P c) →
      ∀ c ∈ ice'.clist.checks, P c := by
    intro P keeps before
    rw [changed, Checklist.modifySlot_checks]
    exact forall_mem_modify before keeps
  refine prepared.relist same ?_ (entries settled prepared.settled) ?_
  · refine entries (fun c inside => ?_) prepared.inside
    rw [lcand]
    exact inside
  · intro ready before
    obtain ⟨unmarked, change⟩ := electing ready before
    rw [changed]
    refine ⟨before.unmarked.modifySlot unmarked, fun vc mem backed => ?_⟩
    refine backed.modify (fun c => ?_) (change vc mem)
    rw [IceSess.way, IceSess.way, lcand, rcand]

theorem Performed.same {checkId : Nat} {nominate : Bool}
    (performed : Performed ice checkId nominate ice') : Same ice ice' := by
  refine ⟨performed.frame, ?_, ?_, ?_, ?_⟩ <;> cases performed <;> rfl

theorem Performed.prepared {checkId : Nat} {nominate : Bool}
    (performed : Performed ice checkId nominate ice') (prepared : Prepared ice)
    (plain : Electing ice → nominate = false)
    (idle : Electing ice → ∀ c, ice.clist.checks[checkId]? = some c → c.state ≠ .succeeded) :
    Prepared ice' := by
  have same := performed.same
  have unmarked : Electing ice → Electable ice →
      ((ice.clist.slot checkId).nominated || (ice.role = .controlling && nominate)) = false := by
    intro ready before
    rw [plain ready, before.unmarked.slot rfl checkId, Bool.and_false]
    rfl
  cases performed with
  | unmade => exact prepared.same same rfl rfl
  | unsent =>
    refine prepared.modifySlot same rfl (fun _ => rfl) (fun _ => rfl)
      (fun _ settled => ⟨settled.succeeded, settled.failed⟩) fun ready before => ?_
    exact ⟨fun _ _ => unmarked ready before, fun _ _ _ _ _ => ⟨id, fun _ => id⟩⟩
  | sent tdata =>
    refine prepared.modifySlot same rfl (fun _ => rfl) (fun _ => rfl)
      (fun _ _ => ⟨nofun, nofun⟩) fun ready before => ?_
    refine ⟨fun _ _ => unmarked ready before, fun _ _ c at_ _ => ⟨fun state => ?_, fun _ _ => rfl⟩⟩
    exact absurd state (idle ready c at_)

/-- A check may fail if no valid pair depends on it: it has not succeeded, and another one leads. -/
def Spare (ice : IceSess) (i : Nat) : Prop :=
  ∀ vc ∈ ice.validList, ∀ c ∈ ice.clist.checks[i]?, ice.way c = ice.way vc →
    c.state ≠ .succeeded ∧ ∃ a ∈ ice.clist.checks.take i, ice.way a = ice.way vc

theorem failCheck_prepared (prepared : Prepared ice) (past : Past ice) (i : Nat)
    {status : IceStatus} (error : status ≠ .success) (spare : Electing ice → Spare ice i) :
    Prepared (ice.failCheck i status) := by
  have same : Same ice
      { ice with clist := ice.clist.modifySlot i (Check.setState .failed status) } :=
    ⟨by constructor <;> rfl, rfl, rfl, rfl, rfl⟩
  have failed : Prepared
      { ice with clist := ice.clist.modifySlot i (Check.setState .failed status) } := by
    refine prepared.modifySlot same rfl (fun _ => rfl) (fun _ => rfl)
      (fun _ _ => ⟨nofun, fun _ => error⟩) fun ready before => ?_
    refine ⟨fun _ plain => plain, fun vc mem c at_ here => ?_⟩
    obtain ⟨idle, a, earlier, same⟩ := spare ready vc mem c at_ here
    exact ⟨fun state => absurd state idle, fun unbacked => absurd same (unbacked a earlier)⟩
  refine onCheckComplete_prepared failed (same.past past) fun ready => ?_
  exact (failed.electable ready).unmarked.slot rfl i

/-! ## Pairs that become valid -/

theorem enterValid_eq (ice : IceSess) (ckid l : Nat) : ∃ validList comps,
    ice.enterValid ckid l = { ice with validList, comps } := by
  rw [IceSess.enterValid, IceSess.updateCompCheck_eq]
  exact ⟨_, _, rfl⟩

theorem updateCompCheck_comp (ice : IceSess) (compId check i : Nat) :
    (ice.updateCompCheck compId check).comp i = ice.comp i
      ∨ (ice.updateCompCheck compId check).comp i = ice.updateComp (ice.comp i) check := by
  rw [IceSess.updateCompCheck]
  split
  · exact .inl rfl
  · simp only [IceSess.comp, List.getD_eq_getElem?_getD, List.getElem?_modify]
    cases ice.comps[i]? with
    | none => exact .inl rfl
    | some comp =>
      show (if compId - 1 = i then ice.updateComp comp check else comp) = comp
        ∨ (if compId - 1 = i then ice.updateComp comp check else comp) = ice.updateComp comp check
      split
      · exact .inr rfl
      · exact .inl rfl

theorem sortValid_comp (ice : IceSess) (i : Nat) :
    let follow := Option.map (followExchanges (selectionSort higherCheck ice.validList).2)
    ice.sortValid.comp i = ⟨follow (ice.comp i).validCheck, follow (ice.comp i).nominatedCheck⟩ := by
  intro follow
  show (ice.comps.map fun comp : Comp =>
    (⟨follow comp.validCheck, follow comp.nominatedCheck⟩ : Comp)).getD i {} = _
  rw [IceSess.comp, List.getD_eq_getElem?_getD, List.getD_eq_getElem?_getD, List.getElem?_map]
  cases ice.comps[i]? <;> rfl

theorem updateComp_validCheck (ice : IceSess) (comp : Comp) (check : Nat) :
    (ice.updateComp comp check).validCheck.isSome = true := by
  rw [IceSess.updateComp]
  split
  · rfl
  · split <;> rfl

theorem enterValid_validCheck (ice : IceSess) (ckid l : Nat) {i : Nat}
    (valid : (ice.comp i).validCheck.isSome = true) :
    ((ice.enterValid ckid l).comp i).validCheck.isSome = true := by
  rw [IceSess.enterValid, sortValid_comp, Option.isSome_map]
  rcases updateCompCheck_comp { ice with validList := (ice.withValid ckid l).1 }
    (ice.lcand l).compId (ice.withValid ckid l).2 i with same | updated
  · rw [same]
    exact valid
  · rw [updated]
    exact updateComp_validCheck _ _ _

theorem withValid_nominated (ice : IceSess) (ckid l : Nat) :
    (({ ice with validList := (ice.withValid ckid l).1 } : IceSess).valid
      (ice.withValid ckid l).2).nominated = (ice.clist.slot ckid).nominated := by
  simp only [IceSess.valid, List.getD_eq_getElem?_getD]
  rw [IceSess.withValid]
  split
  · simp
  · next i found =>
    obtain ⟨inside, _⟩ := List.findIdx?_eq_some_iff_getElem.1 found
    simp [inside]

theorem enterValid_comps (ice : IceSess) (ckid l : Nat)
    (plain : (ice.clist.slot ckid).nominated = false)
    (comps : ∀ i, (ice.comp i).nominatedCheck = none) (i : Nat) :
    ((ice.enterValid ckid l).comp i).nominatedCheck = none := by
  rw [IceSess.enterValid, sortValid_comp, Option.map_eq_none_iff]
  rcases updateCompCheck_comp { ice with validList := (ice.withValid ckid l).1 }
    (ice.lcand l).compId (ice.withValid ckid l).2 i with same | updated
  · rw [same]
    exact comps i
  · rw [updated, IceSess.updateComp, withValid_nominated, plain]
    exact comps i

theorem enterValid_valid (ice : IceSess) (ckid l : Nat)
    (plain : (ice.clist.slot ckid).nominated = false)
    (valid : ∀ vc ∈ ice.validList, vc.nominated = false ∧ vc.errCode = .success) :
    ∀ vc ∈ (ice.enterValid ckid l).validList, vc.nominated = false ∧ vc.errCode = .success := by
  intro vc mem
  have mem := (IceSess.sortValid_perm _).mem_iff.1 mem
  rw [IceSess.updateCompCheck_eq, IceSess.withValid] at mem
  split at mem
  · refine forall_mem_concat valid ?_ vc mem
    exact ⟨plain, rfl⟩
  · have keeps : ∀ c : Check, c.nominated = false ∧ c.errCode = .success →
        { c with nominated := (ice.clist.slot ckid).nominated }.nominated = false
          ∧ c.errCode = .success := fun _ before => ⟨plain, before.2⟩
    exact forall_mem_modify valid keeps vc mem

/-- What a succeeded check proves of a pair of this transport: the check is in the list, the pair
goes its way, and no check with an error is ahead of it. -/
structure Proves (ice : IceSess) (ckid transportId : Nat) : Prop where
  inside : ckid < ice.clist.checks.length
  transport : transportId = (ice.lcand (ice.clist.slot ckid).lcand).transportId
  led : Led ice.way (ice.way (ice.clist.slot ckid)) (ice.clist.checks.take ckid)

theorem makeValid_prepared (prepared : Prepared ice) (past : Past ice) {ckid l : Nat}
    (known : l < ice.lcands.length) (proves : Electing ice → Proves ice ckid (ice.lcand l).transportId) :
    Prepared (ice.makeValid ckid l) := by
  have comp := fun i => enterValid_validCheck ice ckid l (i := i)
  have comps := enterValid_comps ice ckid l
  have valid := enterValid_valid ice ckid l
  have pairs := fun vc (mem : vc ∈ (ice.enterValid ckid l).validList) =>
    ice.enterValid_pairs ckid l mem
  have pointed := IceSess.enterValid_pointed prepared.pointed ckid l
  rw [IceSess.makeValid_enters]
  obtain ⟨validList, comps', eq⟩ := enterValid_eq ice ckid l
  rw [eq] at comp comps valid pairs pointed ⊢
  have settle : ∀ c : Check, (Check.setState .succeeded .success c).Settled :=
    fun _ => ⟨fun _ => rfl, nofun⟩
  have entered : Prepared { ice with
      validList, comps := comps'
      clist := ice.clist.modifySlot ckid (Check.setState .succeeded .success) } := by
    refine ⟨prepared.starts, prepared.known, ?_, ?_, ?_, ?_, ?_, ?_⟩
    · exact forall_mem_modify prepared.inside fun _ inside => inside
    · intro c mem
      show c.lcand < ice.lcands.length
      rcases pairs c mem with ⟨d, there, same⟩ | new
      · have lcand : d.lcand = c.lcand := congrArg Prod.fst same
        exact lcand ▸ prepared.validInside d there
      · have lcand : c.lcand = l := congrArg Prod.fst new
        exact lcand ▸ known
    · exact forall_mem_modify prepared.settled fun c _ => settle c
    · exact (Listed.of_eq rfl rfl).pointed pointed
    · intro armed
      obtain ⟨ready, all⟩ := prepared.armed armed
      refine ⟨{ ready with }, List.all_eq_true.2 fun i mem => ?_⟩
      exact comp i (List.all_eq_true.1 all i mem)
    · intro ready
      have before := prepared.electable { ready with }
      have plain := before.unmarked.slot rfl ckid
      refine ⟨comps plain before.comps, before.unmarked.modifySlot fun _ plain => plain,
        valid plain before.valid, ?_⟩
      intro vc mem
      show Backed ice.way (ice.way vc)
        (ice.clist.checks.modify ckid (Check.setState .succeeded .success))
      rcases pairs vc mem with ⟨d, there, same⟩ | new
      · rw [← IceSess.way_pair ice same]
        exact (before.backed d there).modify (fun _ => rfl) fun _ _ _ =>
          ⟨fun _ => rfl, fun _ _ => rfl⟩
      · obtain ⟨inside, transport, led⟩ := proves { ready with }
        have way : ice.way vc = ice.way (ice.clist.slot ckid) := by
          rw [IceSess.way, IceSess.way, ← transport, show vc.lcand = l from congrArg Prod.fst new,
            show vc.rcand = (ice.clist.slot ckid).rcand from congrArg Prod.snd new]
        rw [way]
        exact Backed.enter ((Checklist.slot_at _ inside)) rfl led (fun _ => rfl) rfl rfl
  refine onCheckComplete_prepared entered past fun ready => ?_
  exact (entered.electable ready).unmarked.slot rfl ckid

end Completing

end Pjsip.Pjnath.Ice
