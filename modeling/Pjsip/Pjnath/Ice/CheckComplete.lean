import Pjsip.Pjnath.Ice.Pairs

/-!
# The end of a check

`on_check_complete` goes through the whole list: the checks of the foundation are thawed, those
of a component that has a nominated pair are given up, and in the end nominated checks may be
started for the pairs that are valid. No check is added, dropped or put in progress.
-/

namespace Pjsip.Pjnath.Ice

open Pjsip.Base

namespace IceSess

/-- The session before the first round of `start_nominated_check`. -/
def nominationBegun (ice : IceSess) : IceSess := { ice with
  starts := ice.fitToNominate :: ice.starts
  isTrickling := false
  timer := if ice.timer = .startNominatedCheck then .none else ice.timer }

/-- The round for one component: the check that is behind its valid pair is nominated. -/
def renominateComp (ice : IceSess) (i : Nat) : IceSess :=
  match (ice.comp i).validCheck with
  | some vc => ice.renominate (ice.valid vc)
  | none => ice

theorem startNominatedCheck_eq (ice : IceSess) : ∃ clist, ice.startNominatedCheck = { ice with
      starts := ice.fitToNominate :: ice.starts
      isTrickling := false
      timer := if ice.timer = .startNominatedCheck then .none else ice.timer
      clist, clistTimer := true, isNominating := true } := by
  obtain ⟨clist, eq⟩ : ∃ clist, (List.range ice.compCnt).foldl renominateComp ice.nominationBegun
      = { ice.nominationBegun with clist } := by
    refine List.foldlRecOn (motive := fun ice₁ => ∃ clist, ice₁ = { ice.nominationBegun with clist })
      _ _ ⟨ice.clist, rfl⟩ ?_
    rintro _ ⟨clist, rfl⟩ i -
    rw [renominateComp]
    split
    · exact ⟨_, rfl⟩
    · exact ⟨clist, rfl⟩
  exact ⟨clist, congrArg (fun ice : IceSess =>
    { ice with clistTimer := true, isNominating := true }) eq⟩

end IceSess

/-- What sending and completing checks leaves as it is. -/
structure Frame (ice ice' : IceSess) : Prop where
  role : ice'.role = ice.role
  aggressive : ice'.aggressive = ice.aggressive
  trickle : ice'.trickle = ice.trickle
  lcands : ice'.lcands = ice.lcands
  rcands : ice'.rcands = ice.rcands
  comps : ice'.comps = ice.comps
  compCnt : ice'.compCnt = ice.compCnt
  validList : ice'.validList = ice.validList
  txUfrag : ice'.txUfrag = ice.txUfrag
  isDestroying : ice'.isDestroying = ice.isDestroying
  earlyCheck : ice'.earlyCheck = ice.earlyCheck

namespace Frame

variable {ice ice' ice'' : IceSess}

theorem refl (ice : IceSess) : Frame ice ice := by
  constructor <;> rfl

theorem trans (first : Frame ice ice') (second : Frame ice' ice'') : Frame ice ice'' where
  role := second.role.trans first.role
  aggressive := second.aggressive.trans first.aggressive
  trickle := second.trickle.trans first.trickle
  lcands := second.lcands.trans first.lcands
  rcands := second.rcands.trans first.rcands
  comps := second.comps.trans first.comps
  compCnt := second.compCnt.trans first.compCnt
  validList := second.validList.trans first.validList
  txUfrag := second.txUfrag.trans first.txUfrag
  isDestroying := second.isDestroying.trans first.isDestroying
  earlyCheck := second.earlyCheck.trans first.earlyCheck

theorem symm (frame : Frame ice ice') : Frame ice' ice where
  role := frame.role.symm
  aggressive := frame.aggressive.symm
  trickle := frame.trickle.symm
  lcands := frame.lcands.symm
  rcands := frame.rcands.symm
  comps := frame.comps.symm
  compCnt := frame.compCnt.symm
  validList := frame.validList.symm
  txUfrag := frame.txUfrag.symm
  isDestroying := frame.isDestroying.symm
  earlyCheck := frame.earlyCheck.symm

theorem lcand (frame : Frame ice ice') : ice'.lcand = ice.lcand := by
  funext i
  rw [IceSess.lcand, IceSess.lcand, frame.lcands]

theorem comp (frame : Frame ice ice') : ice'.comp = ice.comp := by
  funext i
  rw [IceSess.comp, IceSess.comp, frame.comps]

theorem valid (frame : Frame ice ice') : ice'.valid = ice.valid := by
  funext i
  rw [IceSess.valid, IceSess.valid, frame.validList]

theorem compId (frame : Frame ice ice') : ice'.compId = ice.compId := by
  funext c
  rw [IceSess.compId, IceSess.compId, frame.lcand]

theorem sameWay (frame : Frame ice ice') : ice'.sameWay = ice.sameWay := by
  funext vc c
  rw [IceSess.sameWay, IceSess.sameWay, frame.lcand]

theorem allComps (frame : Frame ice ice') (has : Comp → Option Nat) :
    ice'.allComps has = ice.allComps has := by
  rw [IceSess.allComps, IceSess.allComps, frame.compCnt, frame.comp]

end Frame

/-- What becomes of a check of the list when `check` is complete. -/
inductive Update (ice : IceSess) (check : Check) : Check → Check → Prop
  | unfreeze {c : Check} (ok : check.errCode = .success)
      (same : c.foundationIdx = check.foundationIdx) (frozen : c.state = .frozen) :
      Update ice check c (c.setState .waiting .success)
  | giveUp {c : Check} (ok : check.errCode = .success) (nominated : check.nominated)
      (same : ice.compId c = ice.compId check) (toDo : c.state.toDo) :
      Update ice check c (c.setState .failed .ecancelled)
  | cancel {c : Check} (ok : check.errCode = .success) (nominated : check.nominated)
      (same : ice.compId c = ice.compId check) (progress : c.state = .inProgress) :
      Update ice check c ({ c with tdata := none }.setState .failed .ecancelled)
  | renominate {c : Check} {i vc : Nat} (valid : (ice.comp i).validCheck = some vc)
      (way : ice.sameWay (ice.valid vc) c) :
      Update ice check c (c.setState .waiting .success)

section Update

variable {ice ice' : IceSess} {check c c' : Check}

theorem Frame.update (frame : Frame ice ice') (update : Update ice' check c c') :
    Update ice check c c' := by
  cases update with
  | unfreeze ok same frozen => exact .unfreeze ok same frozen
  | giveUp ok nominated same toDo =>
    rw [frame.compId] at same
    exact .giveUp ok nominated same toDo
  | cancel ok nominated same progress =>
    rw [frame.compId] at same
    exact .cancel ok nominated same progress
  | renominate valid way =>
    rw [frame.comp] at valid
    rw [frame.sameWay, frame.valid] at way
    exact .renominate valid way

theorem Update.calm (update : Update ice check c c') : Calm c c' := by
  cases update <;> exact ⟨rfl, rfl, nofun⟩

theorem Update.tdata (update : Update ice check c c') : c'.tdata = c.tdata ∨ c'.tdata = none := by
  cases update with
  | cancel => exact .inr rfl
  | _ => exact .inl rfl

theorem updates_calm (updates : Relation.ReflTransGen (Update ice check) c c') : Calm c c' := by
  induction updates with
  | refl => exact Calm.refl c
  | tail _ update ih => exact ih.trans update.calm

theorem updates_tdata (updates : Relation.ReflTransGen (Update ice check) c c') :
    c'.tdata = c.tdata ∨ c'.tdata = none := by
  induction updates with
  | refl => exact .inl rfl
  | tail _ update ih =>
    rcases update.tdata with same | cleared
    · rw [same]
      exact ih
    · exact .inr cleared

end Update

/-- `ice'` is `ice` with its checks gone through when `check` is complete. -/
structure Updated (check : Check) (ice ice' : IceSess) : Prop where
  frame : Frame ice ice'
  sent : ice'.sent = ice.sent
  stale : ice'.clist.stale = ice.clist.stale
  checks : Entrywise (Update ice check) ice.clist.checks ice'.clist.checks

namespace Updated

variable {ice ice' ice'' : IceSess} {check : Check}

theorem refl (check : Check) (ice : IceSess) : Updated check ice ice :=
  ⟨Frame.refl ice, rfl, rfl, Entrywise.refl _⟩

theorem trans (first : Updated check ice ice') (second : Updated check ice' ice'') :
    Updated check ice ice'' where
  frame := first.frame.trans second.frame
  sent := second.sent.trans first.sent
  stale := second.stale.trans first.stale
  checks := first.checks.trans (second.checks.mono fun _ _ => first.frame.update)

theorem calm (updated : Updated check ice ice') :
    List.Forall₂ Calm ice.clist.checks ice'.clist.checks :=
  updated.checks.imp fun _ _ => updates_calm

theorem sound (updated : Updated check ice ice')
    (sound : Sound ice.lcands ice.sent ice.clist.checks) :
    Sound ice'.lcands ice'.sent ice'.clist.checks := by
  rw [updated.frame.lcands, updated.sent]
  exact sound.calm updated.calm

end Updated

section Complete

variable (ice : IceSess) (check : Check)

theorem onIceComplete_updated (status : IceStatus) :
    Updated check ice (ice.onIceComplete status) := by
  rw [IceSess.onIceComplete]
  split
  · exact .refl check ice
  · exact ⟨by constructor <;> rfl, rfl, rfl, Entrywise.refl _⟩

theorem renominate_updated {i vc : Nat} (valid : (ice.comp i).validCheck = some vc) :
    Updated check ice (ice.renominate (ice.valid vc)) := by
  refine ⟨by constructor <;> rfl, rfl, rfl, Entrywise.modify ?_⟩
  intro c at_
  obtain ⟨inside, here⟩ := List.getElem?_eq_some_iff.1 at_
  refine .renominate valid ?_
  have found := List.findIdx_getElem (w := inside)
  rwa [here] at found

theorem startNominatedCheck_updated : Updated check ice ice.startNominatedCheck := by
  have start : Updated check ice ice.nominationBegun :=
    ⟨by constructor <;> rfl, rfl, rfl, Entrywise.refl _⟩
  have rounds : Updated check ice ((List.range ice.compCnt).foldl IceSess.renominateComp
      ice.nominationBegun) := by
    refine List.foldlRecOn _ _ start fun ice₁ updated i _ => updated.trans ?_
    rw [IceSess.renominateComp]
    split
    · next vc valid => exact renominate_updated ice₁ check valid
    · exact .refl check ice₁
  exact rounds.trans ⟨by constructor <;> rfl, rfl, rfl, Entrywise.refl _⟩

theorem checkIceComplete_updated : Updated check ice ice.checkIceComplete.1 := by
  unfold IceSess.checkIceComplete
  split
  · exact onIceComplete_updated ice check .success
  · split
    · split
      · split
        · exact onIceComplete_updated ice check .eicefailed
        · split
          · exact ⟨by constructor <;> rfl, rfl, rfl, Entrywise.refl _⟩
          · exact .refl check ice
      · split
        · exact onIceComplete_updated ice check .eicefailed
        · split
          · exact onIceComplete_updated ice check .eicefailed
          · exact startNominatedCheck_updated ice check
    · split
      · exact ⟨by constructor <;> rfl, rfl, rfl, Entrywise.refl _⟩
      · exact .refl check ice

theorem onCheckComplete_updated : Updated check ice (ice.onCheckComplete check).1 := by
  rw [IceSess.onCheckComplete]
  have thawed : Updated check ice (if check.errCode = .success then
        { ice with clist := ice.clist.mapChecks (IceSess.unfreeze check) }
      else ice) := by
    split
    · rename_i ok
      refine ⟨by constructor <;> rfl, rfl, rfl, Entrywise.map ?_⟩
      intro c _
      rw [IceSess.unfreeze]
      split
      · rename_i frozen
        exact .inr (.unfreeze ok frozen.1 frozen.2)
      · exact .inl rfl
    · exact .refl check ice
  generalize (if check.errCode = .success then
    { ice with clist := ice.clist.mapChecks (IceSess.unfreeze check) } else ice) = ice₁ at thawed ⊢
  refine thawed.trans (Updated.trans ?_ (checkIceComplete_updated _ check))
  split
  · rename_i nominated
    refine ⟨by constructor <;> rfl, rfl, rfl, Entrywise.map ?_⟩
    intro c _
    rw [IceSess.giveUp]
    split
    · rename_i toDo
      exact .inr (.giveUp nominated.1 nominated.2 toDo.1 toDo.2)
    · split
      · rename_i cancels
        simp only [IceSess.cancels, Bool.and_eq_true, decide_eq_true_eq] at cancels
        exact .inr (.cancel nominated.1 nominated.2 cancels.1.1 cancels.1.2)
      · exact .inl rfl
  · exact .refl check ice₁

end Complete

end Pjsip.Pjnath.Ice
