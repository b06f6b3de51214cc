import Pjsip.Pjnath.Ice.Validation

/-!
# The conclusion of a session

There is always a component to conclude for, and when the session has been concluded nothing
that matters to it is changed, unless it is made to check or to pair again.
-/

namespace Pjsip.Pjnath.Ice

open Pjsip.Base

/-! ## The number of components -/

/-- There is a component, and there stays one for as long as there is a check. -/
structure Counted (ice : IceSess) : Prop where
  comps : 1 ≤ ice.compCnt
  rcands : ∀ c ∈ ice.rcands, 1 ≤ c.compId
  listed : ice.clist.checks ≠ [] → ice.rcands ≠ []
  early : ∀ rcheck ∈ ice.earlyCheck, 1 ≤ rcheck.compId

theorem Counted.keep {ice ice' : IceSess} (counted : Counted ice)
    (compCnt : ice'.compCnt = ice.compCnt) (rcands : ice'.rcands = ice.rcands)
    (earlyCheck : ice'.earlyCheck = ice.earlyCheck)
    (length : ice'.clist.checks.length = ice.clist.checks.length) : Counted ice' where
  comps := compCnt ▸ counted.comps
  rcands := rcands ▸ counted.rcands
  listed := by
    intro nonempty
    rw [rcands]
    apply counted.listed
    rw [← List.length_pos_iff] at nonempty ⊢
    rwa [← length]
  early := earlyCheck ▸ counted.early

theorem Updated.counted {ice ice' : IceSess} {check : Check} (updated : Updated check ice ice')
    (counted : Counted ice) : Counted ice' :=
  counted.keep updated.frame.compCnt updated.frame.rcands updated.frame.earlyCheck
    updated.checks.length_eq

theorem Performed.counted {ice ice' : IceSess} {checkId : Nat} {nominate : Bool}
    (performed : Performed ice checkId nominate ice') (counted : Counted ice) : Counted ice' :=
  counted.keep performed.frame.compCnt performed.frame.rcands performed.frame.earlyCheck
    performed.length

namespace IceSess

variable {env : IceEnv} {ice : IceSess}

theorem modifySlot_counted (counted : Counted ice) (i : Nat) (f : Check → Check) :
    Counted { ice with clist := ice.clist.modifySlot i f } :=
  counted.keep rfl rfl rfl (by rw [Checklist.modifySlot_checks, List.length_modify])

theorem failCheck_counted (counted : Counted ice) (ckid : Nat) (status : IceStatus) :
    Counted (ice.failCheck ckid status) :=
  (failCheck_updated ice ckid status).counted (modifySlot_counted counted ckid _)

theorem makeValid_counted (counted : Counted ice) (ckid l : Nat) :
    Counted (ice.makeValid ckid l) := by
  obtain ⟨validList, comps, eq⟩ := makeValid_eq ice ckid l
  rw [eq]
  refine (onCheckComplete_updated _ _).counted ?_
  have marked := modifySlot_counted counted ckid (Check.setState .succeeded .success)
  exact marked.keep rfl rfl rfl rfl

theorem checkSucceeded_counted (counted : Counted ice) (ckid transportId : Nat)
    (completion : Completion) :
    Counted (ice.checkSucceeded env ckid transportId completion) := by
  rw [checkSucceeded]
  simp only
  split
  · exact failCheck_counted counted ckid _
  · split
    · exact failCheck_counted counted ckid _
    · split
      · exact makeValid_counted counted ckid _
      · have grown : ∀ more, Counted { ice with lcands := ice.lcands ++ more } :=
          fun _ => counted.keep rfl rfl rfl rfl
        split
        · rename_i added
          obtain ⟨more, rfl⟩ := addCand_keeps added
          exact failCheck_counted (grown more) ckid _
        · rename_i added
          obtain ⟨more, rfl⟩ := addCand_keeps added
          exact makeValid_counted (grown more) ckid _

theorem onStunRequestComplete_counted (counted : Counted ice) (request : Request)
    (completion : Completion) :
    Counted (ice.onStunRequestComplete env request completion) := by
  rw [onStunRequestComplete]
  split
  · exact counted
  · split
    · exact modifySlot_counted counted _ _
    · rename_i ckid _
      have cleared : Counted (ice.clearTdata ckid) := modifySlot_counted counted _ _
      split
      · exact checkSucceeded_counted cleared _ _ completion
      · have waiting := modifySlot_counted cleared ckid (Check.setState .waiting .success)
        refine (performCheck_performed env _ _ _).counted ?_
        exact waiting.keep rfl rfl rfl rfl
      · exact failCheck_counted cleared _ _

theorem triggerCheck_counted (counted : Counted ice) (useCandidate : Bool) (i : Nat) :
    Counted (ice.triggerCheck env useCandidate i) := by
  have marked := modifySlot_counted counted i fun c =>
    { c with nominated := useCandidate || c.nominated }
  rw [triggerCheck]
  split
  · split
    · exact marked
    · exact (performCheck_performed env _ _ _).counted marked
  · split
    · exact marked
    · exact (performCheck_performed env _ _ _).counted marked
  · exact marked
  · refine (onCheckComplete_updated _ _).counted ?_
    split
    · obtain ⟨validList, comps, eq⟩ := nominateValid_eq _ _ _
      rw [eq]
      exact marked.keep rfl rfl rfl rfl
    · exact marked
  · exact marked

theorem addTriggered_counted (counted : Counted ice) (present : ice.rcands ≠ [])
    (rcheck : RxCheck) (lcand rcand : Nat) :
    Counted (ice.addTriggered env rcheck lcand rcand) := by
  have triggered := @addTriggered_triggered env ice rcheck lcand rcand
  generalize ice.addTriggered env rcheck lcand rcand = made at triggered ⊢
  cases triggered with
  | full _ => exact counted
  | @added old clist ice' _ _ _ performed =>
    have grown : Counted { ice with clist } :=
      ⟨counted.comps, counted.rcands, fun _ => present, counted.early⟩
    have counted' : Counted ice' := by
      rcases performed with rfl | performed
      · exact grown.keep rfl rfl rfl rfl
      · exact performed.2.counted grown
    exact counted'.keep rfl rfl rfl (Checklist.sort_perm _).length_eq

theorem handleIncomingCheck_counted (counted : Counted ice) {rcheck : RxCheck}
    (session : 1 ≤ rcheck.compId) : Counted (ice.handleIncomingCheck env rcheck) := by
  rw [handleIncomingCheck]
  split
  · exact counted
  · simp only
    split
    · exact counted
    · generalize learnt : ({ ice with rcands := _ } : IceSess) = ice₁
      have counted₁ : Counted ice₁ := by
        rw [← learnt]
        refine ⟨counted.comps, ?_, ?_, counted.early⟩
        · intro c mem
          split at mem
          · exact forall_mem_concat counted.rcands session c mem
          · exact counted.rcands c mem
        · intro nonempty
          split
          · exact List.append_ne_nil_of_right_ne_nil _ (List.cons_ne_nil _ _)
          · exact counted.listed nonempty
      have checks : ice₁.clist.checks = ice.clist.checks := by rw [← learnt]
      split
      · exact counted₁
      · rename_i first found
        split
        · exact triggerCheck_counted counted₁ _ _
        · refine addTriggered_counted counted₁ (counted₁.listed ?_) _ _ _
          rw [checks]
          exact List.ne_nil_of_mem (List.mem_of_find?_eq_some found)

theorem onStunRxRequest_counted (counted : Counted ice) {msg : RxRequest}
    (session : 1 ≤ msg.compId) : Counted (ice.onStunRxRequest env msg) := by
  rw [onStunRxRequest]
  split
  · exact counted
  · split
    · exact counted
    · split
      · exact counted
      · rename_i role _
        have switched : Counted { ice with role } :=
          counted.keep rfl rfl rfl rfl
        simp only
        split
        · exact switched
        · split
          · refine ⟨switched.comps, switched.rcands, switched.listed, ?_⟩
            exact forall_mem_concat switched.early session
          · exact handleIncomingCheck_counted switched session

theorem earlyChecks_counted (counted : Counted ice) (rchecks : List RxCheck)
    (session : ∀ rcheck ∈ rchecks, 1 ≤ rcheck.compId) :
    Counted (rchecks.foldl (handleIncomingCheck env) ice) := by
  induction rchecks generalizing ice with
  | nil => exact counted
  | cons rcheck rest ih =>
    exact ih (handleIncomingCheck_counted counted (session rcheck List.mem_cons_self))
      fun c mem => session c (List.mem_cons_of_mem rcheck mem)

theorem prunedList_none (noPairs : ice.newPairs = []) :
    ice.pairedList = (ice.clist, 0) ∧ ice.prunedList = (ice.clist, .success) := by
  have paired : ice.pairedList = (ice.clist, 0) := by rw [pairedList, noPairs, List.foldl_nil]
  refine ⟨paired, ?_⟩
  rw [prunedList, paired, if_neg (fun differ => differ rfl)]

theorem newPairs_none (noCands : ice.rcands = []) : ice.newPairs = [] := by
  cases pairs : ice.newPairs with
  | nil => rfl
  | cons pair rest =>
    have inside := (newPairs_inside ice (pairs ▸ List.mem_cons_self)).2
    rw [noCands] at inside
    nomatch inside

/-- The highest component that the other side has a candidate for. -/
def highestComp (ice : IceSess) : Nat :=
  ice.rcands.foldl (fun highest c => max highest c.compId) 0

theorem highestComp_le {c : Cand} (mem : c ∈ ice.rcands) : c.compId ≤ ice.highestComp := by
  have above : ∀ (cands : List Cand) (start : Nat),
      start ≤ cands.foldl (fun highest c => max highest c.compId) start
        ∧ ∀ c ∈ cands, c.compId ≤ cands.foldl (fun highest c => max highest c.compId) start := by
    intro cands
    induction cands with
    | nil => exact fun start => ⟨Nat.le_refl _, nofun⟩
    | cons a rest ih =>
      intro start
      obtain ⟨from_, others⟩ := ih (max start a.compId)
      refine ⟨Nat.le_trans (Nat.le_max_left _ _) from_, ?_⟩
      intro c mem
      rcases List.mem_cons.1 mem with rfl | mem
      · exact Nat.le_trans (Nat.le_max_right _ _) from_
      · exact others c mem
  exact (above ice.rcands 0).2 c mem

theorem saveRcands_counted (counted : Counted ice) (remCand : List Cand) :
    Counted (remCand.foldl saveRcand ice) := by
  induction remCand generalizing ice with
  | nil => exact counted
  | cons cand rest ih =>
    refine ih ?_
    rw [saveRcand]
    split
    · exact counted
    · rename_i known
      split
      · exact counted
      · split
        · exact counted
        · refine ⟨counted.comps, ?_, ?_, counted.early⟩
          · exact forall_mem_concat counted.rcands (by omega)
          · exact fun _ => List.append_ne_nil_of_right_ne_nil _ (List.cons_ne_nil _ _)

theorem addRcand_counted (counted : Counted ice) (remCand : List Cand) (trickleDone : Bool) :
    Counted (ice.addRcandAndUpdateChecklist remCand trickleDone).1 := by
  have updated := ice.addRcand_updated remCand trickleDone
  have saved := saveRcands_counted counted remCand
  generalize ice.addRcandAndUpdateChecklist remCand trickleDone = result at updated ⊢
  generalize remCand.foldl saveRcand ice = ice₁ at updated saved
  have listed : ice₁.prunedList.1.checks ≠ [] → ice₁.rcands ≠ [] := by
    intro nonempty noCands
    rw [(prunedList_none (newPairs_none noCands)).2] at nonempty
    exact saved.listed nonempty noCands
  cases updated with
  | empty _ noCands =>
    exact ⟨saved.comps, saved.rcands, fun nonempty => absurd noCands nonempty, saved.early⟩
  | unbased => exact ⟨saved.comps, saved.rcands, listed, saved.early⟩
  | updated _ nonempty =>
    cases trickleDone with
    | false => exact ⟨saved.comps, saved.rcands, listed, saved.early⟩
    | true =>
      have present : ice₁.rcands ≠ [] := by
        intro noCands
        rw [(prunedList_none (newPairs_none noCands)).1] at nonempty
        exact saved.listed (fun empty => nonempty ⟨empty, rfl⟩) noCands
      obtain ⟨c, mem⟩ := List.exists_mem_of_ne_nil _ present
      have dropped : Counted ice₁.withPairs.dropComps :=
        ⟨Nat.le_trans (saved.rcands c mem) (highestComp_le mem), saved.rcands, listed, saved.early⟩
      have ended := (endTrickling_updated {} ice₁.withPairs).counted dropped
      exact ended.keep rfl rfl rfl rfl

end IceSess

theorem iceStep_counted {env : IceEnv} {ice ice' : IceSess} {act : IceAct} {status : IceStatus}
    (counted : Counted ice) (taken : iceStep env ice act = some (ice', status)) :
    Counted ice' := by
  cases iceStep_stepped taken with
  | addCand compId transportId type localPref foundation addr baseAddr =>
    obtain ⟨more, eq⟩ :=
      ice.addCand_eq compId transportId type localPref foundation addr baseAddr
    rw [eq]
    exact counted.keep rfl rfl rfl rfl
  | setOptions => exact counted.keep rfl rfl rfl rfl
  | changeRole => exact counted.keep rfl rfl rfl rfl
  | setPrefs => exact counted.keep rfl rfl rfl rfl
  | createCheckList remUfrag remPasswd remCand =>
    rw [IceSess.createCheckList]
    split
    · exact counted
    · simp only
      split
      · refine IceSess.addRcand_counted ?_ _ _
        exact ⟨counted.comps, counted.rcands, fun nonempty => absurd rfl nonempty, counted.early⟩
      · exact ⟨counted.comps, counted.rcands, fun nonempty => absurd rfl nonempty, counted.early⟩
  | updateCheckList remUfrag remPasswd remCand trickleDone =>
    rw [IceSess.updateCheckList]
    split
    · exact counted
    · split
      · exact counted
      · generalize (if ice.txUfrag = remUfrag ∧ ice.txPass = remPasswd then remCand else []) = more
        have updated := IceSess.addRcand_counted counted more trickleDone
        exact updated.keep rfl rfl rfl rfl
  | startCheck =>
    rcases IceSess.startCheck_cases env ice with same | ⟨timerEndOfCand, eq⟩
    · rw [same]
      exact counted
    · obtain ⟨clist, thawed, calm⟩ := ice.thawed_eq
      have counted₁ : Counted ice.thawed := by
        rw [thawed]
        exact counted.keep rfl rfl rfl calm.length_eq
      have early := @IceSess.earlyChecks_counted env _ counted₁ _ counted₁.early
      rw [eq]
      exact { early with early := by simp }
  | periodicTimer =>
    have checked := IceSess.startPeriodicCheck_checked env ice
    generalize ice.startPeriodicCheck env = made at checked ⊢
    have running : Counted ice.running :=
      counted.keep rfl rfl rfl rfl
    cases checked with
    | destroying => exact counted
    | idle => exact running
    | sent _ _ performed =>
      have sent := performed.counted running
      exact sent.keep rfl rfl rfl rfl
    | @failed i ice₁ _ _ performed status =>
      have failed := IceSess.failCheck_counted (performed.counted running) i status
      exact failed.keep rfl rfl rfl rfl
  | timer =>
    have counted₁ : Counted { ice with timer := .none } :=
      counted.keep rfl rfl rfl rfl
    rw [IceSess.onTimer]
    split
    · exact counted₁
    · split
      · exact counted₁
      · exact (onIceComplete_updated _ {} _).counted counted₁
      · split
        · exact counted.keep rfl rfl rfl rfl
        · exact counted₁
      · exact (startNominatedCheck_updated _ {}).counted counted₁
      · exact counted.keep rfl rfl rfl rfl
  | endOfCandTimer =>
    rw [IceSess.endOfCandIndTimer]
    split
    · refine (checkIceComplete_updated _ {}).counted ?_
      exact counted.keep rfl rfl rfl rfl
    · exact counted.keep rfl rfl rfl rfl
  | rxRequest msg session => exact IceSess.onStunRxRequest_counted counted session.1
  | requestComplete request completion =>
    refine IceSess.onStunRequestComplete_counted ?_ request completion
    exact counted.keep rfl rfl rfl rfl
  | destroy =>
    rw [IceSess.destroy]
    split
    · exact counted
    · exact counted.keep rfl rfl rfl rfl

/-! ## After the conclusion -/

/-- A step that leaves alone what has been concluded: no check is left to be performed or thawed,
and the list is not made, nor updated with pairs or with other components. -/
def Quiet (ice : IceSess) : IceAct → Prop
  | .createCheckList .. => ice.isComplete → ice.txUfrag ≠ []
  | .updateCheckList remUfrag remPasswd remCand trickleDone => ice.isComplete →
      let remCand := if ice.txUfrag = remUfrag ∧ ice.txPass = remPasswd then remCand else []
      let saved := remCand.foldl IceSess.saveRcand ice
      saved.newPairs = [] ∧ (trickleDone → saved.highestComp = ice.compCnt
        ∧ (ice.trickle = .disabled ∨ ice.iceStatus = .success))
  | .startCheck => ice.isComplete →
      ∀ i ∈ List.range ice.clist.foundation.length, ice.firstOfFoundation i = none
  | .periodicTimer => ice.isComplete → ice.isDestroying ∨ ice.nextCheck = none
  | _ => True

instance (ice : IceSess) : (act : IceAct) → Decidable (Quiet ice act)
  | .createCheckList .. => inferInstanceAs (Decidable (_ → _))
  | .updateCheckList .. => inferInstanceAs (Decidable (_ → _ ∧ _))
  | .startCheck => inferInstanceAs (Decidable (_ → _))
  | .periodicTimer => inferInstanceAs (Decidable (_ → _))
  | .addCand .. | .setOptions .. | .changeRole .. | .setPrefs .. | .requestComplete ..
  | .timer | .endOfCandTimer | .rxRequest .. | .destroy => inferInstanceAs (Decidable True)

/-- What matters to the application is as it was. -/
structure Kept (ice ice' : IceSess) : Prop where
  comps : ice'.comps = ice.comps
  compCnt : ice'.compCnt = ice.compCnt
  validList : ice'.validList = ice.validList
  checks : ice'.clist.checks = ice.clist.checks
  timer : ice'.timer = ice.timer ∨ ice'.timer = .none ∨ ice'.timer = .keepAlive

/-- What a session that is complete keeps to. -/
structure Concluded (ice : IceSess) : Prop where
  timer : ice.timer ≠ .startNominatedCheck
  success : ice.iceStatus = .success → ice.allComps Comp.nominatedCheck = true

theorem Kept.refl (ice : IceSess) : Kept ice ice := ⟨rfl, rfl, rfl, rfl, .inl rfl⟩

namespace IceSess

variable {env : IceEnv} {ice : IceSess}

theorem thawFirsts_none {ice : IceSess} {places : List Nat}
    (thawed : ∀ i ∈ places, ice.firstOfFoundation i = none) : places.foldl thawFirst ice = ice := by
  induction places with
  | nil => rfl
  | cons i rest ih =>
    rw [List.foldl_cons, thawFirst, thawed i List.mem_cons_self]
    exact ih fun j mem => thawed j (List.mem_cons_of_mem i mem)

theorem earlyChecks_ended (complete : ice.isComplete = true) (rchecks : List RxCheck) :
    rchecks.foldl (handleIncomingCheck env) ice = ice := by
  induction rchecks with
  | nil => rfl
  | cons rcheck rest ih =>
    rw [List.foldl_cons, handleIncomingCheck_ended complete]
    exact ih

theorem dropComps_none (whole : ice.highestComp = ice.compCnt) :
    ice.dropComps.comps = ice.comps ∧ ice.dropComps.compCnt = ice.compCnt := by
  refine ⟨?_, whole⟩
  apply List.ext_getElem?
  intro i
  simp only [dropComps, List.getElem?_mapIdx]
  cases ice.comps[i]? with
  | none => rfl
  | some comp =>
    have outside : ¬ (ice.highestComp ≤ i ∧ i < ice.compCnt) := by omega
    exact congrArg some (if_neg outside)

theorem checkIceComplete_ended (complete : ice.isComplete = true)
    (nominated : ice.allComps Comp.nominatedCheck = true) : ice.checkIceComplete.1 = ice := by
  rw [checkIceComplete, if_pos nominated, onIceComplete, if_pos complete]

theorem endTrickling_kept (complete : ice.isComplete = true)
    (highest : ice.highestComp = ice.compCnt)
    (nominated : ice.trickle ≠ .disabled → ice.allComps Comp.nominatedCheck = true) :
    Kept ice ice.endTrickling := by
  obtain ⟨comps, compCnt⟩ := dropComps_none highest
  have same : Kept ice ice.dropComps := ⟨comps, compCnt, rfl, rfl, .inl rfl⟩
  rw [endTrickling]
  split
  · rename_i trickles
    rw [@checkIceComplete_ended ice.dropComps complete]
    · exact same
    · rw [allComps, same.compCnt]
      simp only [comp, same.comps]
      exact nominated trickles
  · exact same

theorem updateCheckList_kept (complete : ice.isComplete = true) (concluded : Concluded ice)
    {remUfrag remPasswd : List UInt8} {remCand : List Cand} {trickleDone : Bool}
    (quiet : Quiet ice (.updateCheckList remUfrag remPasswd remCand trickleDone)) :
    Kept ice (ice.updateCheckList remUfrag remPasswd remCand trickleDone).1 := by
  obtain ⟨noPairs, ended⟩ := quiet complete
  rw [updateCheckList]
  split
  · exact .refl ice
  · split
    · exact .refl ice
    · simp only at noPairs ended ⊢
      generalize (if ice.txUfrag = remUfrag ∧ ice.txPass = remPasswd then remCand else []) = more
        at noPairs ended ⊢
      have updated := ice.addRcand_updated more trickleDone
      obtain ⟨cands, saved⟩ := ice.saveRcands_eq more
      rw [saved] at updated noPairs ended
      obtain ⟨paired, pruned⟩ := prunedList_none noPairs
      generalize ice.addRcandAndUpdateChecklist more trickleDone = result at updated ⊢
      cases updated with
      | empty => exact ⟨rfl, rfl, rfl, congrArg (fun list => list.1.checks) paired, .inl rfl⟩
      | unbased => exact ⟨rfl, rfl, rfl, congrArg (fun list => list.1.checks) pruned, .inl rfl⟩
      | updated =>
        have checks := congrArg (fun list : Checklist × IceStatus => list.1.checks) pruned
        cases trickleDone with
        | false => exact ⟨rfl, rfl, rfl, checks, .inl rfl⟩
        | true =>
          obtain ⟨highest, reported⟩ := ended rfl
          have kept : Kept ({ ice with rcands := ice.rcands ++ cands } : IceSess).withPairs
              ({ ice with rcands := ice.rcands ++ cands } : IceSess).withPairs.endTrickling :=
            endTrickling_kept complete highest fun trickles =>
              concluded.success (reported.resolve_left trickles)
          exact ⟨kept.comps, kept.compCnt, kept.validList, kept.checks.trans checks, kept.timer⟩

end IceSess

theorem iceStep_kept {env : IceEnv} {ice ice' : IceSess} {act : IceAct} {status : IceStatus}
    (complete : ice.isComplete = true) (concluded : Concluded ice) (quiet : Quiet ice act)
    (taken : iceStep env ice act = some (ice', status)) : Kept ice ice' := by
  cases iceStep_stepped taken with
  | addCand compId transportId type localPref foundation addr baseAddr =>
    obtain ⟨more, eq⟩ :=
      ice.addCand_eq compId transportId type localPref foundation addr baseAddr
    rw [eq]
    exact ⟨rfl, rfl, rfl, rfl, .inl rfl⟩
  | setOptions => exact ⟨rfl, rfl, rfl, rfl, .inl rfl⟩
  | changeRole => exact ⟨rfl, rfl, rfl, rfl, .inl rfl⟩
  | setPrefs => exact ⟨rfl, rfl, rfl, rfl, .inl rfl⟩
  | createCheckList remUfrag remPasswd remCand =>
    rw [IceSess.createCheckList, if_pos (quiet complete)]
    exact .refl ice
  | updateCheckList => exact IceSess.updateCheckList_kept complete concluded quiet
  | startCheck =>
    rcases IceSess.startCheck_cases env ice with same | ⟨timerEndOfCand, eq⟩
    · rw [same]
      exact .refl ice
    · have thawed : ice.thawed
          = { ice with isNominating := ice.aggressive || ice.isNominating } :=
        IceSess.thawFirsts_none (quiet complete)
      have early := @IceSess.earlyChecks_ended env
        { ice with isNominating := ice.aggressive || ice.isNominating } complete
      rw [eq, thawed, early]
      exact ⟨rfl, rfl, rfl, rfl, .inl rfl⟩
  | periodicTimer =>
    have checked := IceSess.startPeriodicCheck_checked env ice
    generalize ice.startPeriodicCheck env = made at checked ⊢
    rcases quiet complete with ended | noCheck
    · cases checked with
      | destroying => exact .refl ice
      | idle => exact ⟨rfl, rfl, rfl, rfl, .inl rfl⟩
      | sent alive => cases alive.symm.trans ended
      | failed alive => cases alive.symm.trans ended
    · cases checked with
      | destroying => exact .refl ice
      | idle => exact ⟨rfl, rfl, rfl, rfl, .inl rfl⟩
      | sent _ next => cases next.symm.trans noCheck
      | failed _ next => cases next.symm.trans noCheck
  | timer =>
    rw [IceSess.onTimer]
    split
    · exact ⟨rfl, rfl, rfl, rfl, .inr (.inl rfl)⟩
    · split
      · exact ⟨rfl, rfl, rfl, rfl, .inr (.inl rfl)⟩
      · rw [IceSess.onIceComplete, if_pos complete]
        exact ⟨rfl, rfl, rfl, rfl, .inr (.inl rfl)⟩
      · split
        · exact ⟨rfl, rfl, rfl, rfl, .inr (.inr rfl)⟩
        · exact ⟨rfl, rfl, rfl, rfl, .inr (.inl rfl)⟩
      · rename_i start
        exact absurd start concluded.timer
      · exact ⟨rfl, rfl, rfl, rfl, .inr (.inr rfl)⟩
  | endOfCandTimer =>
    rw [IceSess.endOfCandIndTimer, if_neg (by rw [complete]; simp)]
    exact ⟨rfl, rfl, rfl, rfl, .inl rfl⟩
  | rxRequest msg session =>
    rw [IceSess.onStunRxRequest]
    split
    · exact .refl ice
    · split
      · exact .refl ice
      · split
        · exact .refl ice
        · rename_i role _
          have ended := @IceSess.handleIncomingCheck_ended env { ice with role } complete
          simp only
          split
          · exact ⟨rfl, rfl, rfl, rfl, .inl rfl⟩
          · split
            · exact ⟨rfl, rfl, rfl, rfl, .inl rfl⟩
            · rw [ended]
              exact ⟨rfl, rfl, rfl, rfl, .inl rfl⟩
  | requestComplete request completion =>
    rw [IceSess.onStunRequestComplete, if_pos (.inr complete)]
    exact ⟨rfl, rfl, rfl, rfl, .inl rfl⟩
  | destroy =>
    rw [IceSess.destroy]
    split
    · exact .refl ice
    · exact ⟨rfl, rfl, rfl, rfl, .inr (.inl rfl)⟩

theorem Kept.concluded {ice ice' : IceSess} (kept : Kept ice ice') (concluded : Concluded ice)
    (status : ice'.iceStatus = ice.iceStatus) : Concluded ice' where
  timer := by
    rcases kept.timer with same | stopped | alive
    · rw [same]
      exact concluded.timer
    · rw [stopped]
      nofun
    · rw [alive]
      nofun
  success := by
    intro success
    rw [IceSess.allComps, kept.compCnt]
    simp only [IceSess.comp, kept.comps]
    exact concluded.success (status.symm.trans success)

/-! ## Runs -/

/-- Somewhere in a run a request ended whose response, from the remote candidate, entered this
pair into the valid list. -/
def WasValidated (env : IceEnv) (start : IceSess) (tr : List (IceAct × IceStatus))
    (pair : Nat × Nat) : Prop :=
  ∃ pre request completion status post ice ice',
    tr = pre ++ (.requestComplete request completion, status) :: post
      ∧ Run (iceStep env) start pre ice
      ∧ iceStep env ice (.requestComplete request completion) = some (ice', status)
      ∧ (∀ c ∈ ice.validList, c.pair ≠ pair) ∧ (∃ c ∈ ice'.validList, c.pair = pair)
      ∧ Validates env ice request completion pair.2

/-- What holds along every run. -/
structure Traced (env : IceEnv) (start : IceSess) (tr : List (IceAct × IceStatus))
    (ice : IceSess) : Prop where
  run : Run (iceStep env) start tr ice
  pointed : ice.Pointed
  counted : Counted ice
  validated : ∀ c ∈ ice.validList, WasValidated env start tr c.pair

section Runs

variable {env : IceEnv} {start ice ice' : IceSess} {tr : List (IceAct × IceStatus)} {act : IceAct}
  {status : IceStatus}

theorem WasValidated.snoc {pair : Nat × Nat} (validated : WasValidated env start tr pair)
    (label : IceAct × IceStatus) : WasValidated env start (tr ++ [label]) pair := by
  obtain ⟨pre, request, completion, status, post, s, s', split, rest⟩ := validated
  refine ⟨pre, request, completion, status, post ++ [label], s, s', ?_, rest⟩
  rw [split, List.append_assoc, List.cons_append]

theorem Traced.step (traced : Traced env start tr ice)
    (taken : iceStep env ice act = some (ice', status)) :
    Traced env start (tr ++ [(act, status)]) ice' := by
  obtain ⟨pairs, pointed⟩ := iceStep_valid taken
  refine ⟨traced.run.snoc taken, pointed traced.pointed, iceStep_counted traced.counted taken, ?_⟩
  intro c' mem
  by_cases old : ∃ c ∈ ice.validList, c.pair = c'.pair
  · obtain ⟨c, mem', same⟩ := old
    rw [← same]
    exact (traced.validated c mem').snoc (act, status)
  · obtain ⟨request, completion, rfl, validates⟩ := (pairs c' mem).resolve_left old
    refine ⟨tr, request, completion, status, [], ice, ice', rfl, traced.run, taken, ?_,
      ⟨c', mem, rfl⟩, validates⟩
    exact fun c mem' same => old ⟨c, mem', same⟩

theorem Traced.create (role : Role) (tieBreaker : Nat) {compCnt : Nat} (positive : 1 ≤ compCnt) :
    Traced env (IceSess.create role tieBreaker compCnt) []
      (IceSess.create role tieBreaker compCnt) where
  run := .nil _
  pointed := by
    intro comp mem
    rw [List.eq_of_mem_replicate mem]
    exact ⟨nofun, nofun⟩
  counted := ⟨positive, nofun, fun nonempty => absurd rfl nonempty, nofun⟩
  validated := List.forall_mem_nil _

theorem iceStep_concluded (concluded : ice.isComplete = true → Concluded ice)
    (quiet : Quiet ice act) (taken : iceStep env ice act = some (ice', status))
    (complete : ice'.isComplete = true) : Concluded ice' := by
  cases iceStep_completes taken with
  | stays same reported =>
    have before : ice.isComplete = true := same.symm.trans complete
    exact (iceStep_kept before (concluded before) quiet taken).concluded (concluded before)
      reported
  | takesEffect _ _ timer justified =>
    refine ⟨?_, justified.success⟩
    rw [timer]
    nofun

/-- `on_ice_complete` takes effect at most once. With success it does so when every component has
a nominated pair that a response from the remote candidate has made valid; as failed, when
nothing is left to be checked and a component has none. After that no valid pair, no nominated
pair and no check is changed by a quiet step. -/
theorem onIceComplete_once (env : IceEnv) (role : Role) (tieBreaker compCnt : Nat)
    (positive : 1 ≤ compCnt) (run : Run (iceStep env) (IceSess.create role tieBreaker compCnt) tr ice)
    (quiets : Along (iceStep env) Quiet (IceSess.create role tieBreaker compCnt) (tr.map Prod.fst))
    (quiet : Quiet ice act) (taken : iceStep env ice act = some (ice', status)) :
    (ice.isComplete = true → ice'.isComplete = true ∧ ice'.iceStatus = ice.iceStatus
        ∧ ice'.comps = ice.comps ∧ ice'.compCnt = ice.compCnt ∧ ice'.validList = ice.validList
        ∧ ice'.clist.checks = ice.clist.checks)
      ∧ (ice.isComplete = false → ice'.isComplete = true →
        (ice'.iceStatus = .success → 1 ≤ ice'.compCnt ∧ ∀ i < ice'.compCnt, ∃ n,
          (ice'.comp i).nominatedCheck = some n ∧ n < ice'.validList.length
            ∧ WasValidated env (IceSess.create role tieBreaker compCnt) (tr ++ [(act, status)])
              (ice'.valid n).pair)
        ∧ (ice'.iceStatus = .eicefailed → ice'.isTrickling = false
          ∧ (∀ c ∈ ice'.clist.checks, c.state = .succeeded ∨ c.state = .failed)
          ∧ ∃ i < ice'.compCnt, (ice'.comp i).nominatedCheck = none)) := by
  have traced : Traced env _ tr ice :=
    run.traced (fun _ _ _ _ _ traced taken => traced.step taken) (.create role tieBreaker positive)
  have concluded : ice.isComplete = true → Concluded ice :=
    run.invariant_along
      (fun _ _ _ _ concluded quiet taken => iceStep_concluded concluded quiet taken) quiets (by rintro ⟨⟩)
  constructor
  · intro complete
    have kept := iceStep_kept complete (concluded complete) quiet taken
    cases iceStep_completes taken with
    | stays same reported =>
      exact ⟨same.trans complete, reported, kept.comps, kept.compCnt, kept.validList, kept.checks⟩
    | takesEffect before => cases before.symm.trans complete
  · intro active complete
    cases iceStep_completes taken with
    | stays same => cases (same.symm.trans complete).symm.trans active
    | takesEffect _ _ _ justified =>
      have traced' := traced.step taken
      constructor
      · intro success
        refine ⟨traced'.counted.comps, ?_⟩
        intro i inside
        have nominated := justified.success success
        rw [IceSess.allComps, List.all_eq_true] at nominated
        obtain ⟨n, at_⟩ := Option.isSome_iff_exists.1 (nominated i (List.mem_range.2 inside))
        refine ⟨n, at_, ?_⟩
        have there : n < ice'.validList.length := by
          rw [IceSess.comp, List.getD_eq_getElem?_getD] at at_
          cases comp : ice'.comps[i]? with
          | none =>
            rw [comp] at at_
            cases at_
          | some c =>
            rw [comp] at at_
            exact (traced'.pointed c (List.mem_of_getElem? comp)).2 n at_
        refine ⟨there, traced'.validated _ ?_⟩
        rw [IceSess.valid, List.getD_eq_getElem _ _ there]
        exact List.getElem_mem there
      · intro failed
        obtain ⟨ended, done, missing⟩ := justified.failed failed
        refine ⟨ended, done, ?_⟩
        rw [IceSess.allComps, List.all_eq_false] at missing
        obtain ⟨i, mem, unnominated⟩ := missing
        refine ⟨i, List.mem_range.1 mem, ?_⟩
        simpa using unnominated

end Runs

/-- The only pair is nominated and checked. -/
def nominatedCheck : List IceAct :=
  [.addCand 1 1 .host 65535 [0x6C] (hostAddr 1) (hostAddr 1),
    .createCheckList [0x61] [0x62] [⟨.host, 1, 0, [0x72], 9, hostAddr 100, hostAddr 100⟩],
    .startCheck, .periodicTimer]

/-- The response to the request of `nominatedCheck`. -/
def response : IceAct :=
  .requestComplete ⟨0, 0, 0, 0, 1, .iceControlling, true⟩
    ⟨.success, hostAddr 100, some (hostAddr 1)⟩

theorem onIceComplete_once_success :
    ∃ ice ice' tr, Run (iceStep plainEnv) (IceSess.create .controlling 5 1) tr ice
      ∧ iceStep plainEnv ice response = some (ice', .success)
      ∧ ice.isComplete = false ∧ ice'.isComplete = true ∧ ice'.iceStatus = .success
      ∧ 1 ≤ ice'.compCnt ∧ ∀ i < ice'.compCnt, ∃ n,
        (ice'.comp i).nominatedCheck = some n ∧ n < ice'.validList.length
          ∧ WasValidated plainEnv (IceSess.create .controlling 5 1) (tr ++ [(response, .success)])
            (ice'.valid n).pair := by
  have quiets : Along (iceStep plainEnv) Quiet (IceSess.create .controlling 5 1)
      nominatedCheck := by
    decide +kernel
  have runs : (exec (iceStep plainEnv) (IceSess.create .controlling 5 1) nominatedCheck).any
      (fun ice => ice.isComplete = false ∧ (iceStep plainEnv ice response).any fun next =>
        next.2 = .success ∧ next.1.isComplete = true ∧ next.1.iceStatus = .success) = true := by
    decide +kernel
  obtain ⟨ice, done, facts⟩ := (Option.any_eq_true _ _).1 runs
  obtain ⟨tr, acts, run⟩ := Run.of_exec done
  obtain ⟨active, ended⟩ := of_decide_eq_true facts
  obtain ⟨⟨ice', status⟩, taken, facts⟩ := (Option.any_eq_true _ _).1 ended
  obtain ⟨rfl, complete, success⟩ := of_decide_eq_true facts
  have quiet : Quiet ice response := trivial
  have once := onIceComplete_once plainEnv .controlling 5 1 (Nat.le_refl 1) run
    (acts.symm ▸ quiets) quiet taken
  exact ⟨ice, ice', tr, run, taken, active, complete, success, (once.2 active complete).1 success⟩

/-- The peer nominates the only pair; then one more candidate is signalled. -/
def lateCandidate : List IceAct :=
  [.setOptions false 0 .full, .addCand 1 1 .host 65535 [0x6C] (hostAddr 1) (hostAddr 1),
    .createCheckList [0x61] [0x62] [⟨.host, 1, 0, [0x72], 9, hostAddr 100, hostAddr 100⟩],
    .startCheck,
    .rxRequest ⟨1, 1, hostAddr 100, some 1, true, none, true⟩,
    .requestComplete ⟨0, 0, 0, 0, 1, .iceControlled, false⟩
      ⟨.success, hostAddr 100, some (hostAddr 1)⟩,
    .updateCheckList [0x61] [0x62] [⟨.host, 1, 0, [0x72], 8, hostAddr 101, hostAddr 101⟩] false]

/-- The periodic timer still runs when the session is complete, and performs the check of the
late candidate. -/
theorem startPeriodicCheck_afterComplete :
    ¬ ∀ (env : IceEnv) (role : Role) (tieBreaker compCnt : Nat) (tr : List (IceAct × IceStatus))
      (ice : IceSess), 1 ≤ compCnt →
      Run (iceStep env) (IceSess.create role tieBreaker compCnt) tr ice → ice.isComplete = true →
      ∀ act ice' status, iceStep env ice act = some (ice', status) →
        ∀ (i : Nat) (c c' : Check), ice.clist.checks[i]? = some c →
          ice'.clist.checks[i]? = some c' → c'.pair = c.pair → c'.state = c.state := by
  intro claim
  have runs : (exec (iceStep plainEnv) (IceSess.create .controlled 5 1) lateCandidate).any
      (fun ice => ice.isComplete = true
        ∧ ice.clist.checks[1]?.any (fun c => c.pair = (0, 1) ∧ c.state = .waiting)
        ∧ (iceStep plainEnv ice .periodicTimer).any fun next =>
          next.1.clist.checks[1]?.any fun c => c.pair = (0, 1) ∧ c.state = .inProgress)
        = true := by
    decide +kernel
  obtain ⟨ice, done, facts⟩ := (Option.any_eq_true _ _).1 runs
  obtain ⟨tr, _, run⟩ := Run.of_exec done
  obtain ⟨complete, before, after⟩ := of_decide_eq_true facts
  obtain ⟨c, at_, facts⟩ := (Option.any_eq_true _ _).1 before
  obtain ⟨pair, waiting⟩ := of_decide_eq_true facts
  obtain ⟨next, taken, after⟩ := (Option.any_eq_true _ _).1 after
  obtain ⟨c', there, facts⟩ := (Option.any_eq_true _ _).1 after
  obtain ⟨pair', progress⟩ := of_decide_eq_true facts
  have same := claim _ _ _ _ tr ice (Nat.le_refl 1) run complete _ next.1 next.2 taken 1 c c' at_
    there (pair'.trans pair.symm)
  rw [waiting, progress] at same
  nomatch same

end Pjsip.Pjnath.Ice
