import Pjsip.Pjnath.Ice.ValidList

/-!
# Completion

`on_ice_complete` takes effect once, and by then what it reports is so: with success, every
component has a nominated pair; as failed, nothing is left to be checked.
-/

namespace Pjsip.Pjnath.Ice

open Pjsip.Base

/-- What a session reports is so. -/
structure Justified (ice : IceSess) : Prop where
  success : ice.iceStatus = .success → ice.allComps Comp.nominatedCheck = true
  failed : ice.iceStatus = .eicefailed → ice.isTrickling = false
    ∧ (∀ c ∈ ice.clist.checks, c.state = .succeeded ∨ c.state = .failed)
    ∧ ice.allComps Comp.nominatedCheck = false

/-- Either the session is complete, or not, as before, or it is complete now. -/
inductive Completes (ice ice' : IceSess) : Prop
  | stays (complete : ice'.isComplete = ice.isComplete) (status : ice'.iceStatus = ice.iceStatus)
  | takesEffect (before : ice.isComplete = false) (now : ice'.isComplete = true)
      (timer : ice'.timer = .completionCallback) (justified : Justified ice')

namespace Completes

variable {ice ice₁ ice' : IceSess}

theorem refl (ice : IceSess) : Completes ice ice := .stays rfl rfl

theorem after (completes : Completes ice₁ ice') (complete : ice₁.isComplete = ice.isComplete)
    (status : ice₁.iceStatus = ice.iceStatus) : Completes ice ice' := by
  cases completes with
  | stays complete' status' => exact .stays (complete'.trans complete) (status'.trans status)
  | takesEffect before now timer justified =>
    exact .takesEffect (complete.symm.trans before) now timer justified

theorem andThen (completes : Completes ice ice₁) (complete : ice'.isComplete = ice₁.isComplete)
    (status : ice'.iceStatus = ice₁.iceStatus) (timer : ice'.timer = ice₁.timer)
    (comps : ice'.comps = ice₁.comps) (compCnt : ice'.compCnt = ice₁.compCnt)
    (checks : ice'.clist.checks = ice₁.clist.checks)
    (trickling : ice₁.isTrickling = false → ice'.isTrickling = false) : Completes ice ice' := by
  cases completes with
  | stays complete' status' => exact .stays (complete.trans complete') (status.trans status')
  | takesEffect before now timer' justified =>
    have same : ice'.allComps Comp.nominatedCheck = ice₁.allComps Comp.nominatedCheck := by
      rw [IceSess.allComps, IceSess.allComps, compCnt]
      simp only [IceSess.comp, comps]
    refine .takesEffect before (complete.trans now) (timer.trans timer') ⟨?_, ?_⟩
    · intro success
      rw [same]
      exact justified.success (status.symm.trans success)
    · intro failed
      obtain ⟨ended, done, missing⟩ := justified.failed (status.symm.trans failed)
      rw [same, checks]
      exact ⟨trickling ended, done, missing⟩

theorem trans (first : Completes ice ice₁) (second : Completes ice₁ ice')
    (ended : ice₁.isComplete = true → ice' = ice₁) : Completes ice ice' := by
  cases first with
  | stays complete status => exact second.after complete status
  | takesEffect before now timer justified =>
    rw [ended now]
    exact .takesEffect before now timer justified

end Completes

theorem Performed.keeps {ice ice' : IceSess} {checkId : Nat} {nominate : Bool}
    (performed : Performed ice checkId nominate ice') :
    ice'.isComplete = ice.isComplete ∧ ice'.iceStatus = ice.iceStatus := by
  cases performed <;> exact ⟨rfl, rfl⟩

namespace IceSess

variable {env : IceEnv} {ice : IceSess}

theorem onIceComplete_completes (status : IceStatus)
    (success : status = .success → ice.allComps Comp.nominatedCheck = true)
    (failed : status = .eicefailed → ice.isTrickling = false
      ∧ (∀ c ∈ ice.clist.checks, c.state = .succeeded ∨ c.state = .failed)
      ∧ ice.allComps Comp.nominatedCheck = false) :
    Completes ice (ice.onIceComplete status) := by
  rw [onIceComplete]
  split
  · exact .refl ice
  · rename_i active
    exact .takesEffect (eq_false_of_ne_true active) rfl rfl ⟨success, failed⟩

theorem startNominatedCheck_keeps (ice : IceSess) :
    ice.startNominatedCheck.isComplete = ice.isComplete
      ∧ ice.startNominatedCheck.iceStatus = ice.iceStatus := by
  obtain ⟨clist, eq⟩ := ice.startNominatedCheck_eq
  rw [eq]
  exact ⟨rfl, rfl⟩

theorem checkIceComplete_completes (ice : IceSess) : Completes ice ice.checkIceComplete.1 := by
  unfold checkIceComplete
  split
  · rename_i nominated
    exact onIceComplete_completes _ (fun _ => nominated) nofun
  · rename_i missing
    split
    · rename_i done
      simp only [Bool.and_eq_true, Bool.not_eq_true', List.all_eq_true, Bool.or_eq_true,
        decide_eq_true_eq] at done
      have failed : ∀ status : IceStatus, status = .eicefailed → ice.isTrickling = false
          ∧ (∀ c ∈ ice.clist.checks, c.state = .succeeded ∨ c.state = .failed)
          ∧ ice.allComps Comp.nominatedCheck = false :=
        fun _ _ => ⟨done.1, done.2, eq_false_of_ne_true missing⟩
      split
      · split
        · exact onIceComplete_completes _ nofun (failed _)
        · split <;> exact .stays rfl rfl
      · split
        · exact onIceComplete_completes _ nofun (failed _)
        · split
          · exact onIceComplete_completes _ nofun (failed _)
          · exact .stays ice.startNominatedCheck_keeps.1 ice.startNominatedCheck_keeps.2
    · split <;> exact .stays rfl rfl

theorem onCheckComplete_completes (ice : IceSess) (check : Check) :
    Completes ice (ice.onCheckComplete check).1 := by
  refine Completes.after (checkIceComplete_completes _) ?_ ?_
  all_goals split <;> split <;> rfl

theorem failCheck_completes (ice : IceSess) (ckid : Nat) (status : IceStatus) :
    Completes ice (ice.failCheck ckid status) :=
  Completes.after (onCheckComplete_completes _ _) rfl rfl

theorem enterValid_keeps (ice : IceSess) (ckid l : Nat) :
    (ice.enterValid ckid l).isComplete = ice.isComplete
      ∧ (ice.enterValid ckid l).iceStatus = ice.iceStatus := by
  rw [enterValid, updateCompCheck_eq]
  exact ⟨rfl, rfl⟩

theorem makeValid_completes (ice : IceSess) (ckid l : Nat) :
    Completes ice (ice.makeValid ckid l) :=
  Completes.after (onCheckComplete_completes _ _) (ice.enterValid_keeps ckid l).1
    (ice.enterValid_keeps ckid l).2

theorem checkSucceeded_completes (ckid transportId : Nat) (completion : Completion) :
    Completes ice (ice.checkSucceeded env ckid transportId completion) := by
  rw [checkSucceeded]
  simp only
  split
  · exact failCheck_completes ice ckid _
  · split
    · exact failCheck_completes ice ckid _
    · split
      · exact makeValid_completes ice ckid _
      · split
        · rename_i added
          obtain ⟨more, rfl⟩ := addCand_keeps added
          exact Completes.after (failCheck_completes _ ckid _) rfl rfl
        · rename_i added
          obtain ⟨more, rfl⟩ := addCand_keeps added
          exact Completes.after (makeValid_completes _ ckid _) rfl rfl

theorem performCheck_keeps (ice : IceSess) (checkId : Nat) (nominate : Bool) :
    (ice.performCheck env checkId nominate).1.isComplete = ice.isComplete
      ∧ (ice.performCheck env checkId nominate).1.iceStatus = ice.iceStatus :=
  (performCheck_performed env ice checkId nominate).keeps

theorem onStunRequestComplete_completes (request : Request) (completion : Completion) :
    Completes ice (ice.onStunRequestComplete env request completion) := by
  rw [onStunRequestComplete]
  split
  · exact .refl ice
  · split
    · exact .stays rfl rfl
    · simp only
      split
      · exact Completes.after (checkSucceeded_completes _ _ completion) rfl rfl
      · exact .stays (performCheck_keeps _ _ _).1 (performCheck_keeps _ _ _).2
      · exact Completes.after (failCheck_completes _ _ _) rfl rfl

theorem triggerCheck_completes (useCandidate : Bool) (i : Nat) :
    Completes ice (ice.triggerCheck env useCandidate i) := by
  rw [triggerCheck]
  split
  · split
    · exact .stays rfl rfl
    · exact .stays (performCheck_keeps _ _ _).1 (performCheck_keeps _ _ _).2
  · split
    · exact .stays rfl rfl
    · exact .stays (performCheck_keeps _ _ _).1 (performCheck_keeps _ _ _).2
  · exact .stays rfl rfl
  · refine Completes.after (onCheckComplete_completes _ _) ?_ ?_
    all_goals
      split
      · obtain ⟨validList, comps, eq⟩ := nominateValid_eq _ _ _
        rw [eq]
      · rfl
  · exact .stays rfl rfl

theorem addTriggered_keeps (rcheck : RxCheck) (lcand rcand : Nat) :
    (ice.addTriggered env rcheck lcand rcand).isComplete = ice.isComplete
      ∧ (ice.addTriggered env rcheck lcand rcand).iceStatus = ice.iceStatus := by
  have triggered := @addTriggered_triggered env ice rcheck lcand rcand
  generalize ice.addTriggered env rcheck lcand rcand = made at triggered ⊢
  cases triggered with
  | full _ => exact ⟨rfl, rfl⟩
  | added _ _ _ performed =>
    rcases performed with rfl | performed
    · exact ⟨rfl, rfl⟩
    · cases performed.2 <;> exact ⟨rfl, rfl⟩

theorem handleIncomingCheck_completes (rcheck : RxCheck) :
    Completes ice (ice.handleIncomingCheck env rcheck) := by
  rw [handleIncomingCheck]
  split
  · exact .refl ice
  · simp only
    split
    · exact .refl ice
    · split
      · exact .stays rfl rfl
      · split
        · exact Completes.after (triggerCheck_completes _ _) rfl rfl
        · exact .stays (addTriggered_keeps _ _ _).1 (addTriggered_keeps _ _ _).2

theorem handleIncomingCheck_ended (complete : ice.isComplete = true) (rcheck : RxCheck) :
    ice.handleIncomingCheck env rcheck = ice := by
  rw [handleIncomingCheck, if_pos complete]

theorem onStunRxRequest_completes (msg : RxRequest) :
    Completes ice (ice.onStunRxRequest env msg) := by
  rw [onStunRxRequest]
  split
  · exact .refl ice
  · split
    · exact .refl ice
    · split
      · exact .refl ice
      · simp only
        split
        · exact .stays rfl rfl
        · split
          · exact .stays rfl rfl
          · exact Completes.after (handleIncomingCheck_completes _) rfl rfl

theorem earlyChecks_completes (rchecks : List RxCheck) (ice : IceSess) :
    Completes ice (rchecks.foldl (handleIncomingCheck env) ice) := by
  induction rchecks generalizing ice with
  | nil => exact .refl ice
  | cons rcheck rest ih =>
    rw [List.foldl_cons]
    refine Completes.trans (handleIncomingCheck_completes rcheck) (ih _) ?_
    intro complete
    generalize ice.handleIncomingCheck env rcheck = ended at complete ⊢
    clear ih
    induction rest with
    | nil => rfl
    | cons rcheck' rest ih =>
      rw [List.foldl_cons, handleIncomingCheck_ended complete]
      exact ih

theorem startCheck_completes : Completes ice (ice.startCheck env).1 := by
  rcases startCheck_cases env ice with same | ⟨timerEndOfCand, eq⟩
  · rw [same]
    exact .refl ice
  · obtain ⟨clist, thawed, _⟩ := ice.thawed_eq
    rw [eq]
    refine Completes.andThen (Completes.after (earlyChecks_completes _ ice.thawed) ?_ ?_)
      rfl rfl rfl rfl rfl rfl id
    · rw [thawed]
    · rw [thawed]

theorem startPeriodicCheck_completes : Completes ice (ice.startPeriodicCheck env) := by
  have checked := startPeriodicCheck_checked env ice
  generalize ice.startPeriodicCheck env = made at checked ⊢
  cases checked with
  | destroying => exact .refl ice
  | idle => exact .stays rfl rfl
  | sent _ _ performed => exact .stays performed.keeps.1 performed.keeps.2
  | @failed i ice₁ _ _ performed status =>
    have completes : Completes ice (ice₁.failCheck i status) :=
      Completes.after (ice₁.failCheck_completes i status) performed.keeps.1 performed.keeps.2
    exact completes.andThen rfl rfl rfl rfl rfl rfl id

theorem onTimer_completes : Completes ice ice.onTimer := by
  rw [onTimer]
  split
  · exact .stays rfl rfl
  · split
    · exact .stays rfl rfl
    · exact Completes.after (onIceComplete_completes _ (by simp) (by simp)) rfl rfl
    · split <;> exact .stays rfl rfl
    · exact .stays (startNominatedCheck_keeps _).1 (startNominatedCheck_keeps _).2
    · exact .stays rfl rfl

theorem endOfCandIndTimer_completes : Completes ice ice.endOfCandIndTimer := by
  rw [endOfCandIndTimer]
  split
  · exact Completes.after (checkIceComplete_completes _) rfl rfl
  · exact .stays rfl rfl

theorem endTrickling_completes (ice : IceSess) : Completes ice ice.endTrickling := by
  rw [endTrickling]
  split
  · exact Completes.after (checkIceComplete_completes _) rfl rfl
  · exact .stays rfl rfl

theorem addRcand_completes (remCand : List Cand) (trickleDone : Bool) :
    Completes ice (ice.addRcandAndUpdateChecklist remCand trickleDone).1 := by
  have updated := ice.addRcand_updated remCand trickleDone
  obtain ⟨more, saved⟩ := ice.saveRcands_eq remCand
  rw [saved] at updated
  generalize ice.addRcandAndUpdateChecklist remCand trickleDone = result at updated ⊢
  cases updated with
  | empty => exact .stays rfl rfl
  | unbased => exact .stays rfl rfl
  | updated =>
    cases trickleDone with
    | false => exact .stays rfl rfl
    | true =>
      have ended := endTrickling_completes
        ({ ice with rcands := ice.rcands ++ more } : IceSess).withPairs
      exact Completes.andThen (Completes.after ended rfl rfl) rfl rfl rfl rfl rfl rfl id

end IceSess

theorem iceStep_completes {env : IceEnv} {ice ice' : IceSess} {act : IceAct} {status : IceStatus}
    (taken : iceStep env ice act = some (ice', status)) : Completes ice ice' := by
  cases iceStep_stepped taken with
  | addCand compId transportId type localPref foundation addr baseAddr =>
    obtain ⟨more, eq⟩ :=
      ice.addCand_eq compId transportId type localPref foundation addr baseAddr
    rw [eq]
    exact .stays rfl rfl
  | setOptions => exact .stays rfl rfl
  | changeRole => exact .stays rfl rfl
  | setPrefs => exact .stays rfl rfl
  | createCheckList remUfrag remPasswd remCand =>
    rw [IceSess.createCheckList]
    split
    · exact .refl ice
    · simp only
      split
      · exact Completes.after (IceSess.addRcand_completes _ _) rfl rfl
      · exact .stays rfl rfl
  | updateCheckList remUfrag remPasswd remCand trickleDone =>
    rw [IceSess.updateCheckList]
    split
    · exact .refl ice
    · split
      · exact .refl ice
      · refine (IceSess.addRcand_completes _ _).andThen rfl rfl rfl rfl rfl rfl ?_
        intro ended
        show (_ && _) = false
        rw [ended, Bool.false_and]
  | startCheck => exact IceSess.startCheck_completes
  | periodicTimer => exact IceSess.startPeriodicCheck_completes
  | timer => exact IceSess.onTimer_completes
  | endOfCandTimer => exact IceSess.endOfCandIndTimer_completes
  | rxRequest msg => exact IceSess.onStunRxRequest_completes msg
  | requestComplete request completion =>
    exact Completes.after (IceSess.onStunRequestComplete_completes request completion) rfl rfl
  | destroy =>
    rw [IceSess.destroy]
    split <;> exact .stays rfl rfl

end Pjsip.Pjnath.Ice
