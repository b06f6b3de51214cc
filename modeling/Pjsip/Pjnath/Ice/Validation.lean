import Pjsip.Base.Run
import Pjsip.Pjnath.Ice.Completion

/-!
# How pairs become valid

A pair becomes valid by a success response from its remote candidate, and by nothing else. With
that, a session that reports success has a validated pair for each of its components.
-/

namespace Pjsip.Pjnath.Ice

open Pjsip.Base

/-- A request that ends here makes a pair of this remote candidate valid: the response comes from
the candidate, or from the address that is synthesized from it. -/
structure Validates (env : IceEnv) (ice : IceSess) (request : Request)
    (completion : IceSess.Completion) (rcand : Nat) : Prop where
  success : completion.status = .success
  slot : ∃ ckid, ice.completedSlot request = some ckid ∧ (ice.clist.slot ckid).rcand = rcand
  source : completion.srcAddr = (ice.rcand rcand).addr
    ∨ env.synthesize (ice.rcand rcand).addr = some completion.srcAddr

theorem sourceAddr_eq {env : IceEnv} {rcandAddr srcAddr : Stun.SockAddr}
    (same : rcandAddr = IceSess.sourceAddr env rcandAddr srcAddr) :
    srcAddr = rcandAddr ∨ env.synthesize rcandAddr = some srcAddr := by
  unfold IceSess.sourceAddr at same
  split at same
  · split at same
    · rename_i synthesized
      exact .inr synthesized
    · exact .inl same.symm
  · exact .inl same.symm

namespace IceSess

variable {env : IceEnv} {ice : IceSess}

theorem failCheck_listed (ice : IceSess) (ckid : Nat) (status : IceStatus) :
    Listed ice (ice.failCheck ckid status) :=
  Listed.after (failCheck_updated ice ckid status).frame.listed rfl rfl

theorem makeValid_valid (ice : IceSess) (ckid l : Nat) :
    (∀ c' ∈ (ice.makeValid ckid l).validList, (∃ c ∈ ice.validList, c.pair = c'.pair)
        ∨ c'.rcand = (ice.clist.slot ckid).rcand)
      ∧ (ice.Pointed → (ice.makeValid ckid l).Pointed) := by
  rw [makeValid_enters]
  have listed := (onCheckComplete_updated { ice.enterValid ckid l with
      clist := ice.clist.modifySlot ckid (Check.setState .succeeded .success) }
    ((ice.clist.modifySlot ckid (Check.setState .succeeded .success)).slot ckid)).frame.listed
  refine ⟨?_, fun pointed => listed.pointed (enterValid_pointed pointed ckid l)⟩
  intro c' mem
  obtain ⟨c, mem, same⟩ := listed.pairs c' mem
  rcases enterValid_pairs ice ckid l mem with old | new
  · obtain ⟨c₀, mem₀, same₀⟩ := old
    exact .inl ⟨c₀, mem₀, same₀.trans same⟩
  · right
    rw [new] at same
    exact (Prod.mk.inj same).2.symm

theorem checkSucceeded_valid (ckid transportId : Nat) (completion : Completion) :
    (∀ c' ∈ (ice.checkSucceeded env ckid transportId completion).validList,
      (∃ c ∈ ice.validList, c.pair = c'.pair) ∨ c'.rcand = (ice.clist.slot ckid).rcand
          ∧ (completion.srcAddr = (ice.rcand c'.rcand).addr
            ∨ env.synthesize (ice.rcand c'.rcand).addr = some completion.srcAddr))
      ∧ (ice.Pointed → (ice.checkSucceeded env ckid transportId completion).Pointed) := by
  have listed : ∀ ice', Listed ice ice' →
      (∀ c' ∈ ice'.validList, (∃ c ∈ ice.validList, c.pair = c'.pair)
        ∨ c'.rcand = (ice.clist.slot ckid).rcand ∧ (completion.srcAddr = (ice.rcand c'.rcand).addr
            ∨ env.synthesize (ice.rcand c'.rcand).addr = some completion.srcAddr))
      ∧ (ice.Pointed → ice'.Pointed) :=
    fun ice' listed => ⟨fun c' mem => .inl (listed.pairs c' mem), listed.pointed⟩
  rw [checkSucceeded]
  simp only
  split
  · exact listed _ (failCheck_listed ice ckid _)
  · rename_i source
    have from_ := sourceAddr_eq (Decidable.of_not_not source)
    split
    · exact listed _ (failCheck_listed ice ckid _)
    · have made : ∀ more l, let grown : IceSess := { ice with lcands := ice.lcands ++ more }
          (∀ c' ∈ (grown.makeValid ckid l).validList, (∃ c ∈ ice.validList, c.pair = c'.pair)
            ∨ c'.rcand = (ice.clist.slot ckid).rcand
              ∧ (completion.srcAddr = (ice.rcand c'.rcand).addr
                ∨ env.synthesize (ice.rcand c'.rcand).addr = some completion.srcAddr))
          ∧ (ice.Pointed → (grown.makeValid ckid l).Pointed) := by
        intro more l grown
        obtain ⟨pairs, pointed⟩ := grown.makeValid_valid ckid l
        refine ⟨?_, pointed⟩
        intro c' mem
        rcases pairs c' mem with old | new
        · exact .inl old
        · have new' : c'.rcand = (ice.clist.slot ckid).rcand := new
          exact .inr ⟨new', by rw [new']; exact from_⟩
      split
      · rename_i l _
        have made := made [] l
        simp only [List.append_nil] at made
        exact made
      · split
        · rename_i added
          obtain ⟨more, rfl⟩ := addCand_keeps added
          exact listed _ (Listed.after (failCheck_listed _ ckid _) rfl rfl)
        · rename_i added
          obtain ⟨more, rfl⟩ := addCand_keeps added
          exact made more _

theorem performCheck_listed (ice : IceSess) (checkId : Nat) (nominate : Bool) :
    Listed ice (ice.performCheck env checkId nominate).1 :=
  (performCheck_performed env ice checkId nominate).frame.listed

theorem onStunRequestComplete_valid (request : Request) (completion : Completion) :
    (∀ c' ∈ (ice.onStunRequestComplete env request completion).validList,
      (∃ c ∈ ice.validList, c.pair = c'.pair) ∨ Validates env ice request completion c'.rcand)
      ∧ (ice.Pointed → (ice.onStunRequestComplete env request completion).Pointed) := by
  have listed : ∀ ice', Listed ice ice' →
      (∀ c' ∈ ice'.validList, (∃ c ∈ ice.validList, c.pair = c'.pair)
        ∨ Validates env ice request completion c'.rcand) ∧ (ice.Pointed → ice'.Pointed) :=
    fun ice' listed => ⟨fun c' mem => .inl (listed.pairs c' mem), listed.pointed⟩
  rw [onStunRequestComplete]
  split
  · exact listed _ (.refl ice)
  · split
    · exact listed _ (.of_eq rfl rfl)
    · rename_i ckid slot
      split
      · rename_i success
        obtain ⟨pairs, pointed⟩ := @checkSucceeded_valid env (ice.clearTdata ckid) ckid
          request.transportId completion
        refine ⟨?_, pointed⟩
        intro c' mem
        rcases pairs c' mem with old | ⟨rcand, source⟩
        · exact .inl old
        · refine .inr ⟨success, ⟨ckid, slot, ?_⟩, source⟩
          rw [rcand, clearTdata]
          rcases ice.clist.slot_modifySlot ckid (fun c => { c with tdata := none }) with eq | eq
          · rw [eq]
          · rw [eq]
      · exact listed _ (Listed.after (performCheck_listed _ _ _) rfl rfl)
      · exact listed _ (Listed.after (failCheck_listed _ _ _) rfl rfl)

theorem triggerCheck_listed (useCandidate : Bool) (i : Nat) :
    Listed ice (ice.triggerCheck env useCandidate i) := by
  rw [triggerCheck]
  split
  · split
    · exact .of_eq rfl rfl
    · exact Listed.after (performCheck_listed _ _ _) rfl rfl
  · split
    · exact .of_eq rfl rfl
    · exact Listed.after (performCheck_listed _ _ _) rfl rfl
  · exact .of_eq rfl rfl
  · refine Listed.trans ?_ (onCheckComplete_updated _ _).frame.listed
    split
    · exact Listed.after (nominateValids_listed _ _) rfl rfl
    · exact .of_eq rfl rfl
  · exact .of_eq rfl rfl

theorem addTriggered_listed (rcheck : RxCheck) (lcand rcand : Nat) :
    Listed ice (ice.addTriggered env rcheck lcand rcand) := by
  have triggered := @addTriggered_triggered env ice rcheck lcand rcand
  generalize ice.addTriggered env rcheck lcand rcand = made at triggered ⊢
  cases triggered with
  | full _ => exact .refl ice
  | added _ _ _ performed =>
    rcases performed with rfl | performed
    · exact .of_eq rfl rfl
    · exact .of_eq performed.2.frame.validList performed.2.frame.comps

theorem handleIncomingCheck_listed (rcheck : RxCheck) :
    Listed ice (ice.handleIncomingCheck env rcheck) := by
  rw [handleIncomingCheck]
  split
  · exact .refl ice
  · simp only
    split
    · exact .refl ice
    · split
      · exact .of_eq rfl rfl
      · split
        · exact Listed.after (triggerCheck_listed _ _) rfl rfl
        · exact Listed.after (addTriggered_listed _ _ _) rfl rfl

theorem earlyChecks_listed (rchecks : List RxCheck) :
    Listed ice (rchecks.foldl (handleIncomingCheck env) ice) := by
  induction rchecks generalizing ice with
  | nil => exact .refl ice
  | cons rcheck rest ih => exact (handleIncomingCheck_listed rcheck).trans ih

theorem addRcand_listed (remCand : List Cand) (trickleDone : Bool) :
    Listed ice (ice.addRcandAndUpdateChecklist remCand trickleDone).1 := by
  have updated := ice.addRcand_updated remCand trickleDone
  obtain ⟨more, saved⟩ := ice.saveRcands_eq remCand
  rw [saved] at updated
  generalize ice.addRcandAndUpdateChecklist remCand trickleDone = result at updated ⊢
  cases updated with
  | empty => exact .of_eq rfl rfl
  | unbased => exact .of_eq rfl rfl
  | updated =>
    cases trickleDone with
    | false => exact .of_eq rfl rfl
    | true =>
      have ended := endTrickling_updated {}
        ({ ice with rcands := ice.rcands ++ more } : IceSess).withPairs
      refine Listed.trans (Listed.after (dropComps_listed _) ?_ ?_)
        (.of_eq ended.frame.validList ended.frame.comps)
      · rfl
      · rfl

end IceSess

/-- Only the end of a request makes pairs valid, and the components point into the valid list. -/
theorem iceStep_valid {env : IceEnv} {ice ice' : IceSess} {act : IceAct} {status : IceStatus}
    (taken : iceStep env ice act = some (ice', status)) :
    (∀ c' ∈ ice'.validList, (∃ c ∈ ice.validList, c.pair = c'.pair)
        ∨ ∃ request completion, act = .requestComplete request completion
          ∧ Validates env ice request completion c'.rcand)
      ∧ (ice.Pointed → ice'.Pointed) := by
  have listed : ∀ {ice' : IceSess} {act : IceAct}, Listed ice ice' →
      (∀ c' ∈ ice'.validList, (∃ c ∈ ice.validList, c.pair = c'.pair)
        ∨ ∃ request completion, act = .requestComplete request completion
          ∧ Validates env ice request completion c'.rcand)
      ∧ (ice.Pointed → ice'.Pointed) :=
    fun listed => ⟨fun c' mem => .inl (listed.pairs c' mem), listed.pointed⟩
  cases iceStep_stepped taken with
  | addCand compId transportId type localPref foundation addr baseAddr =>
    obtain ⟨more, eq⟩ :=
      ice.addCand_eq compId transportId type localPref foundation addr baseAddr
    rw [eq]
    exact listed (.of_eq rfl rfl)
  | setOptions => exact listed (.of_eq rfl rfl)
  | changeRole => exact listed (.of_eq rfl rfl)
  | setPrefs => exact listed (.of_eq rfl rfl)
  | createCheckList remUfrag remPasswd remCand =>
    refine listed ?_
    rw [IceSess.createCheckList]
    split
    · exact .refl ice
    · simp only
      split
      · exact Listed.after (IceSess.addRcand_listed _ _) rfl rfl
      · exact .of_eq rfl rfl
  | updateCheckList remUfrag remPasswd remCand trickleDone =>
    refine listed ?_
    rw [IceSess.updateCheckList]
    split
    · exact .refl ice
    · split
      · exact .refl ice
      · exact Listed.trans (IceSess.addRcand_listed _ _) (.of_eq rfl rfl)
  | startCheck =>
    refine listed ?_
    rcases IceSess.startCheck_cases env ice with same | ⟨timerEndOfCand, eq⟩
    · rw [same]
      exact .refl ice
    · obtain ⟨clist, thawed, _⟩ := ice.thawed_eq
      have early := @IceSess.earlyChecks_listed env ice.thawed ice.thawed.earlyCheck
      rw [eq]
      refine Listed.trans (Listed.after early ?_ ?_) (.of_eq rfl rfl)
      · rw [thawed]
      · rw [thawed]
  | periodicTimer =>
    refine listed ?_
    have checked := IceSess.startPeriodicCheck_checked env ice
    generalize ice.startPeriodicCheck env = made at checked ⊢
    cases checked with
    | destroying => exact .refl ice
    | idle => exact .of_eq rfl rfl
    | sent _ _ performed => exact .of_eq performed.frame.validList performed.frame.comps
    | failed _ _ performed status =>
      exact Listed.trans (Listed.after (IceSess.failCheck_listed _ _ status)
        performed.frame.validList performed.frame.comps) (.of_eq rfl rfl)
  | timer =>
    refine listed ?_
    rw [IceSess.onTimer]
    split
    · exact .of_eq rfl rfl
    · split
      · exact .of_eq rfl rfl
      · exact Listed.after (onIceComplete_updated _ {} _).frame.listed rfl rfl
      · split <;> exact .of_eq rfl rfl
      · exact Listed.after (startNominatedCheck_updated _ {}).frame.listed rfl rfl
      · exact .of_eq rfl rfl
  | endOfCandTimer =>
    refine listed ?_
    rw [IceSess.endOfCandIndTimer]
    split
    · exact Listed.after (checkIceComplete_updated _ {}).frame.listed rfl rfl
    · exact .of_eq rfl rfl
  | rxRequest msg =>
    refine listed ?_
    rw [IceSess.onStunRxRequest]
    split
    · exact .refl ice
    · split
      · exact .refl ice
      · split
        · exact .refl ice
        · simp only
          split
          · exact .of_eq rfl rfl
          · split
            · exact .of_eq rfl rfl
            · exact Listed.after (IceSess.handleIncomingCheck_listed _) rfl rfl
  | requestComplete request completion =>
    -- the only event that adds to the valid list
    obtain ⟨pairs, pointed⟩ := @IceSess.onStunRequestComplete_valid env
      { ice with pending := ice.pending.erase request } request completion
    refine ⟨?_, pointed⟩
    intro c' mem
    rcases pairs c' mem with old | new
    · exact .inl old
    · exact .inr ⟨request, completion, rfl, new.success, new.slot, new.source⟩
  | destroy =>
    refine listed ?_
    rw [IceSess.destroy]
    split
    · exact .refl ice
    · exact .of_eq rfl rfl

end Pjsip.Pjnath.Ice
