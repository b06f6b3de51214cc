import Pjsip.Base.Run
import Pjsip.Pjnath.Ice.Sending

/-!
# Which check a response is for

A request remembers the slot of its check, but the list is sorted and shortened behind it, and a
slot that is filled again keeps the transaction that was in it last. A response is attributed to
the pair it is for as long as no slot has the transaction of the request of another pair.
-/

namespace Pjsip.Pjnath.Ice

open Pjsip.Base

/-- Only the check at `i` goes another way than with the others of the list when it is
complete. -/
structure OnlyAt (i : Nat) (own : Check) (ice ice' : IceSess) : Prop where
  length : ice'.clist.checks.length = ice.clist.checks.length
  /-- Its transaction is done with, unless the request was sent once more. -/
  cleared : ∃ c', ice'.clist.checks[i]? = some c' ∧ c'.pair = own.pair
    ∧ (c'.tdata = none ∨ ∃ retry, ice'.sent = retry :: ice.sent ∧ retry.pair = own.pair
      ∧ c'.tdata = some retry.tdata)
  others : ∃ done : Check, done.pair = own.pair ∧ done.foundationIdx = own.foundationIdx
    ∧ ∀ j c, j ≠ i → ice.clist.checks[j]? = some c →
      ∃ c', ice'.clist.checks[j]? = some c' ∧ Relation.ReflTransGen (Update ice' done) c c'

/-- The end of a request is attributed to the check of its pair. -/
structure Attributed (ice : IceSess) (request : Request) (ice' : IceSess) : Prop where
  ended : ice.isDestroying ∨ ice.isComplete → ice'.clist = ice.clist
  gone : (∀ c ∈ ice.clist.checks, c.pair ≠ request.pair) → ice'.clist.checks = ice.clist.checks
  own : ¬ (ice.isDestroying ∨ ice.isComplete) →
    ∀ i c, ice.clist.checks[i]? = some c → c.pair = request.pair → OnlyAt i c ice ice'

/-- The slot that a request remembers has its transaction for its own pair only, and none if the
pair is gone. -/
structure Settles (ice : IceSess) (request : Request) : Prop where
  own : (ice.clist.slot request.ckid).tdata = some request.tdata →
    ice.clist.checks[request.ckid]?.map Check.pair = some request.pair
  gone : (∀ c ∈ ice.clist.checks, c.pair ≠ request.pair) →
    ∀ c ∈ ice.clist.checks[request.ckid]?, c.tdata = none

instance (ice : IceSess) (request : Request) : Decidable (Settles ice request) :=
  decidable_of_iff (((ice.clist.slot request.ckid).tdata = some request.tdata →
        ice.clist.checks[request.ckid]?.map Check.pair = some request.pair)
      ∧ ((∀ c ∈ ice.clist.checks, c.pair ≠ request.pair) →
        ∀ c ∈ ice.clist.checks[request.ckid]?, c.tdata = none))
    ⟨fun both => ⟨both.1, both.2⟩, fun settles => ⟨settles.own, settles.gone⟩⟩

section Complete

variable {env : IceEnv} {ice : IceSess} {request : Request}

theorem Settles.slot (settles : Settles ice request) {ckid : Nat}
    (slot : ice.completedSlot request = some ckid) :
    ∃ c, ice.clist.checks[ckid]? = some c ∧ c.pair = request.pair := by
  rw [IceSess.completedSlot] at slot
  split at slot
  · rename_i there
    cases slot
    exact Option.map_eq_some_iff.1 (settles.own there)
  · obtain ⟨inside, same, _⟩ := List.findIdx?_eq_some_iff_getElem.1 slot
    simp only [Bool.and_eq_true, decide_eq_true_eq] at same
    exact ⟨_, List.getElem?_eq_getElem inside, Prod.ext same.1 same.2⟩

theorem completedSlot_gone (slot : ice.completedSlot request = none) :
    ∀ c ∈ ice.clist.checks, c.pair ≠ request.pair := by
  rw [IceSess.completedSlot] at slot
  split at slot
  · nomatch slot
  · intro c mem same
    have differ := List.findIdx?_eq_none_iff.1 slot c mem
    obtain ⟨lcand, rcand⟩ := Prod.mk.inj same
    simp [lcand, rcand] at differ

theorem Settles.cleared (settles : Settles ice request)
    (gone : ∀ c ∈ ice.clist.checks, c.pair ≠ request.pair) :
    (ice.clearTdata request.ckid).clist.checks = ice.clist.checks := by
  apply List.ext_getElem?
  intro j
  rw [IceSess.clearTdata, Checklist.modifySlot_checks, List.getElem?_modify]
  cases at_ : ice.clist.checks[j]? with
  | none => rfl
  | some c =>
    by_cases same : request.ckid = j
    · subst same
      have cleared := settles.gone gone c at_
      rw [Option.map_eq_map, Option.map_some, if_pos rfl, ← cleared]
    · rw [Option.map_eq_map, Option.map_some, if_neg same]

/-- `ice₁` is `ice` with the check at `i` ended. -/
structure Ended (i : Nat) (ice ice₁ : IceSess) : Prop where
  checks : ∃ f : Check → Check, ice₁.clist.checks = ice.clist.checks.modify i f
    ∧ ∀ c, (f c).lcand = c.lcand ∧ (f c).rcand = c.rcand ∧ (f c).foundationIdx = c.foundationIdx
      ∧ (f c).tdata = none ∧ (f c).state ≠ .inProgress
  sent : ice₁.sent = ice.sent
  lcands : ∃ more, ice₁.lcands = ice.lcands ++ more

namespace Ended

variable {i : Nat} {own : Check} {ice₁ : IceSess}

theorem sound (ended : Ended i ice ice₁) (sound : ice.Sound) : ice₁.Sound := by
  obtain ⟨f, checks, same⟩ := ended.checks
  obtain ⟨more, lcands⟩ := ended.lcands
  rw [IceSess.Sound, ended.sent, lcands, checks]
  refine Ice.Sound.calm (Ice.Sound.grow sound more) (calm_modify fun c _ => ?_)
  exact ⟨(same c).1, (same c).2.1, fun progress => absurd progress (same c).2.2.2.2⟩

theorem slot (ended : Ended i ice ice₁) (at_ : ice.clist.checks[i]? = some own) :
    ∃ c, ice₁.clist.checks[i]? = some c ∧ ice₁.clist.slot i = c ∧ c.pair = own.pair
      ∧ c.foundationIdx = own.foundationIdx ∧ c.tdata = none ∧ c.state ≠ .inProgress := by
  obtain ⟨f, checks, same⟩ := ended.checks
  have here : ice₁.clist.checks[i]? = some (f own) := by
    rw [checks, List.getElem?_modify, at_, Option.map_eq_map, Option.map_some, if_pos rfl]
  obtain ⟨lcand, rcand, foundation, tdata, state⟩ := same own
  exact ⟨f own, here, ice₁.clist.slot_inside here, Prod.ext lcand rcand, foundation, tdata, state⟩

theorem other (ended : Ended i ice ice₁) {j : Nat} (differ : j ≠ i) :
    ice₁.clist.checks[j]? = ice.clist.checks[j]? := by
  obtain ⟨f, checks, _⟩ := ended.checks
  rw [checks, List.getElem?_modify_ne _ _ differ.symm]

theorem length (ended : Ended i ice ice₁) : ice₁.clist.checks.length = ice.clist.checks.length := by
  obtain ⟨f, checks, _⟩ := ended.checks
  rw [checks, List.length_modify]

theorem only (ended : Ended i ice ice₁) (at_ : ice.clist.checks[i]? = some own) {ice' : IceSess}
    (updated : Updated (ice₁.clist.slot i) ice₁ ice') : OnlyAt i own ice ice' := by
  obtain ⟨c, here, slot, pair, foundation, tdata, _⟩ := ended.slot at_
  rw [slot] at updated
  refine ⟨?_, ?_, c, pair, foundation, ?_⟩
  · rw [updated.checks.length_eq, ended.length]
  · obtain ⟨c', there, updates⟩ := updated.checks.entry here
    refine ⟨c', there, (updates_calm updates).pair.trans pair, .inl ?_⟩
    rcases updates_tdata updates with kept | cleared
    · rw [kept, tdata]
    · exact cleared
  · intro j d differ at'
    rw [← ended.other differ] at at'
    obtain ⟨d', there, updates⟩ := updated.checks.entry at'
    exact ⟨d', there, Relation.ReflTransGen.mono (fun _ _ => updated.frame.symm.update) _ _ updates⟩

theorem retry (ended : Ended i ice ice₁) (at_ : ice.clist.checks[i]? = some own) {nominate : Bool}
    {ice' : IceSess} (performed : Performed ice₁ i nominate ice') : OnlyAt i own ice ice' := by
  obtain ⟨c, here, slot, pair, _, tdata, _⟩ := ended.slot at_
  have modified : ∀ f : Check → Check, (ice₁.clist.checks.modify i f)[i]? = some (f c) := by
    intro f
    rw [List.getElem?_modify, here, Option.map_eq_map, Option.map_some, if_pos rfl]
  have others : ∀ (f : Check → Check) j d, j ≠ i → ice.clist.checks[j]? = some d →
      (ice₁.clist.checks.modify i f)[j]? = some d := by
    intro f j d differ at'
    rw [List.getElem?_modify_ne _ _ differ.symm, ended.other differ, at']
  cases performed with
  | unmade =>
    refine ⟨ended.length, ⟨c, here, pair, .inl tdata⟩, own, rfl, rfl, ?_⟩
    intro j d differ at'
    exact ⟨d, (ended.other differ).trans at', .refl⟩
  | unsent =>
    refine ⟨?_, ⟨_, modified _, pair, .inl rfl⟩, own, rfl, rfl, ?_⟩
    · rw [Checklist.modifySlot_checks, List.length_modify, ended.length]
    · intro j d differ at'
      exact ⟨d, others _ j d differ at', .refl⟩
  | sent tdata' =>
    refine ⟨?_, ⟨_, modified _, pair, .inr ⟨ice₁.requestFor i nominate tdata', ?_, ?_, rfl⟩⟩,
      own, rfl, rfl, ?_⟩
    · rw [Checklist.modifySlot_checks, List.length_modify, ended.length]
    · rw [ended.sent]
    · rw [← pair, ← slot]
      rfl
    · intro j d differ at'
      exact ⟨d, others _ j d differ at', .refl⟩

end Ended

theorem failCheck_attributed {ice₁ : IceSess} {i : Nat} {own : Check} (sound : ice.Sound)
    (at_ : ice.clist.checks[i]? = some own) (sent : ice₁.sent = ice.sent)
    (lcands : ∃ more, ice₁.lcands = ice.lcands ++ more)
    (clist : ice₁.clist = (ice.clearTdata i).clist) (status : IceStatus) :
    (ice₁.failCheck i status).Sound ∧ OnlyAt i own ice (ice₁.failCheck i status) := by
  have ended : Ended i ice
      { ice₁ with clist := ice₁.clist.modifySlot i (Check.setState .failed status) } := by
    refine ⟨⟨fun c => { c with tdata := none }.setState .failed status, ?_, ?_⟩, sent, lcands⟩
    · rw [Checklist.modifySlot_checks, clist, IceSess.clearTdata, Checklist.modifySlot_checks,
        List.modify_modify_eq]
      rfl
    · exact fun c => ⟨rfl, rfl, rfl, rfl, by rintro ⟨⟩⟩
  have updated := IceSess.failCheck_updated ice₁ i status
  exact ⟨updated.sound (ended.sound sound), ended.only at_ updated⟩

theorem makeValid_attributed {ice₁ : IceSess} {i : Nat} {own : Check} (sound : ice.Sound)
    (at_ : ice.clist.checks[i]? = some own) (sent : ice₁.sent = ice.sent)
    (lcands : ∃ more, ice₁.lcands = ice.lcands ++ more)
    (clist : ice₁.clist = (ice.clearTdata i).clist) (l : Nat) :
    (ice₁.makeValid i l).Sound ∧ OnlyAt i own ice (ice₁.makeValid i l) := by
  obtain ⟨validList, comps, eq⟩ := IceSess.makeValid_eq ice₁ i l
  have ended : Ended i ice { ice₁ with
      validList
      comps
      clist := ice₁.clist.modifySlot i (Check.setState .succeeded .success) } := by
    refine ⟨⟨fun c => { c with tdata := none }.setState .succeeded .success, ?_, ?_⟩, sent, lcands⟩
    · rw [Checklist.modifySlot_checks, clist, IceSess.clearTdata, Checklist.modifySlot_checks,
        List.modify_modify_eq]
      rfl
    · exact fun c => ⟨rfl, rfl, rfl, rfl, by rintro ⟨⟩⟩
  rw [eq]
  have updated := onCheckComplete_updated { ice₁ with
      validList
      comps
      clist := ice₁.clist.modifySlot i (Check.setState .succeeded .success) }
    ((ice₁.clist.modifySlot i (Check.setState .succeeded .success)).slot i)
  exact ⟨updated.sound (ended.sound sound), ended.only at_ updated⟩

theorem checkSucceeded_attributed {i : Nat} {own : Check} (sound : ice.Sound)
    (at_ : ice.clist.checks[i]? = some own) (transportId : Nat)
    (completion : IceSess.Completion) :
    ((ice.clearTdata i).checkSucceeded env i transportId completion).Sound
      ∧ OnlyAt i own ice ((ice.clearTdata i).checkSucceeded env i transportId completion) := by
  have sent : (ice.clearTdata i).sent = ice.sent := rfl
  have same : ∃ more, (ice.clearTdata i).lcands = ice.lcands ++ more :=
    ⟨[], (List.append_nil _).symm⟩
  generalize cleared : ice.clearTdata i = ice₁ at sent same ⊢
  have clist : ice₁.clist = (ice.clearTdata i).clist := by rw [cleared]
  rw [IceSess.checkSucceeded]
  simp only
  split
  · exact failCheck_attributed sound at_ sent same clist _
  · split
    · exact failCheck_attributed sound at_ sent same clist _
    · split
      · exact makeValid_attributed sound at_ sent same clist _
      · obtain ⟨more, lcands⟩ := same
        split
        · rename_i ice₂ status added
          obtain ⟨more', grown⟩ := IceSess.addCand_keeps added
          have sent' : ice₂.sent = ice.sent := (congrArg IceSess.sent grown).trans sent
          have clist' := (congrArg IceSess.clist grown).trans clist
          refine failCheck_attributed sound at_ sent' ⟨more ++ more', ?_⟩ clist' _
          rw [grown, ← List.append_assoc, ← lcands]
        · rename_i ice₂ l added
          obtain ⟨more', grown⟩ := IceSess.addCand_keeps added
          have sent' : ice₂.sent = ice.sent := (congrArg IceSess.sent grown).trans sent
          have clist' := (congrArg IceSess.clist grown).trans clist
          refine makeValid_attributed sound at_ sent' ⟨more ++ more', ?_⟩ clist' _
          rw [grown, ← List.append_assoc, ← lcands]

theorem onStunRequestComplete_attributed (sound : ice.Sound)
    (settles : ¬ (ice.isDestroying ∨ ice.isComplete) → Settles ice request)
    (completion : IceSess.Completion) :
    (ice.onStunRequestComplete env request completion).Sound
      ∧ Attributed ice request (ice.onStunRequestComplete env request completion) := by
  rw [IceSess.onStunRequestComplete]
  split
  · rename_i ended
    exact ⟨sound, fun _ => rfl, fun _ => rfl, fun active => absurd ended active⟩
  · rename_i active
    have settles := settles active
    split
    · rename_i missing
      have gone := completedSlot_gone missing
      have kept := settles.cleared gone
      refine ⟨?_, fun ended => absurd ended active, fun _ => kept, ?_⟩
      · have sound' : Ice.Sound ice.lcands ice.sent
            (ice.clearTdata request.ckid).clist.checks := kept.symm ▸ sound
        exact sound'
      · intro _ i c at_ pair
        exact absurd pair (gone c (List.mem_of_getElem? at_))
    · rename_i i slot
      obtain ⟨own, at_, pair⟩ := settles.slot slot
      have only : ∀ ice' : IceSess, ice'.Sound ∧ OnlyAt i own ice ice' →
          ice'.Sound ∧ Attributed ice request ice' := by
        intro ice' both
        refine ⟨both.1, fun ended => absurd ended active, ?_, ?_⟩
        · intro gone
          exact absurd pair (gone own (List.mem_of_getElem? at_))
        · intro _ j c at' pair'
          have same := Ice.Sound.one sound at_ at' (pair.trans pair'.symm)
          subst same
          rw [at_] at at'
          cases at'
          exact both.2
      apply only
      split
      · exact checkSucceeded_attributed sound at_ _ completion
      · have ended : Ended i ice { ice.clearTdata i with
            role := conflictRole request.roleKind
            clist := (ice.clearTdata i).clist.modifySlot i (Check.setState .waiting .success) } := by
          refine ⟨⟨fun c => { c with tdata := none }.setState .waiting .success, ?_, ?_⟩, rfl,
            [], (List.append_nil _).symm⟩
          · rw [Checklist.modifySlot_checks, IceSess.clearTdata, Checklist.modifySlot_checks,
              List.modify_modify_eq]
            rfl
          · exact fun c => ⟨rfl, rfl, rfl, rfl, by rintro ⟨⟩⟩
        obtain ⟨c, here, _, _, _, _, idle⟩ := ended.slot at_
        exact ⟨(performCheck_performed env _ i _).sound (ended.sound sound) here idle,
          ended.retry at_ (performCheck_performed env _ i _)⟩
      · have sent : (ice.clearTdata i).sent = ice.sent := rfl
        have same : ∃ more, (ice.clearTdata i).lcands = ice.lcands ++ more :=
          ⟨[], (List.append_nil _).symm⟩
        generalize cleared : ice.clearTdata i = ice₁ at sent same ⊢
        exact failCheck_attributed sound at_ sent same (by rw [cleared]) _

end Complete

/-! ## Runs -/

/-- A step that keeps the responses attributed: no reflexive candidate is without its base when
the list is made or updated, and a request that ends settles. -/
def Careful (ice : IceSess) : IceAct → Prop
  | .createCheckList remUfrag remPasswd remCand =>
    (ice.createCheckList remUfrag remPasswd remCand).2 ≠ .eicenohostcand
  | .updateCheckList remUfrag remPasswd remCand trickleDone =>
    (ice.updateCheckList remUfrag remPasswd remCand trickleDone).2 ≠ .eicenohostcand
  | .requestComplete request _ => ¬ (ice.isDestroying ∨ ice.isComplete) → Settles ice request
  | _ => True

instance (ice : IceSess) : (act : IceAct) → Decidable (Careful ice act)
  | .createCheckList .. | .updateCheckList .. => inferInstanceAs (Decidable (_ ≠ _))
  | .requestComplete .. => inferInstanceAs (Decidable (_ → _))
  | .addCand .. | .setOptions .. | .changeRole .. | .setPrefs .. | .startCheck | .periodicTimer
  | .timer | .endOfCandTimer | .rxRequest .. | .destroy => inferInstanceAs (Decidable True)

theorem iceStep_sound {env : IceEnv} {ice ice' : IceSess} {act : IceAct} {status : IceStatus}
    (sound : ice.Sound) (careful : Careful ice act)
    (taken : iceStep env ice act = some (ice', status)) : ice'.Sound := by
  cases iceStep_stepped taken with
  | addCand => exact IceSess.addCand_sound sound _ _ _ _ _ _ _
  | setOptions => exact sound
  | changeRole => exact sound
  | setPrefs => exact sound
  | createCheckList => exact IceSess.createCheckList_sound sound _ _ _ careful
  | updateCheckList => exact IceSess.updateCheckList_sound sound _ _ _ _ careful
  | startCheck => exact IceSess.startCheck_sound sound
  | periodicTimer => exact IceSess.startPeriodicCheck_sound sound
  | timer => exact IceSess.onTimer_sound sound
  | endOfCandTimer => exact IceSess.endOfCandIndTimer_sound sound
  | rxRequest msg => exact IceSess.onStunRxRequest_sound sound msg
  | requestComplete request completion =>
    apply And.left
    apply onStunRequestComplete_attributed
    · exact sound
    · intro active
      exact ⟨(careful active).own, (careful active).gone⟩
  | destroy =>
    rw [IceSess.destroy]
    split <;> exact sound

theorem Attributed.of_pending {ice ice' : IceSess} {request : Request} {pending : List Request}
    (attributed : Attributed { ice with pending } request ice') : Attributed ice request ice' where
  ended := attributed.ended
  gone := attributed.gone
  own := by
    intro active i c at_ pair
    have only := attributed.own active i c at_ pair
    exact { only with }

/-- Every check in progress has the transaction of the request sent last for its pair, and every
response is attributed to the pair of its request. -/
theorem onStunRequestComplete_ownPair (env : IceEnv) (role : Role) (tieBreaker compCnt : Nat)
    {tr : List (IceAct × IceStatus)} {ice : IceSess}
    (run : Run (iceStep env) (IceSess.create role tieBreaker compCnt) tr ice)
    (careful : Along (iceStep env) Careful (IceSess.create role tieBreaker compCnt)
      (tr.map Prod.fst)) :
    (∀ c ∈ ice.clist.checks, c.state = .inProgress →
        ∃ r, ice.lastSent c.pair = some r ∧ c.tdata = some r.tdata)
      ∧ ∀ request completion ice' status,
        iceStep env ice (.requestComplete request completion) = some (ice', status) →
        Careful ice (.requestComplete request completion) → Attributed ice request ice' := by
  have sound : ice.Sound :=
    run.invariant_along (fun _ _ _ _ sound careful taken => iceStep_sound sound careful taken)
      careful (IceSess.create_sound role tieBreaker compCnt)
  refine ⟨sound.progress, ?_⟩
  intro request completion ice' status taken careful
  rw [iceStep] at taken
  split at taken
  · cases taken
    apply Attributed.of_pending
    apply And.right
    apply onStunRequestComplete_attributed
    · exact sound
    · intro active
      exact ⟨(careful active).own, (careful active).gone⟩
  · cases taken

/-- Two pairs, of which the first is checked. -/
def firstCheck : List IceAct :=
  [.addCand 1 1 .host 65535 [0x6C] (hostAddr 1) (hostAddr 1), .createCheckList [0x61] [0x62]
      [⟨.host, 1, 0, [0x72], 9, hostAddr 100, hostAddr 100⟩,
        ⟨.host, 1, 0, [0x72], 8, hostAddr 101, hostAddr 101⟩],
    .startCheck, .periodicTimer]

theorem onStunRequestComplete_ownPair_firstCheck :
    ∃ ice, exec (iceStep plainEnv) (IceSess.create .controlling 5 1) firstCheck = some ice
      ∧ ice.pending ≠ []
      ∧ (∀ c ∈ ice.clist.checks, c.state = .inProgress →
        ∃ r, ice.lastSent c.pair = some r ∧ c.tdata = some r.tdata)
      ∧ ∀ request completion ice' status,
        iceStep plainEnv ice (.requestComplete request completion) = some (ice', status) →
        Careful ice (.requestComplete request completion) → Attributed ice request ice' := by
  have careful : Along (iceStep plainEnv) Careful (IceSess.create .controlling 5 1) firstCheck := by
    decide +kernel
  have runs : (exec (iceStep plainEnv) (IceSess.create .controlling 5 1) firstCheck).any
      (fun ice => ice.pending ≠ []) = true := by
    decide +kernel
  obtain ⟨ice, done, pending⟩ := (Option.any_eq_true _ _).1 runs
  obtain ⟨tr, acts, run⟩ := Run.of_exec done
  refine ⟨ice, done, of_decide_eq_true pending, ?_⟩
  exact onStunRequestComplete_ownPair plainEnv .controlling 5 1 run (acts.symm ▸ careful)

/-- A full list of four transports and eight candidates of the other side. The check of the
first slot fails, that of the last is in progress; then one more candidate is signalled. -/
def refilledSlot : List IceAct :=
  [.setOptions false 0 .full, .addCand 1 1 .host 65535 [0x6C] (hostAddr 1) (hostAddr 1),
    .addCand 1 2 .host 65534 [0x6C] (hostAddr 2) (hostAddr 2),
    .addCand 1 3 .host 65533 [0x6C] (hostAddr 3) (hostAddr 3),
    .addCand 1 4 .host 65532 [0x6C] (hostAddr 4) (hostAddr 4),
    .createCheckList [0x61] [0x62] ((List.range 8).map fun n =>
      let addr := hostAddr (UInt8.ofNat (100 + n))
      ⟨.host, 1, 0, [0x72], 2130706431 - n, addr, addr⟩),
    .startCheck,
    .rxRequest ⟨1, 1, hostAddr 100, some 1, false, none, true⟩,
    .requestComplete ⟨0, 0, 0, 0, 1, .iceControlling, false⟩ ⟨.other 7, .unspec, none⟩,
    .rxRequest ⟨1, 4, hostAddr 107, some 1, false, none, true⟩,
    .updateCheckList [0x61] [0x62] [⟨.host, 1, 0, [0x72], 1, hostAddr 108, hostAddr 108⟩] false]

/-- The last slot is filled with another pair and keeps the transaction: the response to the
request of the pair that was in it is taken for the other one, and its own check stays in
progress. -/
theorem onStunRequestComplete_otherPair :
    ¬ ∀ (env : IceEnv) (role : Role) (tieBreaker compCnt : Nat) (tr : List (IceAct × IceStatus))
      (ice : IceSess), Run (iceStep env) (IceSess.create role tieBreaker compCnt) tr ice →
      ∀ request completion ice' status,
        iceStep env ice (.requestComplete request completion) = some (ice', status) →
        Attributed ice request ice' := by
  intro claim
  have runs : (exec (iceStep plainEnv) (IceSess.create .controlling 5 1) refilledSlot).any
      (fun ice =>
        let request : Request := ⟨1, 31, 3, 7, 4, .iceControlling, false⟩
        ice.isDestroying = false ∧ ice.isComplete = false
          ∧ ice.clist.checks[0]?.map Check.pair = some request.pair
          ∧ (iceStep plainEnv ice (.requestComplete request ⟨.other 7, .unspec, none⟩)).any fun next =>
            next.1.clist.checks[0]?.map Check.tdata = some (some 1)
              ∧ next.1.sent.length = ice.sent.length) = true := by
    decide +kernel
  obtain ⟨ice, done, facts⟩ := (Option.any_eq_true _ _).1 runs
  obtain ⟨tr, _, run⟩ := Run.of_exec done
  simp only [decide_eq_true_eq] at facts
  obtain ⟨alive, active, pair, ended⟩ := facts
  obtain ⟨next, taken, facts⟩ := (Option.any_eq_true _ _).1 ended
  obtain ⟨tdata, sent⟩ := of_decide_eq_true facts
  obtain ⟨c, at_, same⟩ := Option.map_eq_some_iff.1 pair
  have only := (claim _ _ _ _ tr ice run _ _ next.1 next.2 taken).own
    (by rw [alive, active]; nofun) 0 c at_ same
  obtain ⟨c', there, _, cleared⟩ := only.cleared
  rw [there] at tdata
  have kept : c'.tdata = some 1 := Option.some.inj tdata
  rcases cleared with gone | ⟨retry, more, _⟩
  · rw [kept] at gone
    nomatch gone
  · rw [more, List.length_cons] at sent
    omega

end Pjsip.Pjnath.Ice
