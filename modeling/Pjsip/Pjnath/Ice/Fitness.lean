import Pjsip.Base.Run
import Pjsip.Pjnath.Ice.Nomination

/-!
# Fit to be nominated

What has to hold of a step for a session to stay prepared: the peer nominates nothing while the
session elects, its role is not taken away while nominated checks are due, and no check that a
valid pair depends on fails or is lost.
-/

namespace Pjsip.Pjnath.Ice

open Pjsip.Base

section Keeping

variable {env : IceEnv} {ice ice' : IceSess}

/-! ## Roles and candidates -/

/-- The role may be taken on: it stays what nominated checks that are due need, and in it nothing
is nominated yet that is to be. -/
def MayTurn (ice : IceSess) (role : Role) : Prop :=
  (ice.timer = .startNominatedCheck → role = .controlling)
    ∧ (Electing { ice with role } → Electable ice)

theorem Prepared.turn (prepared : Prepared ice) {role : Role} (known : role ≠ .unknown)
    (may : MayTurn ice role) : Prepared { ice with role } := by
  refine prepared.keep rfl rfl rfl rfl rfl known (fun armed => ?_) may.2
  obtain ⟨ready, all⟩ := prepared.armed armed
  exact ⟨⟨may.1 armed, ready.idle, ready.active⟩, all⟩

theorem rxRequestRole_known {role role' : Role} {tieBreaker : Nat} {attr : Option RoleAttr}
    (known : role ≠ .unknown) (taken : rxRequestRole role tieBreaker attr = some role') :
    role' ≠ .unknown := by
  unfold rxRequestRole at taken
  split at taken
  · exact Option.some.inj taken ▸ known
  split at taken
  · split at taken
    · exact Option.some.inj taken ▸ nofun
    · cases taken
  split at taken
  · split at taken
    · cases taken
    · exact Option.some.inj taken ▸ nofun
  · exact Option.some.inj taken ▸ known

theorem grow_way (more : List Cand) {c : Check} (inside : c.lcand < ice.lcands.length) :
    IceSess.way { ice with lcands := ice.lcands ++ more } c = ice.way c := by
  rw [IceSess.way, IceSess.way, IceSess.lcand, IceSess.lcand, List.getD_append _ _ _ _ inside]

theorem Prepared.grow (prepared : Prepared ice) (more : List Cand) :
    Prepared { ice with lcands := ice.lcands ++ more } := by
  have longer : ice.lcands.length ≤ (ice.lcands ++ more).length := by
    rw [List.length_append]
    exact Nat.le_add_right _ _
  refine { prepared with inside := ?_, validInside := ?_, armed := ?_, electable := ?_ }
  · exact fun c mem => Nat.lt_of_lt_of_le (prepared.inside c mem) longer
  · exact fun c mem => Nat.lt_of_lt_of_le (prepared.validInside c mem) longer
  · intro armed
    obtain ⟨ready, all⟩ := prepared.armed armed
    exact ⟨{ ready with }, all⟩
  · intro ready
    have before := prepared.electable { ready with }
    refine ⟨before.comps, before.unmarked, before.valid, fun vc mem => ?_⟩
    rw [grow_way more (prepared.validInside vc mem)]
    exact (before.backed vc mem).reway fun c there => grow_way more (prepared.inside c there)

/-! ## Updates of the list -/

/-- Nominated checks that are due stay possible when there are no more candidates to come, and
none are started in a session that is complete. -/
structure MayEnd (ice : IceSess) : Prop where
  within : ice.timer = .startNominatedCheck → ∀ c ∈ ice.rcands, c.compId ≤ ice.compCnt
  past : ice.trickle ≠ .disabled → Past ice

/-- What is valid stays backed when the list is updated. -/
def MayPair (ice : IceSess) : Prop :=
  Electing ice → ice.validList ≠ [] → ice.clist.Roomy ∧ Based ice.lcands

theorem saveRcands_within (ice : IceSess) (remCand : List Cand) :
    ∀ c ∈ (remCand.foldl IceSess.saveRcand ice).rcands,
      c ∈ ice.rcands ∨ c ∈ remCand ∧ c.compId ≤ ice.compCnt := by
  induction remCand generalizing ice with
  | nil => exact fun c mem => .inl mem
  | cons cand rest ih =>
    intro c mem
    rw [List.foldl_cons] at mem
    have saved := (ih _ c mem).imp_right (And.imp_left (List.mem_cons_of_mem cand))
    rw [IceSess.saveRcand] at saved
    split at saved
    · exact saved
    split at saved
    · exact saved
    split at saved
    · exact saved
    · next within _ _ =>
      rcases saved with here | bound
      · rcases List.mem_append.1 here with old | new
        · exact .inl old
        · rw [List.mem_singleton.1 new]
          exact .inr ⟨List.mem_cons_self, by omega⟩
      · exact .inr bound

theorem highestComp_le {rcands : List Cand} {n m : Nat} (start : m ≤ n)
    (within : ∀ c ∈ rcands, c.compId ≤ n) :
    rcands.foldl (fun highest c => max highest c.compId) m ≤ n := by
  induction rcands generalizing m with
  | nil => exact start
  | cons c rest ih =>
    refine ih (Nat.max_le.2 ⟨start, within c List.mem_cons_self⟩) fun d mem => ?_
    exact within d (List.mem_cons_of_mem c mem)

theorem dropComps_comp (ice : IceSess) (i : Nat) : ice.dropComps.comp i = ice.comp i
    ∨ ice.dropComps.comp i = {} ∧ ice.dropComps.compCnt ≤ i := by
  rw [IceSess.comp, IceSess.comp, IceSess.dropComps]
  simp only [List.getD_eq_getElem?_getD, List.getElem?_mapIdx]
  cases ice.comps[i]? with
  | none => exact .inl rfl
  | some comp =>
    rw [Option.map_some, Option.getD_some, Option.getD_some]
    split
    · next gone => exact .inr ⟨rfl, gone.1⟩
    · exact .inl rfl

theorem dropComps_prepared (prepared : Prepared ice)
    (within : ice.timer = .startNominatedCheck → ∀ c ∈ ice.rcands, c.compId ≤ ice.compCnt) :
    Prepared ice.dropComps := by
  refine { prepared with
    pointed := (IceSess.dropComps_listed ice).pointed prepared.pointed, armed := ?_, electable := ?_ }
  · intro armed
    obtain ⟨ready, all⟩ := prepared.armed armed
    refine ⟨{ ready with }, List.all_eq_true.2 fun i mem => ?_⟩
    have below := List.mem_range.1 mem
    have fewer : ice.dropComps.compCnt ≤ ice.compCnt :=
      highestComp_le (Nat.zero_le _) (within armed)
    rcases dropComps_comp ice i with same | ⟨_, above⟩
    · rw [same]
      exact List.all_eq_true.1 all i (List.mem_range.2 (Nat.lt_of_lt_of_le below fewer))
    · exact absurd below (Nat.not_lt.2 above)
  · intro ready
    have before := prepared.electable { ready with }
    refine ⟨fun i => ?_, before.unmarked, before.valid, before.backed⟩
    rcases dropComps_comp ice i with same | ⟨emptied, _⟩
    · rw [same]
      exact before.comps i
    · rw [emptied]

theorem endTrickling_prepared (prepared : Prepared ice) (may : MayEnd ice) :
    Prepared ice.endTrickling := by
  have dropped := dropComps_prepared prepared may.within
  rw [IceSess.endTrickling]
  split
  · next trickles => exact checkIceComplete_prepared dropped (may.past trickles)
  · exact dropped

theorem paired_prepared (prepared : Prepared ice) (may : MayPair ice) :
    (Laid ice.lcands.length ice.pairedList.1.checks
        ∧ (Electing ice → ice.pairedList.1.Slots (·.nominated = false)
          ∧ ∀ vc ∈ ice.validList, Backed ice.way (ice.way vc) ice.pairedList.1.checks))
      ∧ Laid ice.lcands.length ice.prunedList.1.checks
        ∧ (Electing ice → ice.prunedList.1.Slots (·.nominated = false)
          ∧ ∀ vc ∈ ice.validList, Backed ice.way (ice.way vc) ice.prunedList.1.checks) := by
  have pairs := addPairs_holding ice ice.way (fun w => ∃ vc ∈ ice.validList, w = ice.way vc)
    ice.newPairs (ice.clist, 0)
    (fun pair mem => (newPairs_inside ice mem).1) ⟨prepared.inside, prepared.settled⟩
  obtain ⟨laid, held⟩ := pairs
  have held := fun ready => held (by
    have before := prepared.electable ready
    refine ⟨before.unmarked, ?_⟩
    rintro w ⟨vc, mem, rfl⟩
    exact ⟨(may ready (List.ne_nil_of_mem mem)).1, before.backed vc mem⟩)
  have first : Laid ice.lcands.length ice.pairedList.1.checks
      ∧ (Electing ice → ice.pairedList.1.Slots (·.nominated = false)
        ∧ ∀ vc ∈ ice.validList, Backed ice.way (ice.way vc) ice.pairedList.1.checks) :=
    ⟨laid, fun ready => ⟨(held ready).unmarked, fun vc mem => ((held ready).backed _ ⟨vc, mem, rfl⟩).2⟩⟩
  refine ⟨first, ?_⟩
  rw [IceSess.prunedList]
  split
  · generalize ice.pairedList.1 = clist at first
    have sorted : Laid ice.lcands.length clist.sort.checks :=
      first.1.subset clist.sort_perm.subset
    refine ⟨prune_laid sorted, fun ready => ⟨prune_unmarked (first.2 ready).1.sort, ?_⟩⟩
    intro vc mem
    have backed := sort_backed first.1.settled ((first.2 ready).2 vc mem).proven
    refine prune_backed ?_ (sort_succeeded clist.checks) sorted.settled backed.proven
    exact fun c c' there rebased =>
      rebased.way (may ready (List.ne_nil_of_mem mem)).2 (sorted.inside c there)
  · exact first

theorem addRcand_prepared (prepared : Prepared ice) (remCand : List Cand) {trickleDone : Bool}
    (mayPair : MayPair ice) (mayEnd : trickleDone = true → MayEnd ice) :
    Prepared (ice.addRcandAndUpdateChecklist remCand trickleDone).1 := by
  have updated := ice.addRcand_updated remCand trickleDone
  have within := saveRcands_within ice remCand
  obtain ⟨more, saved⟩ := ice.saveRcands_eq remCand
  rw [saved] at updated within
  have prepared₁ : Prepared { ice with rcands := ice.rcands ++ more } :=
    prepared.keep rfl rfl rfl rfl rfl prepared.known
      (fun armed => ⟨⟨(prepared.armed armed).1.role, (prepared.armed armed).1.idle,
        (prepared.armed armed).1.active⟩, (prepared.armed armed).2⟩)
      fun ready => prepared.electable { ready with }
  have mayPair₁ : MayPair { ice with rcands := ice.rcands ++ more } :=
    fun ready => mayPair { ready with }
  have mayEnd₁ : trickleDone = true → MayEnd { ice with rcands := ice.rcands ++ more } := by
    intro done
    refine ⟨fun armed c mem => ?_, (mayEnd done).past⟩
    rcases within c mem with old | ⟨-, bound⟩
    · exact (mayEnd done).within armed c old
    · exact bound
  generalize ({ ice with rcands := ice.rcands ++ more } : IceSess) = ice₁
    at updated prepared₁ mayPair₁ mayEnd₁
  obtain ⟨paired, pruned⟩ := paired_prepared prepared₁ mayPair₁
  have listed : Prepared ice₁.withPairs := by
    refine prepared₁.relist ⟨by constructor <;> rfl, rfl, rfl, rfl, rfl⟩ pruned.1.inside
      pruned.1.settled fun ready _ => ?_
    exact ⟨(pruned.2 ready).1, fun vc mem _ => (pruned.2 ready).2 vc mem⟩
  generalize ice.addRcandAndUpdateChecklist remCand trickleDone = result at updated ⊢
  cases updated with
  | empty done noPairs =>
    refine prepared₁.relist ⟨by constructor <;> rfl, rfl, rfl, rfl, rfl⟩ paired.1.inside
      paired.1.settled fun ready _ => ?_
    exact ⟨(paired.2 ready).1, fun vc mem _ => (paired.2 ready).2 vc mem⟩
  | unbased => exact listed
  | updated _ _ clistTimer timerEndOfCand =>
    have ended : Prepared (if trickleDone then ice₁.withPairs.endTrickling else ice₁.withPairs) := by
      cases trickleDone with
      | false => exact listed
      | true =>
        exact endTrickling_prepared listed ⟨(mayEnd₁ rfl).within, (mayEnd₁ rfl).past⟩
    exact ended.same ⟨by constructor <;> rfl, rfl, rfl, rfl, rfl⟩ rfl rfl

theorem createCheckList_prepared (prepared : Prepared ice) (remUfrag remPasswd : List UInt8)
    (remCand : List Cand)
    (may : ice.txUfrag = [] → (Electing ice → ice.validList = [])
      ∧ (ice.isTrickling = false → MayEnd ice)) :
    Prepared (ice.createCheckList remUfrag remPasswd remCand).1 := by
  rw [IceSess.createCheckList]
  split
  · exact prepared
  next first =>
  obtain ⟨noValid, mayEnd⟩ := may (Decidable.of_not_not first)
  have cleared : Prepared { ice with
      txUfrag := remUfrag
      txPass := remPasswd
      clistTimer := false
      clist := ice.clist.clear
      lcandPaired := 0
      rcandPaired := 0 } := by
    refine { prepared with
      inside := List.forall_mem_nil _, settled := List.forall_mem_nil _, armed := ?_, electable := ?_ }
    · intro armed
      obtain ⟨ready, all⟩ := prepared.armed armed
      exact ⟨{ ready with }, all⟩
    · intro ready
      have ready : Electing ice := { ready with }
      have before := prepared.electable ready
      refine ⟨before.comps, before.unmarked, before.valid, fun vc mem => ?_⟩
      have there : vc ∈ ice.validList := mem
      rw [noValid ready] at there
      cases there
  dsimp only
  split
  · refine addRcand_prepared cleared remCand ?_ ?_
    · intro ready nonempty
      exact absurd (noValid { ready with }) nonempty
    · intro done
      have may := mayEnd (by simpa using done)
      exact ⟨may.within, may.past⟩
  · exact cleared

theorem updateCheckList_prepared (prepared : Prepared ice) (remUfrag remPasswd : List UInt8)
    (remCand : List Cand) (trickleDone : Bool)
    (may : ice.txUfrag ≠ [] → ice.isTrickling = true ∨ remCand = [] →
      MayPair ice ∧ (trickleDone = true → MayEnd ice)) :
    Prepared (ice.updateCheckList remUfrag remPasswd remCand trickleDone).1 := by
  rw [IceSess.updateCheckList]
  split
  · exact prepared
  next created =>
  split
  · exact prepared
  next taken =>
  obtain ⟨mayPair, mayEnd⟩ := may created ((not_and_or.1 taken).imp eq_true_of_ne_false
    Decidable.of_not_not)
  have updated := addRcand_prepared prepared
    (if ice.txUfrag = remUfrag ∧ ice.txPass = remPasswd then remCand else []) mayPair mayEnd
  exact updated.same ⟨by constructor <;> rfl, rfl, rfl, rfl, rfl⟩ rfl rfl

/-! ## Triggered checks -/

theorem checkIceComplete_electing (electing : Electing ice.checkIceComplete.1) : Electing ice := by
  have completed : ∀ status, Electing (ice.onIceComplete status) → Electing ice := by
    intro status electing
    rw [IceSess.onIceComplete] at electing
    split at electing
    · exact electing
    · cases electing.active
  unfold IceSess.checkIceComplete at electing
  split at electing
  · exact completed _ electing
  split at electing
  · split at electing
    · split at electing
      · exact completed _ electing
      split at electing
      · exact { electing with }
      · exact electing
    split at electing
    · exact completed _ electing
    split at electing
    · exact completed _ electing
    · obtain ⟨clist, eq⟩ := ice.startNominatedCheck_eq
      rw [eq] at electing
      cases electing.idle
  split at electing
  · exact { electing with }
  · exact electing

theorem onCheckComplete_electing {check : Check}
    (electing : Electing (ice.onCheckComplete check).1) : Electing ice := by
  rw [IceSess.onCheckComplete] at electing
  have before := checkIceComplete_electing electing
  split at before <;> split at before <;> exact { before with }

/-- A request of the peer leaves a session prepared, and does not make it elect. -/
structure Answered (ice ice' : IceSess) : Prop where
  prepared : Prepared ice'
  electing : Electing ice' → Electing ice

theorem Answered.after {ice'' : IceSess} (answered : Answered ice' ice'')
    (electing : Electing ice' → Electing ice) : Answered ice ice'' :=
  ⟨answered.prepared, electing ∘ answered.electing⟩

theorem performCheck_answered (prepared : Prepared ice) {checkId : Nat} {nominate : Bool}
    (plain : Electing ice → nominate = false)
    (idle : ∀ c, ice.clist.checks[checkId]? = some c → c.state ≠ .succeeded) :
    Answered ice (ice.performCheck env checkId nominate).1 := by
  have performed := performCheck_performed env ice checkId nominate
  exact ⟨performed.prepared prepared plain fun _ => idle, performed.same.electing.1⟩

theorem nominateValids_answered (prepared : Prepared ice) (other : ¬ Electing ice) (c : Check)
    (places : List Nat) :
    Answered ice (places.foldl (fun ice j => ice.nominateValid c j) ice) := by
  have listed : Listed ice _ := IceSess.nominateValids_listed c places
  obtain ⟨validList, comps, eq⟩ := IceSess.nominateValid_eq ice c places
  rw [eq] at listed ⊢
  refine ⟨⟨prepared.starts, prepared.known, prepared.inside, ?_, prepared.settled,
    listed.pointed prepared.pointed, ?_, ?_⟩, fun ready => { ready with }⟩
  · intro c' mem
    obtain ⟨d, there, same⟩ := listed.pairs c' mem
    have lcand : d.lcand = c'.lcand := congrArg Prod.fst same
    exact lcand ▸ prepared.validInside d there
  · exact fun armed => absurd (prepared.armed armed).1 other
  · exact fun ready => absurd { ready with } other

theorem triggerCheck_answered (prepared : Prepared ice) (active : ice.isComplete = false)
    {useCandidate : Bool} (plain : Electing ice → useCandidate = false) (i : Nat) :
    Answered ice (ice.triggerCheck env useCandidate i) := by
  have same : Same ice { ice with
      clist := ice.clist.modifySlot i fun c => { c with nominated := useCandidate || c.nominated } } :=
    ⟨by constructor <;> rfl, rfl, rfl, rfl, rfl⟩
  have marked : Prepared { ice with
      clist := ice.clist.modifySlot i fun c =>
        { c with nominated := useCandidate || c.nominated } } := by
    refine prepared.modifySlot same rfl (fun _ => rfl) (fun _ => rfl)
      (fun _ settled => ⟨settled.succeeded, settled.failed⟩) fun ready _ => ⟨?_, ?_⟩
    · intro c unmarked
      rw [plain ready, unmarked]
      rfl
    · exact fun _ _ _ _ _ => ⟨id, fun _ => id⟩
  rw [IceSess.triggerCheck]
  generalize ({ ice with
    clist := ice.clist.modifySlot i fun c =>
      { c with nominated := useCandidate || c.nominated } } : IceSess) = ice₁ at same marked ⊢
  have back := same.electing.1
  have plain₁ : Electing ice₁ → (ice₁.clist.slot i).nominated = false := fun ready =>
    (marked.electable ready).unmarked.slot rfl i
  have performed : (ice₁.clist.slot i).state ≠ .succeeded → Answered ice (ice₁.performCheck env i
        ((ice₁.clist.slot i).nominated || ice₁.isNominating)).1 := by
    intro idle
    refine (performCheck_answered marked (fun ready => ?_) fun c at_ => ?_).after back
    · rw [plain₁ ready, ready.idle]
      rfl
    · rw [← ice₁.clist.slot_inside at_]
      exact idle
  have completed : ∀ ice₂, Answered ice₁ ice₂ → ice₂.isComplete = false →
      Answered ice (ice₂.onCheckComplete (ice₁.clist.slot i)).1 := by
    intro ice₂ answered active₂
    have past : Past ice₂ := fun complete => Bool.noConfusion (active₂.symm.trans complete)
    refine ⟨onCheckComplete_prepared answered.prepared past fun ready => ?_, fun ready => ?_⟩
    · exact plain₁ (answered.electing ready)
    · exact back (answered.electing (onCheckComplete_electing ready))
  have active₁ : ice₁.isComplete = false := same.isComplete.trans active
  split
  · next frozen =>
    split
    · exact ⟨marked, back⟩
    · exact performed (by rw [frozen]; simp)
  · next waiting =>
    split
    · exact ⟨marked, back⟩
    · exact performed (by rw [waiting]; simp)
  · exact ⟨marked, back⟩
  · split
    · next nominates =>
      apply completed
      · refine nominateValids_answered marked (fun ready => ?_) _ _
        rw [plain (back ready)] at nominates
        cases nominates
      · obtain ⟨validList, comps, eq⟩ := IceSess.nominateValid_eq ice₁ (ice₁.clist.slot i)
          (List.range ice₁.validList.length)
        rw [eq]
        exact active₁
    · exact completed ice₁ ⟨marked, id⟩ active₁
  · exact ⟨marked, back⟩

theorem addTriggered_answered (prepared : Prepared ice) {rcheck : RxCheck}
    (plain : Electing ice → rcheck.useCandidate = false) {lcand rcand : Nat}
    (inside : lcand < ice.lcands.length) :
    Answered ice (ice.addTriggered env rcheck lcand rcand) := by
  have triggered : IceSess.Triggered ice rcheck lcand rcand (ice.addTriggered env rcheck lcand rcand) :=
    IceSess.addTriggered_triggered rcheck lcand rcand
  generalize ice.addTriggered env rcheck lcand rcand = made at triggered ⊢
  cases triggered with
  | full => exact ⟨prepared, id⟩
  | @added old clist ice₁ stale checks _ performed =>
    have laid : Laid ice.lcands.length clist.checks := by
      rw [checks]
      exact Laid.append ⟨prepared.inside, prepared.settled⟩ inside ⟨nofun, nofun⟩
    have unmarked : Electing ice → Electable ice → clist.Slots (·.nominated = false) := by
      intro ready before c mem
      rcases List.mem_append.1 mem with here | here
      · rw [checks] at here
        rcases List.mem_append.1 here with here | here
        · exact before.unmarked c (List.mem_append_left _ here)
        · rw [List.mem_singleton.1 here]
          exact plain ready
      · exact before.unmarked c
          (List.mem_append_right _ (stale ▸ List.mem_cons_of_mem old here))
    have added : Prepared { ice with clist } := by
      refine prepared.relist ⟨by constructor <;> rfl, rfl, rfl, rfl, rfl⟩ laid.inside laid.settled
        fun ready before => ⟨unmarked ready before, fun vc mem backed => ?_⟩
      show Backed ice.way (ice.way vc) clist.checks
      rw [checks]
      exact ⟨backed.led.append backed.proven _,
        backed.proven.subset fun c there _ => List.mem_append_left _ there⟩
    have answered : Answered ice ice₁ := by
      rcases performed with rfl | ⟨_, performed⟩
      · exact ⟨added.same ⟨by constructor <;> rfl, rfl, rfl, rfl, rfl⟩ rfl rfl,
          fun ready => { ready with }⟩
      · have back : Electing ice₁ → Electing ice := fun ready =>
          have ready := performed.same.electing.1 ready
          { ready with }
        refine ⟨performed.prepared added (fun ready => ?_) fun _ c at_ => ?_, back⟩
        · rw [ready.idle, plain { ready with }]
          rfl
        · have at' : clist.checks[ice.clist.checks.length]? = some c := at_
          rw [checks, List.getElem?_append_right (Nat.le_refl _), Nat.sub_self] at at'
          cases at'
          nofun
    have prepared₁ := answered.prepared
    refine ⟨?_, fun ready => answered.electing { ready with }⟩
    refine prepared₁.relist ⟨by constructor <;> rfl, rfl, rfl, rfl, rfl⟩ ?_ ?_ ?_
    · exact fun c mem => prepared₁.inside c (ice₁.clist.sort_perm.mem_iff.1 mem)
    · exact fun c mem => prepared₁.settled c (ice₁.clist.sort_perm.mem_iff.1 mem)
    · intro ready before
      exact ⟨before.unmarked.sort, fun vc mem backed =>
        sort_backed prepared₁.settled backed.proven⟩

theorem handleIncomingCheck_answered (prepared : Prepared ice) {rcheck : RxCheck}
    (plain : Electing ice → rcheck.useCandidate = false) :
    Answered ice (ice.handleIncomingCheck env rcheck) := by
  rw [IceSess.handleIncomingCheck]
  split
  · exact ⟨prepared, id⟩
  next active =>
  have active : ice.isComplete = false := Bool.not_eq_true _ ▸ active
  dsimp only
  split
  · exact ⟨prepared, id⟩
  have known : ∀ rcands, Prepared { ice with rcands } ∧
      (Electing { ice with rcands } → Electing ice) := by
    intro rcands
    have back : Electing { ice with rcands } → Electing ice :=
      fun ready => { ready with }
    refine ⟨prepared.keep rfl rfl rfl rfl rfl prepared.known (fun armed => ?_) fun ready =>
      prepared.electable (back ready), back⟩
    obtain ⟨ready, all⟩ := prepared.armed armed
    exact ⟨{ ready with }, all⟩
  generalize (if List.findIdx? (fun c => decide (rcheck.srcAddr = c.addr)) ice.rcands = none then _
    else ice.rcands) = rcands
  obtain ⟨prepared₁, back⟩ := known rcands
  split
  · exact ⟨prepared₁, back⟩
  · next first found =>
    have there := prepared₁.inside first (List.mem_of_find?_eq_some found)
    split
    · exact (triggerCheck_answered prepared₁ active (plain ∘ back) _).after back
    · exact (addTriggered_answered prepared₁ (plain ∘ back) there).after back

/-! ## Starting -/

theorem firstOfFoundation_frozen {i k : Nat} (found : ice.firstOfFoundation i = some k) :
    (ice.clist.slot k).state = .frozen := by
  rw [IceSess.firstOfFoundation] at found
  revert k
  refine List.foldlRecOn (motive := fun chk : Option Nat =>
    ∀ {k}, chk = some k → (ice.clist.slot k).state = .frozen) _ _ (by simp) ?_
  intro chk frozen j _ k at_
  dsimp only at at_
  split at at_
  · exact frozen at_
  next here =>
  have state : (ice.clist.slot j).state = .frozen :=
    Decidable.of_not_not fun other => here (.inr other)
  split at at_
  · cases at_
    exact state
  · split at at_
    · cases at_
      exact state
    · cases at_
      exact frozen rfl

theorem thawFirst_answered (prepared : Prepared ice) (i : Nat) :
    Answered ice (ice.thawFirst i) := by
  rw [IceSess.thawFirst]
  split
  · next k found =>
    have same : Same ice
        { ice with clist := ice.clist.modifySlot k (Check.setState .waiting .success) } :=
      ⟨by constructor <;> rfl, rfl, rfl, rfl, rfl⟩
    refine ⟨prepared.modifySlot same rfl (fun _ => rfl) (fun _ => rfl) (fun _ _ => ⟨by rintro ⟨⟩, by rintro ⟨⟩⟩)
      fun _ _ => ⟨fun _ => id, ?_⟩, same.electing.1⟩
    intro vc _ c at_ _
    refine ⟨fun state => ?_, fun _ _ => rfl⟩
    have frozen := firstOfFoundation_frozen found
    rw [ice.clist.slot_inside at_, state] at frozen
    cases frozen
  · exact ⟨prepared, id⟩

theorem thawFirsts_answered (prepared : Prepared ice) (places : List Nat) :
    Answered ice (places.foldl IceSess.thawFirst ice) := by
  induction places generalizing ice with
  | nil => exact ⟨prepared, id⟩
  | cons i rest ih =>
    have first := thawFirst_answered prepared i
    exact (ih first.prepared).after first.electing

theorem earlyChecks_answered (prepared : Prepared ice) (rchecks : List RxCheck)
    (plain : Electing ice → ∀ rcheck ∈ rchecks, rcheck.useCandidate = false) :
    Answered ice (rchecks.foldl (IceSess.handleIncomingCheck env) ice) := by
  induction rchecks generalizing ice with
  | nil => exact ⟨prepared, id⟩
  | cons rcheck rest ih =>
    have first : Answered ice (ice.handleIncomingCheck env rcheck) :=
      handleIncomingCheck_answered prepared fun ready => plain ready rcheck List.mem_cons_self
    refine (ih first.prepared fun ready c mem => ?_).after first.electing
    exact plain (first.electing ready) c (List.mem_cons_of_mem rcheck mem)

/-- Nominating aggressively does not begin while nominated checks are due, and no request that
came early nominates a pair of a session that elects. -/
def MayStart (ice : IceSess) : Prop :=
  (ice.timer = .startNominatedCheck → ice.aggressive = false)
    ∧ (Electing ice → ice.aggressive = false → ∀ rcheck ∈ ice.earlyCheck, rcheck.useCandidate = false)

theorem startCheck_prepared (prepared : Prepared ice) (may : MayStart ice) :
    Prepared (ice.startCheck env).1 := by
  rcases IceSess.startCheck_cases env ice with same | ⟨timerEndOfCand, eq⟩
  · rw [same]
    exact prepared
  have idle : Electing { ice with isNominating := ice.aggressive || ice.isNominating } →
      Electing ice ∧ ice.aggressive = false := by
    intro ready
    obtain ⟨aggressive, idle⟩ := Bool.or_eq_false_iff.1 ready.idle
    exact ⟨⟨ready.role, idle, ready.active⟩, aggressive⟩
  have begun : Prepared { ice with isNominating := ice.aggressive || ice.isNominating } := by
    refine prepared.keep rfl rfl rfl rfl rfl prepared.known (fun armed => ?_) fun ready =>
      prepared.electable (idle ready).1
    obtain ⟨ready, all⟩ := prepared.armed armed
    exact ⟨⟨ready.role, by rw [may.1 armed, ready.idle]; rfl, ready.active⟩, all⟩
  have thawed := thawFirsts_answered begun (List.range ice.clist.foundation.length)
  have early : ice.thawed.earlyCheck = ice.earlyCheck := by
    obtain ⟨clist, eq, _⟩ := ice.thawed_eq
    rw [eq]
  have answered : Answered ice.thawed
      (ice.thawed.earlyCheck.foldl (IceSess.handleIncomingCheck env) ice.thawed) :=
    earlyChecks_answered thawed.prepared ice.thawed.earlyCheck fun ready =>
       early ▸ may.2 (idle (thawed.electing ready)).1 (idle (thawed.electing ready)).2
  rw [eq]
  have prepared₁ := answered.prepared
  refine prepared₁.keep rfl rfl rfl rfl rfl prepared₁.known (fun armed => ?_) fun ready =>
    prepared₁.electable { ready with }
  obtain ⟨ready, all⟩ := prepared₁.armed armed
  exact ⟨{ ready with }, all⟩

/-! ## Timers -/

theorem onTimer_prepared (prepared : Prepared ice) : Prepared ice.onTimer := by
  have off : Prepared { ice with timer := .none } :=
    prepared.keep rfl rfl rfl rfl rfl prepared.known nofun fun ready =>
      prepared.electable { ready with }
  have alive : Prepared { ice with timer := .keepAlive } :=
    prepared.keep rfl rfl rfl rfl rfl prepared.known nofun fun ready =>
      prepared.electable { ready with }
  rw [IceSess.onTimer]
  split
  · exact off
  split
  · exact off
  · exact onIceComplete_prepared off _
  · split
    · exact alive
    · exact off
  · next armed =>
    obtain ⟨ready, all⟩ := prepared.armed armed
    have ready : Electing { ice with timer := .none } := { ready with }
    exact startNominatedCheck_prepared off
      (IceSess.fitToNominate_electing ready (off.electable ready) off.pointed all)
  · exact alive

theorem endOfCandIndTimer_prepared (prepared : Prepared ice) : Prepared ice.endOfCandIndTimer := by
  have keep : ∀ isTrickling, Prepared { ice with timerEndOfCand := false, isTrickling } := by
    intro isTrickling
    exact prepared.same ⟨by constructor <;> rfl, rfl, rfl, rfl, rfl⟩ rfl rfl
  rw [IceSess.endOfCandIndTimer]
  split
  · next active =>
    refine checkIceComplete_prepared (keep false) fun complete => ?_
    exact absurd (active.2.symm.trans complete) (by simp)
  · exact keep ice.isTrickling

end Keeping

end Pjsip.Pjnath.Ice
