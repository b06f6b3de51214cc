import Pjsip.Pjnath.Ice.Components

/-!
# The structure of the lists

The lists and the components of a session stay as they should be in a run in which the peer's
addresses tell the components apart, reflexive candidates have their bases, and no pair that
becomes valid is one too many or takes back a nomination.
-/

namespace Pjsip.Pjnath.Ice

open Pjsip.Base

/-- The lists are within bounds, the checks pair what belongs together and are apart, and the
components point at pairs of their own. -/
structure Structured (ice : IceSess) : Prop where
  checks : ice.clist.checks.length ≤ maxChecks
  valid : ice.validList.length ≤ maxChecks
  rcands : ice.rcands.length ≤ maxCand
  apart : ice.clist.checks.Pairwise fun a b =>
    ¬ (a.rcand = b.rcand ∧ (ice.lcand a.lcand).baseAddr = (ice.lcand b.lcand).baseAddr)
  matched : ∀ c ∈ ice.clist.checks, (ice.lcand c.lcand).compId = (ice.rcand c.rcand).compId
    ∧ sameFamily (ice.lcand c.lcand).addr (ice.rcand c.rcand).addr = true
  points : ∀ i v, (ice.comp i).validCheck = some v ∨ (ice.comp i).nominatedCheck = some v →
    v < ice.validList.length ∧ ice.compId (ice.valid v) = i + 1
  nominated : ∀ i n, (ice.comp i).nominatedCheck = some n →
    (ice.comp i).validCheck = some n ∧ (ice.valid n).nominated = true
      ∧ ∀ vc ∈ ice.validList, ice.compId vc = i + 1 → vc.nominated = true →
        vc.prio ≤ (ice.valid n).prio

/-- What the steps keep. -/
structure Formed (ice : IceSess) : Prop where
  room : ice.rcands.length ≤ maxCand
  tidy : Tidy ice.lcands ice.rcands ice.clist.checks
  charts : ice.Charts

section Forming

variable {env : IceEnv} {ice ice' : IceSess}

theorem Formed.structured (formed : Formed ice) : Structured ice := by
  obtain ⟨room, tidy, charts⟩ := formed
  have valid : ∀ i v, (ice.comp i).validCheck = some v →
      v < ice.validList.length ∧ ice.compId (ice.valid v) = i + 1 := by
    intro i v points
    obtain ⟨vc, at_, own⟩ := (charts.pointing i).valid v points
    refine ⟨(List.getElem?_eq_some_iff.1 at_).1, ?_⟩
    rw [valid_at at_]
    exact own
  refine ⟨?_, charts.room, room, tidy.apart, fun c mem => ?_, fun i v points => ?_,
    fun i n points => ?_⟩
  · have size := ice.clist.size
    omega
  · exact ⟨(tidy.fits c mem).comp, (tidy.fits c mem).family⟩
  · rcases points with isValid | nominated
    · exact valid i v isValid
    · obtain ⟨nc, tops⟩ := (charts.pointing i).nominated v nominated
      exact valid i v tops.valid
  · obtain ⟨nc, isValid, at_, nominated, highest⟩ := (charts.pointing i).nominated n points
    rw [valid_at at_]
    exact ⟨isValid, nominated, highest⟩

theorem Formed.still (formed : Formed ice) (still : Still ice ice') : Formed ice' := by
  refine ⟨still.rcands ▸ formed.room, ?_, formed.charts.still still⟩
  rw [still.lcands, still.rcands]
  exact formed.tidy.of_pairs still.pairs

/-! ## Updates of the list -/

theorem saveRcands_room (remCand : List Cand) (room : ice.rcands.length ≤ maxCand) :
    (remCand.foldl IceSess.saveRcand ice).rcands.length ≤ maxCand := by
  induction remCand generalizing ice with
  | nil => exact room
  | cons cand rest ih =>
    refine ih ?_
    rw [IceSess.saveRcand]
    split
    · exact room
    split
    · exact room
    split
    · exact room
    · next notFull =>
      rw [List.length_append, List.length_singleton]
      omega

theorem pairedList_draft (tidy : Tidy ice.lcands ice.rcands ice.clist.checks) :
    Draft ice.lcands ice.rcands ice.pairedList.1.checks
      ∧ (ice.pairedList.2 = 0 → ice.pairedList.1.checks.Subperm ice.clist.checks) := by
  refine pairs_keep ice ice.newPairs (fun _ _ draft sub => draft.subperm sub) ?_ (ice.clist, 0)
    tidy.draft fun _ => List.Subperm.refl _
  intro checks old c i j draft mem filled comp family
  obtain ⟨inside, inside'⟩ := newPairs_inside ice mem
  refine draft.add filled.toDo ⟨?_, ?_, ?_, ?_⟩
  · rw [filled.lcand]
    exact inside
  · rw [filled.rcand]
    exact inside'
  · rw [filled.lcand, filled.rcand]
    exact comp
  · rw [filled.lcand, filled.rcand]
    exact family

theorem prunedList_tidy (tidy : Tidy ice.lcands ice.rcands ice.clist.checks)
    (based : WellBased ice.lcands ice.rcands) :
    Tidy ice.lcands ice.rcands ice.prunedList.1.checks := by
  obtain ⟨draft, unchanged⟩ := pairedList_draft tidy
  rw [IceSess.prunedList]
  split
  · exact draft.prune based
  · next zero => exact tidy.subperm (unchanged (Decidable.of_not_not zero))

theorem addRcand_formed (formed : Formed ice) (remCand : List Cand)
    (based : WellBased ice.lcands (ice.rcands ++ remCand)) {trickleDone : Bool}
    (within : trickleDone = true → ∀ c ∈ ice.rcands, c.compId ≤ ice.compCnt) :
    Formed (ice.addRcandAndUpdateChecklist remCand trickleDone).1 := by
  have updated := ice.addRcand_updated remCand trickleDone
  have room := saveRcands_room remCand formed.room
  have within₁ := saveRcands_within ice remCand
  obtain ⟨more, saved⟩ := ice.saveRcands_eq remCand
  rw [saved] at updated room within₁
  have tidy : Tidy ice.lcands (ice.rcands ++ more) ice.clist.checks := by
    have grown := formed.tidy.grow [] more
    rwa [List.append_nil] at grown
  have formed₁ : Formed { ice with rcands := ice.rcands ++ more } := ⟨room, tidy, formed.charts⟩
  have within₂ : trickleDone = true → ∀ c ∈ ice.rcands ++ more, c.compId ≤ ice.compCnt :=
    fun done c mem => (within₁ c mem).elim (within done c) And.right
  have based₁ : WellBased ({ ice with rcands := ice.rcands ++ more } : IceSess).lcands
      ({ ice with rcands := ice.rcands ++ more } : IceSess).rcands :=
    fun c mem reflexive ⟨r, there, pairs⟩ => based c mem reflexive
      ⟨r, List.mem_append.2 ((within₁ r there).imp_right And.left), pairs⟩
  have within₃ : trickleDone = true →
      ∀ c ∈ ({ ice with rcands := ice.rcands ++ more } : IceSess).rcands,
        c.compId ≤ ({ ice with rcands := ice.rcands ++ more } : IceSess).compCnt := within₂
  generalize ({ ice with rcands := ice.rcands ++ more } : IceSess) = ice₁
    at updated formed₁ based₁ within₃
  have pruned := prunedList_tidy formed₁.tidy based₁
  have listed : Formed ice₁.withPairs := ⟨formed₁.room, pruned, formed₁.charts⟩
  generalize ice.addRcandAndUpdateChecklist remCand trickleDone = result at updated ⊢
  cases updated with
  | empty _ noPairs =>
    refine ⟨formed₁.room, ?_, formed₁.charts⟩
    show Tidy _ _ ice₁.pairedList.1.checks
    rw [noPairs]
    exact .nil
  | unbased => exact listed
  | updated _ _ clistTimer timerEndOfCand =>
    have ended : Formed (if trickleDone then ice₁.withPairs.endTrickling else ice₁.withPairs) := by
      cases trickleDone with
      | false => exact listed
      | true =>
        have dropped : Formed ice₁.withPairs.dropComps :=
          ⟨listed.room, listed.tidy, IceSess.dropComps_charts listed.charts (within₃ rfl)⟩
        exact dropped.still (IceSess.endTrickling_updated {} ice₁.withPairs).still
    exact ended.still ⟨rfl, rfl, rfl, rfl, rfl, rfl⟩

theorem createCheckList_formed (formed : Formed ice) (remUfrag remPasswd : List UInt8)
    (remCand : List Cand)
    (may : ice.txUfrag = [] → WellBased ice.lcands (ice.rcands ++ remCand)
      ∧ (ice.isTrickling = false → ∀ c ∈ ice.rcands, c.compId ≤ ice.compCnt)) :
    Formed (ice.createCheckList remUfrag remPasswd remCand).1 := by
  rw [IceSess.createCheckList]
  split
  · exact formed
  next first =>
  obtain ⟨based, within⟩ := may (Decidable.of_not_not first)
  have cleared : Formed { ice with
      txUfrag := remUfrag
      txPass := remPasswd
      clistTimer := false
      clist := ice.clist.clear
      lcandPaired := 0
      rcandPaired := 0 } := ⟨formed.room, .nil, formed.charts⟩
  dsimp only
  split
  · exact addRcand_formed cleared remCand based fun done => within (by simpa using done)
  · exact cleared

theorem updateCheckList_formed (formed : Formed ice) (remUfrag remPasswd : List UInt8)
    (remCand : List Cand) (trickleDone : Bool)
    (may : ice.txUfrag ≠ [] → ice.isTrickling = true ∨ remCand = [] →
      WellBased ice.lcands (ice.rcands ++ remCand)
      ∧ (trickleDone = true → ∀ c ∈ ice.rcands, c.compId ≤ ice.compCnt)) :
    Formed (ice.updateCheckList remUfrag remPasswd remCand trickleDone).1 := by
  rw [IceSess.updateCheckList]
  split
  · exact formed
  next created =>
  split
  · exact formed
  next taken =>
  obtain ⟨based, within⟩ := may created ((not_and_or.1 taken).imp eq_true_of_ne_false
    Decidable.of_not_not)
  have based' : WellBased ice.lcands (ice.rcands
      ++ if ice.txUfrag = remUfrag ∧ ice.txPass = remPasswd then remCand else []) := by
    split
    · exact based
    · rintro c mem reflexive ⟨r, there, pairs⟩
      exact based c mem reflexive ⟨r, List.mem_append_left _ (by simpa using there), pairs⟩
  have updated := addRcand_formed formed _ based' within
  exact updated.still ⟨rfl, rfl, rfl, rfl, rfl, rfl⟩

/-! ## Triggered checks -/

/-- The place of the remote candidate that a check comes from. -/
def rxPlace (ice : IceSess) (rcheck : RxCheck) : Nat :=
  (ice.rcands.findIdx? fun c => rcheck.srcAddr = c.addr).getD ice.rcands.length

/-- A pair that is added for a check that comes in: the source address is that of a candidate of
its component, if of any, and of the family of the local candidate, from whose base no other check
goes there. -/
def MayJoin (ice : IceSess) (rcheck : RxCheck) : Prop :=
  ice.isComplete = false → rxPlace ice rcheck < ice.rcands.length ∨ ice.rcands.length < maxCand →
    ∀ first ∈ ice.clist.checks.find? (fun c =>
        ice.compId c = rcheck.compId && (ice.lcand c.lcand).transportId = rcheck.transportId),
      (∀ c ∈ ice.clist.checks, c.pair ≠ (first.lcand, rxPlace ice rcheck)) →
      (∀ i ∈ ice.rcands.findIdx? (fun c => rcheck.srcAddr = c.addr),
          (ice.rcand i).compId = rcheck.compId)
        ∧ sameFamily (ice.lcand first.lcand).addr rcheck.srcAddr = true
        ∧ ∀ c ∈ ice.clist.checks, c.rcand = rxPlace ice rcheck →
          (ice.lcand c.lcand).baseAddr ≠ (ice.lcand first.lcand).baseAddr

theorem triggerCheck_formed (formed : Formed ice) (useCandidate : Bool) (i : Nat) :
    Formed (ice.triggerCheck env useCandidate i) := by
  have marked : Formed { ice with
      clist := ice.clist.modifySlot i fun c => { c with nominated := useCandidate || c.nominated } } :=
    formed.still (IceSess.modifySlot_still i (fun c =>
      { c with nominated := useCandidate || c.nominated }) fun _ => rfl)
  rw [IceSess.triggerCheck]
  generalize ({ ice with
    clist := ice.clist.modifySlot i fun c =>
      { c with nominated := useCandidate || c.nominated } } : IceSess) = ice₁ at marked ⊢
  have performed : Formed (ice₁.performCheck env i
      ((ice₁.clist.slot i).nominated || ice₁.isNominating)).1 :=
    marked.still (performCheck_performed env ice₁ i _).still
  split
  · split
    · exact marked
    · exact performed
  · split
    · exact marked
    · exact performed
  · exact marked
  · refine Formed.still ?_ (onCheckComplete_updated _ _).still
    split
    · have charts := IceSess.nominateValids_charts marked.charts (ice₁.clist.slot i)
        (List.range ice₁.validList.length)
      obtain ⟨validList, comps, eq⟩ := IceSess.nominateValid_eq ice₁ (ice₁.clist.slot i)
        (List.range ice₁.validList.length)
      rw [eq] at charts ⊢
      exact ⟨marked.room, marked.tidy, charts⟩
    · exact marked
  · exact marked

theorem addTriggered_formed (formed : Formed ice) (rcheck : RxCheck) {lcand rcand : Nat}
    (based : (ice.lcands.getD lcand {}).reflexive = false) (inside : lcand < ice.lcands.length)
    (inside' : rcand < ice.rcands.length)
    (comp : (ice.lcand lcand).compId = (ice.rcand rcand).compId)
    (family : sameFamily (ice.lcand lcand).addr (ice.rcand rcand).addr = true)
    (apart : ∀ c ∈ ice.clist.checks, c.rcand = rcand →
      (ice.lcand c.lcand).baseAddr ≠ (ice.lcand lcand).baseAddr) :
    Formed (ice.addTriggered env rcheck lcand rcand) := by
  have triggered : IceSess.Triggered ice rcheck lcand rcand
      (ice.addTriggered env rcheck lcand rcand) := IceSess.addTriggered_triggered rcheck lcand rcand
  generalize ice.addTriggered env rcheck lcand rcand = made at triggered ⊢
  cases triggered with
  | full => exact formed
  | @added old clist ice₁ stale checks _ performed =>
    have added : Formed { ice with clist } := by
      refine ⟨formed.room, ?_, formed.charts⟩
      show Tidy ice.lcands ice.rcands clist.checks
      rw [checks]
      refine formed.tidy.append based ⟨inside, inside', comp, family⟩ fun a mem same => ?_
      exact apart a mem same.1 same.2
    have formed₁ : Formed ice₁ := by
      rcases performed with rfl | ⟨_, performed⟩
      · exact added.still ⟨rfl, rfl, rfl, rfl, rfl, rfl⟩
      · exact added.still performed.still
    exact ⟨formed₁.room, formed₁.tidy.perm (Checklist.sort_perm _), formed₁.charts⟩

theorem handleIncomingCheck_formed (formed : Formed ice) {rcheck : RxCheck}
    (may : MayJoin ice rcheck) : Formed (ice.handleIncomingCheck env rcheck) := by
  rw [IceSess.handleIncomingCheck]
  split
  · exact formed
  next active =>
  have may := may (Bool.not_eq_true _ ▸ active)
  dsimp only
  split
  · exact formed
  next room =>
  -- whether or not the candidate is known, it is in its place from here on
  cases known : ice.rcands.findIdx? (fun c => decide (rcheck.srcAddr = c.addr)) with
  | some i =>
    have place : rxPlace ice rcheck = i := by
      rw [rxPlace, known]
      rfl
    obtain ⟨inside, same, _⟩ := List.findIdx?_eq_some_iff_getElem.1 known
    have addr : rcheck.srcAddr = (ice.rcand i).addr := by
      rw [IceSess.rcand, List.getD_eq_getElem _ _ inside]
      exact of_decide_eq_true same
    have may := may (.inl (place ▸ inside))
    rw [place, known] at may
    rw [if_neg (Option.some_ne_none i), Option.getD_some]
    split
    · exact formed
    next first found =>
    have mem := List.mem_of_find?_eq_some found
    split
    · exact triggerCheck_formed formed _ _
    · next absent =>
      obtain ⟨comp, family, apart⟩ := may first found (by
        intro c there same
        have differ := List.findIdx?_eq_none_iff.1 absent c there
        obtain ⟨lcand, rcand⟩ := Prod.mk.inj same
        simp [lcand, rcand] at differ)
      have own := List.find?_some found
      simp only [Bool.and_eq_true, decide_eq_true_eq] at own
      refine addTriggered_formed formed rcheck (formed.tidy.based first mem)
        (formed.tidy.fits first mem).lcand inside ?_ (addr ▸ family) apart
      exact own.1.trans (comp i rfl).symm
  | none =>
    have place : rxPlace ice rcheck = ice.rcands.length := by
      rw [rxPlace, known]
      rfl
    have notFull : ice.rcands.length < maxCand := Nat.not_le.1 fun full => room ⟨known, full⟩
    have may := may (.inr notFull)
    rw [place] at may
    rw [if_pos rfl, Option.getD_none]
    generalize new : ({ type := .prflx
                        compId := rcheck.compId
                        foundation := env.prflxFoundation ice.rcands.length
                        prio := rcheck.priority
                        addr := rcheck.srcAddr } : Cand) = prflx
    have grown : Formed { ice with rcands := ice.rcands ++ [prflx] } := by
      refine ⟨?_, ?_, formed.charts⟩
      · rw [List.length_append, List.length_singleton]
        exact notFull
      · have grown := formed.tidy.grow [] [prflx]
        rwa [List.append_nil] at grown
    have fresh : ∀ c ∈ ice.clist.checks, c.rcand ≠ ice.rcands.length := fun c mem =>
      Nat.ne_of_lt (formed.tidy.fits c mem).rcand
    split
    · exact grown
    next first found =>
    have found : ice.clist.checks.find? (fun c =>
        decide (ice.compId c = rcheck.compId)
          && decide ((ice.lcand c.lcand).transportId = rcheck.transportId)) = some first := found
    have mem := List.mem_of_find?_eq_some found
    split
    · exact triggerCheck_formed grown _ _
    · obtain ⟨_, family, _⟩ := may first found fun c there same =>
        fresh c there (Prod.mk.inj same).2
      have own := List.find?_some found
      simp only [Bool.and_eq_true, decide_eq_true_eq] at own
      have here : (ice.rcands ++ [prflx]).getD ice.rcands.length {} = prflx := by
        rw [List.getD_append_right _ _ _ _ (Nat.le_refl _), Nat.sub_self]
        rfl
      refine addTriggered_formed grown rcheck (formed.tidy.based first mem)
        (formed.tidy.fits first mem).lcand ?_ ?_ ?_ fun c there same => ?_
      · rw [List.length_append, List.length_singleton]
        exact Nat.lt_succ_self _
      · show ice.compId first = ((ice.rcands ++ [prflx]).getD ice.rcands.length {}).compId
        rw [here, ← new]
        exact own.1
      · show sameFamily (ice.lcand first.lcand).addr
          ((ice.rcands ++ [prflx]).getD ice.rcands.length {}).addr = true
        rw [here, ← new]
        exact family
      · exact absurd same (fresh c there)

/-- The checks that came early, each as it is taken up. -/
def MayJoinAll (env : IceEnv) (ice : IceSess) : List RxCheck → Prop
  | [] => True
  | rcheck :: rest => MayJoin ice rcheck ∧ MayJoinAll env (ice.handleIncomingCheck env rcheck) rest

theorem earlyChecks_formed (formed : Formed ice) {rchecks : List RxCheck}
    (may : MayJoinAll env ice rchecks) :
    Formed (rchecks.foldl (IceSess.handleIncomingCheck env) ice) := by
  induction rchecks generalizing ice with
  | nil => exact formed
  | cons rcheck rest ih => exact ih (handleIncomingCheck_formed formed may.1) may.2

theorem startCheck_formed (formed : Formed ice)
    (may : MayJoinAll env ice.thawed ice.earlyCheck) : Formed (ice.startCheck env).1 := by
  rcases IceSess.startCheck_cases env ice with same | ⟨timerEndOfCand, eq⟩
  · rw [same]
    exact formed
  · have early : ice.thawed.earlyCheck = ice.earlyCheck := by
      obtain ⟨clist, eq, _⟩ := ice.thawed_eq
      rw [eq]
    rw [eq, early]
    have checked := earlyChecks_formed (formed.still ice.thawed_still) may
    exact checked.still ⟨rfl, rfl, rfl, rfl, rfl, rfl⟩

/-- The session that a request is handled by, in the role that it leaves. -/
def MayReach (env : IceEnv) (ice : IceSess) (msg : IceSess.RxRequest) : Prop :=
  ∀ priority ∈ msg.priority, ice.isDestroying = false → msg.responds = true → ice.txUfrag ≠ [] →
    ∀ role ∈ rxRequestRole ice.role ice.tieBreaker msg.roleAttr, MayJoin { ice with role }
        { compId := msg.compId
          transportId := msg.transportId
          srcAddr := IceSess.rxSourceAddr env { ice with role } msg.compId msg.transportId msg.srcAddr
          useCandidate := msg.useCandidate
          priority }

theorem onStunRxRequest_formed (formed : Formed ice) {msg : IceSess.RxRequest}
    (may : MayReach env ice msg) : Formed (ice.onStunRxRequest env msg) := by
  rw [IceSess.onStunRxRequest]
  split
  · exact formed
  next priority has =>
  split
  · exact formed
  next alive =>
  split
  · exact formed
  next role taken =>
  have turned : Formed { ice with role } := formed.still ⟨rfl, rfl, rfl, rfl, rfl, rfl⟩
  dsimp only
  split
  · exact turned
  next responds =>
  split
  · exact turned.still ⟨rfl, rfl, rfl, rfl, rfl, rfl⟩
  next created =>
  refine handleIncomingCheck_formed turned ?_
  exact may priority has (Bool.not_eq_true _ ▸ alive) (by simpa using responds) created role taken

/-! ## The end of a transaction -/

/-- The place of the candidate that a success response maps a check to, unless the check fails
for it. -/
def mappedCand (env : IceEnv) (ice : IceSess) (ckid : Nat) (completion : IceSess.Completion) :
    Option Nat :=
  let check := ice.clist.slot ckid
  let rcandAddr := (ice.rcand check.rcand).addr
  if rcandAddr ≠ IceSess.sourceAddr env rcandAddr completion.srcAddr then none
  else
    completion.mappedAddr.bind fun xaddr =>
      let base := (ice.lcand check.lcand).baseAddr
      match ice.lcands.findIdx? (fun c => xaddr = c.addr && base = c.baseAddr) with
      | some l => some l
      | none =>
        if ice.compId check = 0 ∨ ice.compId check > ice.compCnt ∨ ice.lcands.length ≥ maxCand then
          none
        else some ice.lcands.length

/-- A pair that becomes valid finds room, and does not take back its nomination. -/
def MayEnter (env : IceEnv) (ice : IceSess) (request : Request) (completion : IceSess.Completion) :
    Prop :=
  ice.isDestroying = false → ice.isComplete = false → completion.status = .success →
    ∀ ckid ∈ ice.completedSlot request, ∀ l ∈ mappedCand env ice ckid completion, ice.Admits ckid l

theorem makeValid_formed (formed : Formed ice) {ckid l : Nat} (inside : l < ice.lcands.length)
    (admits : ice.Admits ckid l) : Formed (ice.makeValid ckid l) := by
  have charts := IceSess.makeValid_charts formed.charts inside admits
  obtain ⟨validList, comps, eq⟩ := ice.makeValid_eq ckid l
  rw [eq] at charts ⊢
  have updated := onCheckComplete_updated { ice with
    validList, comps, clist := ice.clist.modifySlot ckid (Check.setState .succeeded .success) }
    ((ice.clist.modifySlot ckid (Check.setState .succeeded .success)).slot ckid)
  have still := updated.still
  refine ⟨by rw [still.rcands]; exact formed.room, ?_, charts⟩
  rw [still.lcands, still.rcands]
  exact formed.tidy.of_pairs (still.pairs.trans (map_pair_modify fun _ => rfl))

theorem checkSucceeded_formed (formed : Formed ice) {ckid transportId : Nat}
    {completion : IceSess.Completion}
    (may : ∀ l ∈ mappedCand env ice ckid completion, ice.Admits ckid l) :
    Formed (ice.checkSucceeded env ckid transportId completion) := by
  have fails : ∀ status, Formed (ice.failCheck ckid status) :=
    fun status => formed.still (IceSess.failCheck_still ice ckid status)
  rw [mappedCand] at may
  rw [IceSess.checkSucceeded]
  split
  · exact fails _
  next same =>
  rw [if_neg same] at may
  cases mapped : completion.mappedAddr with
  | none => exact fails _
  | some xaddr =>
    rw [mapped, Option.bind_some] at may
    dsimp only at may ⊢
    cases found : ice.lcands.findIdx? (fun c => decide (xaddr = c.addr)
        && decide ((ice.lcand (ice.clist.slot ckid).lcand).baseAddr = c.baseAddr)) with
    | some l =>
      rw [found] at may
      obtain ⟨inside, _⟩ := List.findIdx?_eq_some_iff_getElem.1 found
      exact makeValid_formed formed inside (may l rfl)
    | none =>
      rw [found] at may
      rcases IceSess.addCand_new transportId found with
        ⟨status, _, eq, _⟩ | ⟨cand, _, eq, inside⟩
      · rw [eq]
        exact fails status
      · rw [if_neg inside] at may
        have charts := IceSess.addCand_charts formed.charts (ice.compId (ice.clist.slot ckid))
          transportId .prflx (65535 - ice.lcands.length)
          (calcFoundation .prflx (ice.lcand (ice.clist.slot ckid).lcand).baseAddr) xaddr
          (ice.lcand (ice.clist.slot ckid).lcand).baseAddr
        rw [eq] at charts ⊢
        have tidy := formed.tidy.grow [cand] []
        rw [List.append_nil] at tidy
        have grown : Formed { ice with lcands := ice.lcands ++ [cand] } :=
          ⟨formed.room, tidy, charts⟩
        refine makeValid_formed grown ?_ (may _ rfl)
        rw [List.length_append]
        exact Nat.lt_succ_self _

theorem clearTdata_mappedCand (ckid : Nat) (completion : IceSess.Completion) :
    mappedCand env (ice.clearTdata ckid) ckid completion = mappedCand env ice ckid completion := by
  obtain ⟨lcand, rcand⟩ := Prod.mk.inj (ice.clearTdata_slot ckid).1
  simp only [mappedCand, IceSess.compId, lcand, rcand]
  rfl

theorem clearTdata_admits {ckid l : Nat} (admits : ice.Admits ckid l) :
    (ice.clearTdata ckid).Admits ckid l := by
  obtain ⟨pair, nominated⟩ := ice.clearTdata_slot ckid
  rw [IceSess.Admits, nominated, show ((ice.clearTdata ckid).clist.slot ckid).rcand
    = (ice.clist.slot ckid).rcand from congrArg Prod.snd pair]
  exact admits

theorem onStunRequestComplete_formed (formed : Formed ice) {request : Request}
    {completion : IceSess.Completion} (may : MayEnter env ice request completion) :
    Formed (ice.onStunRequestComplete env request completion) := by
  rw [IceSess.onStunRequestComplete]
  split
  · exact formed
  next going =>
  have alive : ice.isDestroying = false := Bool.not_eq_true _ ▸ fun ended => going (.inl ended)
  have active : ice.isComplete = false := Bool.not_eq_true _ ▸ fun complete => going (.inr complete)
  split
  · exact formed.still (ice.clearTdata_still _)
  next ckid slot =>
  have cleared : Formed (ice.clearTdata ckid) := formed.still (ice.clearTdata_still ckid)
  split
  · next success =>
    refine checkSucceeded_formed cleared fun l mapped => ?_
    rw [clearTdata_mappedCand] at mapped
    exact clearTdata_admits (may alive active success ckid slot l mapped)
  · refine Formed.still ?_ (performCheck_performed env _ _ _).still
    exact cleared.still ⟨rfl, rfl, rfl, rfl, rfl, map_pair_modify fun _ => rfl⟩
  · exact cleared.still (IceSess.failCheck_still _ _ _)

end Forming

/-! ## Steps -/

section Steps

variable {env : IceEnv} {ice ice' : IceSess}

/-- A step that leaves the structure of the lists as it should be. -/
def Orderly (env : IceEnv) (ice : IceSess) : IceAct → Prop
  | .createCheckList _ _ remCand => ice.txUfrag = [] → WellBased ice.lcands (ice.rcands ++ remCand)
      ∧ (ice.isTrickling = false → ∀ c ∈ ice.rcands, c.compId ≤ ice.compCnt)
  | .updateCheckList _ _ remCand trickleDone => ice.txUfrag ≠ [] →
      ice.isTrickling = true ∨ remCand = [] → WellBased ice.lcands (ice.rcands ++ remCand)
        ∧ (trickleDone = true → ∀ c ∈ ice.rcands, c.compId ≤ ice.compCnt)
  | .startCheck => MayJoinAll env ice.thawed ice.earlyCheck
  | .rxRequest msg => MayReach env ice msg
  | .requestComplete request completion =>
    MayEnter env { ice with pending := ice.pending.erase request } request completion
  | .addCand .. | .setOptions .. | .changeRole .. | .setPrefs .. | .periodicTimer | .timer
  | .endOfCandTimer | .destroy => True

theorem Stepped.formed {act : IceAct} (stepped : Stepped env ice act ice') (formed : Formed ice)
    (orderly : Orderly env ice act) : Formed ice' := by
  have still : ∀ {ice₁ : IceSess}, Still ice ice₁ → Formed ice₁ := formed.still
  cases stepped with
  | addCand compId transportId type localPref foundation addr baseAddr =>
    have charts := IceSess.addCand_charts formed.charts compId transportId type localPref
      foundation addr baseAddr
    obtain ⟨more, eq⟩ := ice.addCand_eq compId transportId type localPref foundation addr baseAddr
    rw [eq] at charts ⊢
    have tidy := formed.tidy.grow more []
    rw [List.append_nil] at tidy
    exact ⟨formed.room, tidy, charts⟩
  | setOptions => exact still ⟨rfl, rfl, rfl, rfl, rfl, rfl⟩
  | changeRole => exact still ⟨rfl, rfl, rfl, rfl, rfl, rfl⟩
  | setPrefs => exact still ⟨rfl, rfl, rfl, rfl, rfl, rfl⟩
  | createCheckList => exact createCheckList_formed formed _ _ _ orderly
  | updateCheckList => exact updateCheckList_formed formed _ _ _ _ orderly
  | startCheck => exact startCheck_formed formed orderly
  | periodicTimer => exact still (IceSess.startPeriodicCheck_still ice)
  | timer => exact still (IceSess.onTimer_still ice)
  | endOfCandTimer => exact still (IceSess.endOfCandIndTimer_still ice)
  | rxRequest => exact onStunRxRequest_formed formed orderly
  | requestComplete request completion =>
    have erased : Formed { ice with pending := ice.pending.erase request } :=
      still ⟨rfl, rfl, rfl, rfl, rfl, rfl⟩
    exact onStunRequestComplete_formed erased orderly
  | destroy =>
    rw [IceSess.destroy]
    split
    · exact formed
    · exact still ⟨rfl, rfl, rfl, rfl, rfl, rfl⟩

theorem create_formed (role : Role) (tieBreaker compCnt : Nat) :
    Formed (IceSess.create role tieBreaker compCnt) := by
  have comps : ∀ i, (List.replicate compCnt ({} : Comp)).getD i {} = {} := by
    intro i
    rw [List.getD_eq_getElem?_getD, List.getElem?_replicate]
    split <;> rfl
  refine ⟨Nat.zero_le _, .nil, List.forall_mem_nil _, List.forall_mem_nil _, Nat.zero_le _, ?_, fun i => ?_, fun i _ => comps i,
    fun _ _ _ => nofun⟩
  · exact Nat.le_of_eq (List.length_replicate ..).symm
  · show Pointing _ _ i ((List.replicate compCnt ({} : Comp)).getD i {})
    rw [comps i]
    exact .empty i

/-- The lists and the components are structured after every run of orderly steps. -/
theorem checkList_structured (env : IceEnv) (role : Role) (tieBreaker compCnt : Nat)
    {tr : List (IceAct × IceStatus)}
    (run : Run (iceStep env) (IceSess.create role tieBreaker compCnt) tr ice)
    (orderly : Along (iceStep env) (Orderly env) (IceSess.create role tieBreaker compCnt)
      (tr.map Prod.fst)) : Structured ice := by
  have formed : Formed ice := by
    refine run.invariant_along (fun _ act _ _ formed orderly taken => ?_) orderly
      (create_formed role tieBreaker compCnt)
    exact (iceStep_stepped taken).formed formed orderly
  exact formed.structured

end Steps

/-! ## Checking that a run is orderly -/

instance (lcands rcands : List Cand) : Decidable (WellBased lcands rcands) :=
  decidable_of_iff (∀ c ∈ lcands, c.reflexive = true →
      (∃ r ∈ rcands, c.compId = r.compId ∧ sameFamily c.addr r.addr = true) →
      (findBase lcands c).any (fun host => (lcands.getD host {}).compId = c.compId
        ∧ sameFamily (lcands.getD host {}).addr c.addr = true) = true)
    (by simp only [WellBased, Option.any_eq_true, decide_eq_true_eq, Option.mem_def])

instance (ice : IceSess) (rcheck : RxCheck) : Decidable (MayJoin ice rcheck) :=
  inferInstanceAs (Decidable (_ → _ ∨ _ → ∀ first ∈ ice.clist.checks.find? _,
    (∀ c ∈ ice.clist.checks, _) → (∀ i ∈ ice.rcands.findIdx? _, _) ∧ _
      ∧ ∀ c ∈ ice.clist.checks, _ → _))

instance MayJoinAll.decidable (env : IceEnv) :
    (ice : IceSess) → (rchecks : List RxCheck) → Decidable (MayJoinAll env ice rchecks)
  | _, [] => .isTrue trivial
  | ice, rcheck :: rest =>
    have := MayJoinAll.decidable env (ice.handleIncomingCheck env rcheck) rest
    inferInstanceAs (Decidable (MayJoin ice rcheck ∧ MayJoinAll env _ rest))

instance (env : IceEnv) (ice : IceSess) (msg : IceSess.RxRequest) :
    Decidable (MayReach env ice msg) :=
  inferInstanceAs (Decidable (∀ priority ∈ msg.priority, _ → _ → _ →
    ∀ role ∈ rxRequestRole ice.role ice.tieBreaker msg.roleAttr, MayJoin { ice with role } _))

instance (ice : IceSess) (ckid l : Nat) : Decidable (ice.Admits ckid l) :=
  inferInstanceAs (Decidable ((∀ vc ∈ ice.validList, _ → _ → _)
    ∧ ((∀ vc ∈ ice.validList, ¬ _) → _)))

instance (env : IceEnv) (ice : IceSess) (request : Request) (completion : IceSess.Completion) :
    Decidable (MayEnter env ice request completion) :=
  inferInstanceAs (Decidable (_ → _ → _ → ∀ ckid ∈ ice.completedSlot request,
    ∀ l ∈ mappedCand env ice ckid completion, ice.Admits ckid l))

instance (env : IceEnv) (ice : IceSess) : (act : IceAct) → Decidable (Orderly env ice act)
  | .createCheckList .. => inferInstanceAs (Decidable (_ → WellBased ice.lcands _
      ∧ (_ → ∀ c ∈ ice.rcands, _)))
  | .updateCheckList .. => inferInstanceAs (Decidable (_ → _ ∨ _ → WellBased ice.lcands _
      ∧ (_ → ∀ c ∈ ice.rcands, _)))
  | .startCheck => inferInstanceAs (Decidable (MayJoinAll env ice.thawed ice.earlyCheck))
  | .rxRequest msg => inferInstanceAs (Decidable (MayReach env ice msg))
  | .requestComplete request completion =>
    inferInstanceAs (Decidable (MayEnter env { ice with pending := ice.pending.erase request }
      request completion))
  | .addCand .. | .setOptions .. | .changeRole .. | .setPrefs .. | .periodicTimer | .timer
  | .endOfCandTimer | .destroy => .isTrue trivial

/-- Two components, and a remote candidate for each. -/
def twoComponents : List IceAct :=
  [.setOptions false 0 .disabled, .addCand 1 1 .host 65535 [0x6C] (hostAddr 1) (hostAddr 1),
    .addCand 2 2 .host 65535 [0x6C] (hostAddr 2) (hostAddr 2),
    .createCheckList [0x61] [0x62] [⟨.host, 1, 0, [0x72], 9, hostAddr 100, hostAddr 100⟩,
        ⟨.host, 2, 0, [0x72], 8, hostAddr 101, hostAddr 101⟩],
    .startCheck]

theorem checkList_structured_twoComponents :
    ∃ tr ice, Run (iceStep plainEnv) (IceSess.create .controlled 5 2) tr ice
      ∧ ice.validList ≠ [] ∧ Structured ice := by
  have orderly : Along (iceStep plainEnv) (Orderly plainEnv) (IceSess.create .controlled 5 2)
      (twoComponents ++ [.rxRequest ⟨2, 2, hostAddr 101, some 1, true, none, true⟩,
        .requestComplete ⟨0, 1, 1, 1, 2, .iceControlled, false⟩
          ⟨.success, hostAddr 101, some (hostAddr 2)⟩]) := by
    decide +kernel
  have runs : (exec (iceStep plainEnv) (IceSess.create .controlled 5 2)
      (twoComponents ++ [.rxRequest ⟨2, 2, hostAddr 101, some 1, true, none, true⟩,
        .requestComplete ⟨0, 1, 1, 1, 2, .iceControlled, false⟩
          ⟨.success, hostAddr 101, some (hostAddr 2)⟩])).any (fun ice => ice.validList ≠ [])
        = true := by
    decide +kernel
  obtain ⟨ice, done, valid⟩ := (Option.any_eq_true _ _).1 runs
  obtain ⟨tr, acts, run⟩ := Run.of_exec done
  exact ⟨tr, ice, run, of_decide_eq_true valid,
    checkList_structured plainEnv .controlled 5 2 run (acts.symm ▸ orderly)⟩

/-- The peer sends a check for the second component from the address of its first: the remote
candidate is found by the address alone. -/
theorem checkList_crossed :
    ¬ ∀ (env : IceEnv) (role : Role) (tieBreaker compCnt : Nat) (tr : List (IceAct × IceStatus))
      (ice : IceSess), Run (iceStep env) (IceSess.create role tieBreaker compCnt) tr ice →
      Structured ice := by
  intro claim
  have runs : (exec (iceStep plainEnv) (IceSess.create .controlled 5 2)
      (twoComponents ++ [.rxRequest ⟨2, 2, hostAddr 100, some 1, false, none, true⟩])).any
      (fun ice => ∃ c ∈ ice.clist.checks,
        (ice.lcand c.lcand).compId ≠ (ice.rcand c.rcand).compId) = true := by
    decide +kernel
  obtain ⟨ice, done, crossed⟩ := (Option.any_eq_true _ _).1 runs
  obtain ⟨tr, _, run⟩ := Run.of_exec done
  obtain ⟨c, mem, differ⟩ := of_decide_eq_true crossed
  exact differ ((claim plainEnv .controlled 5 2 tr ice run).matched c mem).1

end Pjsip.Pjnath.Ice
