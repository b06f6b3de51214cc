import Pjsip.Pjnath.Ice.Fitness
import Pjsip.Pjnath.Ice.Tidy

/-!
# What the components point at

A component points at valid pairs of its own. Once it has a nominated one, that is the valid
pair as well, and no other nominated pair of the component is of a higher priority.
-/

namespace Pjsip.Pjnath.Ice

open Pjsip.Base

variable {comp : Comp}

section Charts

variable {lcands : List Cand} {compCnt : Nat} {comps comps' : List Comp}
  {validList validList' : List Check}

def ofComp (lcands : List Cand) (c : Check) : Nat := (lcands.getD c.lcand {}).compId

/-- The component points at the nominated pair `nc`, as valid and as nominated, and there is
none that is higher. -/
structure Tops (lcands : List Cand) (validList : List Check) (i : Nat) (comp : Comp) (n : Nat)
    (nc : Check) : Prop where
  valid : comp.validCheck = some n
  at_ : validList[n]? = some nc
  nominated : nc.nominated = true
  highest : ∀ vc ∈ validList, ofComp lcands vc = i + 1 → vc.nominated = true → vc.prio ≤ nc.prio

/-- What holds of component `i + 1`. -/
structure Pointing (lcands : List Cand) (validList : List Check) (i : Nat) (comp : Comp) : Prop where
  valid : ∀ v ∈ comp.validCheck, ∃ vc, validList[v]? = some vc ∧ ofComp lcands vc = i + 1
  nominated : ∀ n ∈ comp.nominatedCheck, ∃ nc, Tops lcands validList i comp n nc

/-- What a component knows of its nominated pairs. -/
def Covered (lcands : List Cand) (validList : List Check) (i : Nat) (comp : Comp) : Prop :=
  comp.nominatedCheck = none → ∀ vc ∈ validList, ofComp lcands vc = i + 1 → vc.nominated = false

/-- Valid pairs are of candidates that are there, there is room for them, and the components point
at them; every nominated pair of a component that is there is known to it. -/
structure Charted (lcands : List Cand) (compCnt : Nat) (comps : List Comp)
    (validList : List Check) : Prop where
  filed : ∀ c ∈ lcands, 0 < c.compId
  inside : ∀ vc ∈ validList, vc.lcand < lcands.length
  room : validList.length ≤ maxChecks
  sized : compCnt ≤ comps.length
  pointing : ∀ i, Pointing lcands validList i (comps.getD i {})
  beyond : ∀ i, compCnt ≤ i → comps.getD i {} = {}
  covered : ∀ i < compCnt, Covered lcands validList i (comps.getD i {})

theorem Pointing.empty (i : Nat) : Pointing lcands validList i {} := ⟨nofun, nofun⟩

/-- The list `validList'` has an entry `new` at `k`, for one of the same pair that was nominated
only if `new` is, or behind all the others. -/
structure Entered (validList validList' : List Check) (k : Nat) (new : Check) : Prop where
  at_ : validList'[k]? = some new
  others : ∀ j, j ≠ k → validList'[j]? = validList[j]?
  old : ∀ c, validList[k]? = some c → c.lcand = new.lcand ∧ c.prio = new.prio
    ∧ (c.nominated = true → new.nominated = true)

namespace Entered

variable {k : Nat} {new : Check}

theorem mem (entered : Entered validList validList' k new) {c : Check} (mem : c ∈ validList') :
    c = new ∨ ∃ j, j ≠ k ∧ validList[j]? = some c := by
  obtain ⟨j, at_⟩ := List.mem_iff_getElem?.1 mem
  by_cases own : j = k
  · subst own
    rw [entered.at_] at at_
    exact .inl (Option.some.inj at_).symm
  · exact .inr ⟨j, own, (entered.others j own) ▸ at_⟩

theorem place (entered : Entered validList validList' k new) {j : Nat} {c : Check}
    (at_ : validList[j]? = some c) :
    ∃ c', validList'[j]? = some c' ∧ c'.lcand = c.lcand ∧ c'.prio = c.prio := by
  by_cases own : j = k
  · subst own
    obtain ⟨lcand, prio, _⟩ := entered.old c at_
    exact ⟨new, entered.at_, lcand.symm, prio.symm⟩
  · exact ⟨c, (entered.others j own).trans at_, rfl, rfl⟩

theorem elsewhere (entered : Entered validList validList' k new) {i : Nat}
    (other : ofComp lcands new ≠ i + 1) (pointing : Pointing lcands validList i comp) :
    Pointing lcands validList' i comp := by
  constructor
  · intro v points
    obtain ⟨vc, at_, own⟩ := pointing.valid v points
    obtain ⟨vc', at', lcand, _⟩ := entered.place at_
    exact ⟨vc', at', by rw [ofComp, lcand]; exact own⟩
  · intro n points
    obtain ⟨nc, valid, at_, nominated, highest⟩ := pointing.nominated n points
    obtain ⟨vc, at', own⟩ := pointing.valid n valid
    have differ : n ≠ k := by
      intro same
      subst same
      obtain ⟨lcand, _⟩ := entered.old vc at'
      rw [ofComp, lcand] at own
      exact other own
    refine ⟨nc, valid, (entered.others n differ).trans at_, nominated, ?_⟩
    intro c mem ofI isNominated
    rcases entered.mem mem with rfl | ⟨j, _, there⟩
    · exact absurd ofI other
    · exact highest c (List.mem_of_getElem? there) ofI isNominated

end Entered

end Charts

/-! ## Components that are told of a pair -/

section Update

variable {lcands : List Cand} {ice : IceSess} {validList : List Check} {k : Nat} {new : Check}

theorem valid_at {i : Nat} {c : Check} (at_ : ice.validList[i]? = some c) : ice.valid i = c := by
  rw [IceSess.valid, List.getD_eq_getElem?_getD, at_]
  rfl

theorem updateComp_first {i : Nat}
    (entered : Entered validList ice.validList k new) (unnominated : comp.nominatedCheck = none)
    (nominated : new.nominated = true) (own : ofComp lcands new = i + 1)
    (covered : Covered lcands validList i comp) :
    (ice.updateComp comp k).nominatedCheck = some k
      ∧ Tops lcands ice.validList i (ice.updateComp comp k) k new := by
  have here := valid_at entered.at_
  refine ⟨by rw [IceSess.updateComp, here, nominated, unnominated]; rfl, ?_, entered.at_, nominated, ?_⟩
  · rw [IceSess.updateComp, here, nominated, unnominated]
    cases comp.validCheck <;> rfl
  · intro c mem ofI isNominated
    rcases entered.mem mem with rfl | ⟨j, _, there⟩
    · exact Nat.le_refl _
    · rw [covered unnominated c (List.mem_of_getElem? there) ofI] at isNominated
      cases isNominated

theorem updateComp_again {i n : Nat} {nc : Check}
    (entered : Entered validList ice.validList k new) (nominated' : comp.nominatedCheck = some n)
    (tops : Tops lcands validList i comp n nc) :
    ∃ n' nc', (ice.updateComp comp k).nominatedCheck = some n'
      ∧ Tops lcands ice.validList i (ice.updateComp comp k) n' nc' := by
  obtain ⟨valid, at_, isNominated, highest⟩ := tops
  have here := valid_at entered.at_
  -- the pair that was the highest is still where it was
  obtain ⟨nc₁, at₁, nominated₁, prio₁⟩ : ∃ nc₁, ice.validList[n]? = some nc₁
      ∧ nc₁.nominated = true ∧ nc₁.prio = nc.prio := by
    by_cases own : n = k
    · subst own
      obtain ⟨_, prio, stays⟩ := entered.old nc at_
      exact ⟨new, entered.at_, stays isNominated, prio.symm⟩
    · exact ⟨nc, (entered.others n own).trans at_, isNominated, rfl⟩
  have there := valid_at at₁
  have others : ∀ c ∈ ice.validList, ofComp lcands c = i + 1 → c.nominated = true →
      c = new ∨ c.prio ≤ nc₁.prio := by
    intro c mem ofI nominated
    rcases entered.mem mem with rfl | ⟨j, _, where_⟩
    · exact .inl rfl
    · exact .inr (prio₁ ▸ highest c (List.mem_of_getElem? where_) ofI nominated)
  by_cases above : new.nominated = true ∧ nc₁.prio < new.prio
  · refine ⟨k, new, ?_, ?_, entered.at_, above.1, ?_⟩
    · rw [IceSess.updateComp, here, nominated']
      dsimp only
      rw [there, if_pos above.1, if_pos above.2]
    · rw [IceSess.updateComp, here, nominated', valid]
      dsimp only
      rw [there, above.1]
      simp [above.2]
    · intro c mem ofI nominated
      rcases others c mem ofI nominated with rfl | below
      · exact Nat.le_refl _
      · exact Nat.le_of_lt (Nat.lt_of_le_of_lt below above.2)
  · refine ⟨n, nc₁, ?_, ?_, at₁, nominated₁, ?_⟩
    · rw [IceSess.updateComp, here, nominated']
      dsimp only
      rw [there]
      split
      · next nominated => exact if_neg fun lower => above ⟨nominated, lower⟩
      · rfl
    · rw [IceSess.updateComp, here, nominated', valid]
      dsimp only
      rw [there]
      refine if_neg ?_
      simpa [and_comm] using above
    · intro c mem ofI nominated
      rcases others c mem ofI nominated with rfl | below
      · exact Nat.not_lt.1 fun lower => above ⟨nominated, lower⟩
      · exact below

theorem updateComp_pointing {i : Nat}
    (entered : Entered validList ice.validList k new) (own : ofComp lcands new = i + 1)
    (pointing : Pointing lcands validList i comp) (covered : Covered lcands validList i comp) :
    Pointing lcands ice.validList i (ice.updateComp comp k)
      ∧ Covered lcands ice.validList i (ice.updateComp comp k) := by
  have valid : ∀ v ∈ (ice.updateComp comp k).validCheck,
      ∃ vc, ice.validList[v]? = some vc ∧ ofComp lcands vc = i + 1 := by
    intro v points
    have source : v = k ∨ comp.validCheck = some v := by
      rw [IceSess.updateComp] at points
      split at points
      · exact .inl (Option.some.inj points).symm
      · next vc before =>
        split at points
        · exact .inl (Option.some.inj points).symm
        · exact .inr (before.trans points)
    rcases source with rfl | before
    · exact ⟨new, entered.at_, own⟩
    · obtain ⟨vc, at_, ofI⟩ := pointing.valid v before
      obtain ⟨vc', at', lcand, _⟩ := entered.place at_
      exact ⟨vc', at', by rw [ofComp, lcand]; exact ofI⟩
  cases known : comp.nominatedCheck with
  | some n =>
    obtain ⟨nc, tops⟩ := pointing.nominated n known
    obtain ⟨n', nc', points, tops'⟩ := updateComp_again entered known tops
    refine ⟨⟨valid, fun m points' => ?_⟩, fun unnominated => ?_⟩
    · obtain rfl : n' = m := Option.some.inj (points.symm.trans points')
      exact ⟨nc', tops'⟩
    · rw [points] at unnominated
      cases unnominated
  | none =>
    by_cases nominated : new.nominated = true
    · obtain ⟨points, tops⟩ := updateComp_first entered known nominated own covered
      refine ⟨⟨valid, fun m points' => ?_⟩, fun unnominated => ?_⟩
      · obtain rfl : k = m := Option.some.inj (points.symm.trans points')
        exact ⟨new, tops⟩
      · rw [points] at unnominated
        cases unnominated
    · have unnominated : (ice.updateComp comp k).nominatedCheck = none := by
        rw [IceSess.updateComp, valid_at entered.at_, if_neg nominated]
        exact known
      refine ⟨⟨valid, fun m points => ?_⟩, fun _ c mem ofI => ?_⟩
      · rw [unnominated] at points
        cases points
      · rcases entered.mem mem with rfl | ⟨j, _, there⟩
        · exact Bool.not_eq_true _ ▸ nominated
        · exact covered known c (List.mem_of_getElem? there) ofI

theorem Charted.update {compCnt : Nat} {comps : List Comp}
    (charted : Charted lcands compCnt comps validList)
    (entered : Entered validList ice.validList k new) (inside : new.lcand < lcands.length)
    (room : ice.validList.length ≤ maxChecks) (sameCnt : ice.compCnt = compCnt)
    (sameComps : ice.comps = comps) :
    Charted lcands compCnt (ice.updateCompCheck (ofComp lcands new) k).comps ice.validList := by
  have positive : 0 < ofComp lcands new := by
    refine charted.filed _ ?_
    rw [List.getD_eq_getElem _ _ inside]
    exact List.getElem_mem inside
  have insides : ∀ c ∈ ice.validList, c.lcand < lcands.length := by
    intro c mem
    rcases entered.mem mem with rfl | ⟨j, _, there⟩
    · exact inside
    · exact charted.inside c (List.mem_of_getElem? there)
  have elsewhere : ∀ i < compCnt, ofComp lcands new ≠ i + 1 →
      Pointing lcands ice.validList i (comps.getD i {})
        ∧ Covered lcands ice.validList i (comps.getD i {}) := by
    intro i below other
    refine ⟨entered.elsewhere other (charted.pointing i), fun unnominated c mem ofI => ?_⟩
    rcases entered.mem mem with rfl | ⟨j, _, there⟩
    · exact absurd ofI other
    · exact charted.covered i below unnominated c (List.mem_of_getElem? there) ofI
  have told : ∀ i < compCnt, Pointing lcands ice.validList i
        ((ice.updateCompCheck (ofComp lcands new) k).comps.getD i {})
      ∧ Covered lcands ice.validList i
        ((ice.updateCompCheck (ofComp lcands new) k).comps.getD i {}) := by
    intro i below
    rw [IceSess.updateCompCheck]
    split
    · next above =>
      rw [sameComps]
      exact elsewhere i below (by omega)
    · dsimp only
      rw [sameComps, List.getD_eq_getElem?_getD, List.getElem?_modify]
      have there : comps[i]? = some (comps.getD i {}) := by
        rw [List.getD_eq_getElem _ _ (Nat.lt_of_lt_of_le below charted.sized)]
        exact List.getElem?_eq_getElem _
      rw [there, Option.map_eq_map, Option.map_some, Option.getD_some]
      split
      · exact updateComp_pointing entered (by omega) (charted.pointing i) (charted.covered i below)
      · exact elsewhere i below (by omega)
  have beyond : ∀ i, compCnt ≤ i →
      (ice.updateCompCheck (ofComp lcands new) k).comps.getD i {} = {} := by
    intro i above
    have beyond := charted.beyond i above
    rw [IceSess.updateCompCheck]
    split
    · rw [sameComps]
      exact beyond
    · dsimp only
      rw [sameComps, List.getD_eq_getElem?_getD, List.getElem?_modify, Option.map_eq_map]
      rw [List.getD_eq_getElem?_getD] at beyond
      cases there : comps[i]? with
      | none => rfl
      | some comp =>
        rw [there, Option.getD_some] at beyond
        rw [Option.map_some, Option.getD_some, if_neg (by omega)]
        exact beyond
  refine ⟨charted.filed, insides, room, ?_, fun i => ?_, beyond, fun i below => (told i below).2⟩
  · rw [IceSess.updateCompCheck]
    split
    · rw [sameComps]
      exact charted.sized
    · dsimp only
      rw [List.length_modify, sameComps]
      exact charted.sized
  · by_cases below : i < compCnt
    · exact (told i below).1
    · rw [beyond i (Nat.not_lt.1 below)]
      exact .empty i

theorem Charted.follow {compCnt : Nat} {comps : List Comp} {validList' : List Check}
    (charted : Charted lcands compCnt comps validList) (perm : validList'.Perm validList)
    (move : Nat → Nat) (follow : ∀ p, validList'[move p]? = validList[p]?) :
    Charted lcands compCnt
      (comps.map fun comp => ⟨comp.validCheck.map move, comp.nominatedCheck.map move⟩) validList' := by
  have at_ : ∀ i, (comps.map fun comp : Comp =>
        (⟨comp.validCheck.map move, comp.nominatedCheck.map move⟩ : Comp)).getD i {}
      = ⟨(comps.getD i {}).validCheck.map move, (comps.getD i {}).nominatedCheck.map move⟩ := by
    intro i
    rw [List.getD_eq_getElem?_getD, List.getD_eq_getElem?_getD, List.getElem?_map]
    cases comps[i]? <;> rfl
  refine ⟨charted.filed, fun vc mem => charted.inside vc (perm.mem_iff.1 mem), ?_, ?_, fun i => ?_,
    fun i above => ?_, fun i below unnominated vc mem => ?_⟩
  · rw [perm.length_eq]
    exact charted.room
  · rw [List.length_map]
    exact charted.sized
  · rw [at_ i]
    constructor
    · intro v points
      obtain ⟨p, before, rfl⟩ := Option.map_eq_some_iff.1 points
      rw [follow p]
      exact (charted.pointing i).valid p before
    · intro n points
      obtain ⟨p, before, rfl⟩ := Option.map_eq_some_iff.1 points
      obtain ⟨nc, valid, there, nominated, highest⟩ := (charted.pointing i).nominated p before
      refine ⟨nc, ?_, (follow p).trans there, nominated, fun vc mem => ?_⟩
      · rw [valid]
        rfl
      · exact highest vc (perm.mem_iff.1 mem)
  · rw [at_ i, charted.beyond i above]
    rfl
  · rw [at_ i] at unnominated
    exact charted.covered i below (Option.map_eq_none_iff.1 unnominated) vc (perm.mem_iff.1 mem)

theorem Charted.grow {compCnt : Nat} {comps : List Comp} {more : List Cand}
    (charted : Charted lcands compCnt comps validList) (filed : ∀ c ∈ more, 0 < c.compId) :
    Charted (lcands ++ more) compCnt comps validList := by
  have same : ∀ vc ∈ validList, ofComp (lcands ++ more) vc = ofComp lcands vc := by
    intro vc mem
    rw [ofComp, ofComp, List.getD_append _ _ _ _ (charted.inside vc mem)]
  refine ⟨?_, ?_, charted.room, charted.sized, fun i => ⟨?_, ?_⟩, charted.beyond,
    fun i below unnominated vc mem ofI => ?_⟩
  · intro c mem
    rcases List.mem_append.1 mem with old | new
    · exact charted.filed c old
    · exact filed c new
  · intro vc mem
    rw [List.length_append]
    exact Nat.lt_of_lt_of_le (charted.inside vc mem) (Nat.le_add_right _ _)
  · intro v points
    obtain ⟨vc, at_, ofI⟩ := (charted.pointing i).valid v points
    exact ⟨vc, at_, by rw [same vc (List.mem_of_getElem? at_)]; exact ofI⟩
  · intro n points
    obtain ⟨nc, valid, at_, nominated, highest⟩ := (charted.pointing i).nominated n points
    refine ⟨nc, valid, at_, nominated, fun vc mem ofI => ?_⟩
    rw [same vc mem] at ofI
    exact highest vc mem ofI
  · rw [same vc mem] at ofI
    exact charted.covered i below unnominated vc mem ofI

theorem Charted.drop {compCnt compCnt' : Nat} {comps comps' : List Comp}
    (charted : Charted lcands compCnt comps validList) (fewer : compCnt' ≤ compCnt)
    (length : comps'.length = comps.length)
    (kept : ∀ i < compCnt', comps'.getD i {} = comps.getD i {})
    (dropped : ∀ i, compCnt' ≤ i → comps'.getD i {} = {}) :
    Charted lcands compCnt' comps' validList := by
  refine ⟨charted.filed, charted.inside, charted.room, ?_, fun i => ?_, dropped, fun i below => ?_⟩
  · rw [length]
    exact Nat.le_trans fewer charted.sized
  · by_cases below : i < compCnt'
    · rw [kept i below]
      exact charted.pointing i
    · rw [dropped i (Nat.not_lt.1 below)]
      exact .empty i
  · rw [kept i below]
    exact charted.covered i (Nat.lt_of_lt_of_le below fewer)

end Update

/-! ## Sessions -/

namespace IceSess

variable {ice : IceSess}

def Charts (ice : IceSess) : Prop := Charted ice.lcands ice.compCnt ice.comps ice.validList

theorem Charts.still {ice' : IceSess} (charts : ice.Charts) (still : Still ice ice') :
    ice'.Charts := by
  rw [Charts, still.lcands, still.compCnt, still.comps, still.validList]
  exact charts

/-- There is room for a pair that becomes valid, and one that was nominated stays so. -/
def Admits (ice : IceSess) (ckid l : Nat) : Prop :=
  (∀ vc ∈ ice.validList, vc.pair = (l, (ice.clist.slot ckid).rcand) → vc.nominated = true →
      (ice.clist.slot ckid).nominated = true)
    ∧ ((∀ vc ∈ ice.validList, vc.pair ≠ (l, (ice.clist.slot ckid).rcand)) →
      ice.validList.length < maxChecks)

theorem withValid_entered (ice : IceSess) (ckid l : Nat)
    (stays : ∀ vc ∈ ice.validList, vc.pair = (l, (ice.clist.slot ckid).rcand) →
      vc.nominated = true → (ice.clist.slot ckid).nominated = true) :
    ∃ new, new.lcand = l ∧ Entered ice.validList (ice.withValid ckid l).1 (ice.withValid ckid l).2 new := by
  rw [withValid]
  dsimp only
  split
  · refine ⟨{
        lcand := l
        rcand := (ice.clist.slot ckid).rcand
        prio := calcCheckPrio ice.role (ice.lcand l) (ice.rcand (ice.clist.slot ckid).rcand)
        state := .succeeded
        nominated := (ice.clist.slot ckid).nominated }, rfl, ?_, fun j other => ?_, fun c at_ => ?_⟩
    · rw [List.getElem?_append_right (Nat.le_refl _), Nat.sub_self]
      rfl
    · rw [List.getElem?_append]
      split
      · rfl
      · next beyond =>
        rw [List.getElem?_eq_none (Nat.not_lt.1 beyond), List.getElem?_singleton, if_neg (by omega)]
    · rw [List.getElem?_eq_none (Nat.le_refl _)] at at_
      cases at_
  · next i found =>
    obtain ⟨inside, same, _⟩ := List.findIdx?_eq_some_iff_getElem.1 found
    simp only [Bool.and_eq_true, decide_eq_true_eq] at same
    have at_ := List.getElem?_eq_getElem inside
    refine ⟨{ ice.validList[i] with nominated := (ice.clist.slot ckid).nominated }, same.1, ?_,
      fun j other => ?_, fun c there => ?_⟩
    · rw [List.getElem?_modify_eq, at_]
      rfl
    · have differ : ¬ i = j := Ne.symm other
      rw [List.getElem?_modify]
      simp only [differ, if_false]
      cases ice.validList[j]? <;> rfl
    · rw [at_] at there
      cases there
      exact ⟨rfl, rfl, stays _ (List.getElem_mem inside) (Prod.ext same.1 same.2)⟩

theorem withValid_room {ckid l : Nat} (room : ice.validList.length ≤ maxChecks)
    (admits : ice.Admits ckid l) : (ice.withValid ckid l).1.length ≤ maxChecks := by
  rw [withValid]
  split
  · next absent =>
    rw [List.length_append, List.length_singleton]
    refine admits.2 fun vc mem same => ?_
    have differ := List.findIdx?_eq_none_iff.1 absent vc mem
    obtain ⟨lcand, rcand⟩ := Prod.mk.inj same
    simp [lcand, rcand] at differ
  · rw [List.length_modify]
    exact room

theorem makeValid_charts (charts : ice.Charts) {ckid l : Nat} (inside : l < ice.lcands.length)
    (admits : ice.Admits ckid l) : (ice.makeValid ckid l).Charts := by
  obtain ⟨new, rfl, entered⟩ := ice.withValid_entered ckid l admits.1
  have room := withValid_room charts.room admits
  let told : IceSess := { ice with validList := (ice.withValid ckid new.lcand).1 }
  have updated : Charted ice.lcands ice.compCnt
      (told.updateCompCheck (ofComp ice.lcands new) (ice.withValid ckid new.lcand).2).comps
      told.validList := Charted.update charts entered inside room rfl rfl
  have sorted := updated.follow (selectionSort_perm higherCheck _)
    (followExchanges (selectionSort higherCheck (ice.withValid ckid new.lcand).1).2)
    (selectionSort_follow higherCheck _)
  rw [makeValid_enters]
  refine Charts.still ?_ (onCheckComplete_updated _ _).still
  rw [enterValid, updateCompCheck_eq]
  exact sorted

theorem nominateValid_charts (charts : ice.Charts) (c : Check) (j : Nat) :
    (ice.nominateValid c j).Charts := by
  rw [nominateValid]
  split
  · next same =>
    have bound := same.1
    have at_ := List.getElem?_eq_getElem bound
    have inside := charts.inside _ (List.getElem_mem bound)
    let told : IceSess := { ice with
      validList := ice.validList.modify j fun vc => { vc with nominated := true } }
    have entered : Entered ice.validList told.validList j
        { ice.validList[j] with nominated := true } := by
      refine ⟨?_, fun k other => ?_, fun old there => ?_⟩
      · show (ice.validList.modify j fun vc => { vc with nominated := true })[j]? = _
        rw [List.getElem?_modify_eq, at_]
        rfl
      · show (ice.validList.modify j fun vc => { vc with nominated := true })[k]? = _
        have differ : ¬ j = k := Ne.symm other
        rw [List.getElem?_modify]
        simp only [differ, if_false]
        cases ice.validList[k]? <;> rfl
      · rw [at_] at there
        cases there
        exact ⟨rfl, rfl, fun _ => rfl⟩
    have room : told.validList.length ≤ maxChecks := by
      rw [List.length_modify]
      exact charts.room
    have updated := Charted.update charts entered inside room rfl rfl
    have here : told.valid j = { ice.validList[j] with nominated := true } :=
      valid_at entered.at_
    show (told.updateCompCheck (told.compId (told.valid j)) j).Charts
    rw [here, updateCompCheck_eq]
    exact updated
  · exact charts

theorem nominateValids_charts (charts : ice.Charts) (c : Check) (places : List Nat) :
    (places.foldl (fun ice j => ice.nominateValid c j) ice).Charts := by
  induction places generalizing ice with
  | nil => exact charts
  | cons j rest ih => exact ih (nominateValid_charts charts c j)

theorem addCand_charts (charts : ice.Charts) (compId transportId : Nat) (type : CandType)
    (localPref : Nat) (foundation : List UInt8) (addr baseAddr : Stun.SockAddr) :
    (ice.addCand compId transportId type localPref foundation addr baseAddr).1.Charts := by
  rw [addCand]
  split
  · exact charts
  next known =>
  split
  · exact charts
  dsimp only
  split
  · exact charts
  · refine Charted.grow charts fun c mem => ?_
    rw [List.mem_singleton.1 mem]
    exact Nat.pos_of_ne_zero fun zero => known (.inl zero)

theorem dropComps_charts (charts : ice.Charts) (within : ∀ c ∈ ice.rcands, c.compId ≤ ice.compCnt) :
    ice.dropComps.Charts := by
  have fewer : ice.dropComps.compCnt ≤ ice.compCnt := highestComp_le (Nat.zero_le _) within
  refine Charted.drop charts fewer (List.length_mapIdx ..) (fun i below => ?_) fun i above => ?_
  · rcases dropComps_comp ice i with same | ⟨_, above⟩
    · exact same
    · exact absurd below (Nat.not_lt.2 above)
  · show ice.dropComps.comp i = {}
    by_cases known : i < ice.compCnt
    · rw [comp, dropComps]
      simp only [List.getD_eq_getElem?_getD, List.getElem?_mapIdx]
      cases there : ice.comps[i]? with
      | none => rfl
      | some comp =>
        have gone : ice.dropComps.compCnt ≤ i ∧ i < ice.compCnt := ⟨above, known⟩
        exact if_pos gone
    · rcases dropComps_comp ice i with same | ⟨empty, _⟩
      · rw [same]
        exact charts.beyond i (Nat.not_lt.1 known)
      · exact empty

end IceSess

end Pjsip.Pjnath.Ice
