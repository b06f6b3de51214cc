import Mathlib.Data.List.Perm.Subperm
import Pjsip.Pjnath.Ice.CheckComplete

/-!
# Sending checks

What the functions of a session that send checks keep of the check list: a check that is put in
progress has the transaction of the request that was sent for it, which is the last one for its
pair.
-/

namespace Pjsip.Pjnath.Ice

open Pjsip.Base

def IceSess.Sound (ice : IceSess) : Prop := Ice.Sound ice.lcands ice.sent ice.clist.checks

variable {i : Nat}

namespace Checklist

variable (clist : Checklist)

@[simp] theorem modifySlot_checks (i : Nat) (f : Check → Check) :
    (clist.modifySlot i f).checks = clist.checks.modify i f := rfl

theorem modifySlot_all (i : Nat) (f : Check → Check) :
    (clist.modifySlot i f).checks ++ (clist.modifySlot i f).stale
      = (clist.checks ++ clist.stale).modify i f := by
  apply List.ext_getElem?
  intro j
  rw [List.getElem?_modify, List.getElem?_append, List.getElem?_append]
  simp only [modifySlot, List.length_modify]
  by_cases inside : j < clist.checks.length
  · rw [if_pos inside, if_pos inside, List.getElem?_modify]
  · rw [if_neg inside, if_neg inside]
    split
    · rename_i below
      have differ : i ≠ j := by omega
      simp [differ]
    · rw [List.getElem?_modify]
      have same : i - clist.checks.length = j - clist.checks.length ↔ i = j := by omega
      simp only [same]

theorem slot_modifySlot (i : Nat) (f : Check → Check) :
    (clist.modifySlot i f).slot i = f (clist.slot i)
      ∨ (clist.modifySlot i f).slot i = clist.slot i := by
  rw [slot, slot, modifySlot_all, List.getD_eq_getElem?_getD, List.getD_eq_getElem?_getD,
    List.getElem?_modify_eq]
  cases (clist.checks ++ clist.stale)[i]? with
  | none => exact .inr rfl
  | some c => exact .inl rfl

theorem slot_inside {c : Check} (at_ : clist.checks[i]? = some c) : clist.slot i = c := by
  obtain ⟨inside, here⟩ := List.getElem?_eq_some_iff.1 at_
  rw [slot, List.getD_append _ _ _ _ inside, List.getD_eq_getElem _ _ inside, here]

theorem slot_at (inside : i < clist.checks.length) :
    clist.checks[i]? = some (clist.slot i) := by
  have at_ := List.getElem?_eq_getElem inside
  rw [clist.slot_inside at_, at_]

theorem sort_perm : clist.sort.checks.Perm clist.checks := selectionSort_perm higherCheck _

end Checklist

variable {ice' : IceSess}

section Perform

variable (env : IceEnv) (ice : IceSess) (checkId : Nat) (nominate : Bool)

/-- The request that a check is performed with. -/
def IceSess.requestFor (tdata : Nat) : Request where
  tdata := tdata
  ckid := checkId
  lcand := (ice.clist.slot checkId).lcand
  rcand := (ice.clist.slot checkId).rcand
  transportId := (ice.lcand (ice.clist.slot checkId).lcand).transportId
  roleKind := roleKind ice.role
  useCandidate := ice.role = .controlling && nominate

/-- A check that has been nominated, if so be, by sending it. -/
def IceSess.nominated (c : Check) : Check :=
  { c with nominated := (ice.clist.slot checkId).nominated || (ice.role = .controlling && nominate) }

/-- What `perform_check` does: the request may not be made, may not be sent, or is sent. -/
inductive Performed : IceSess → Prop
  | unmade : Performed { ice with requests := ice.requests + 1 }
  | unsent : Performed { ice with
      requests := ice.requests + 1
      clist := ice.clist.modifySlot checkId fun c =>
        { ice.nominated checkId nominate c with tdata := none } }
  | sent (tdata : Nat) : Performed { ice with
      requests := ice.requests + 1
      clist := ice.clist.modifySlot checkId fun c =>
        { ice.nominated checkId nominate c with tdata := some tdata }.setState .inProgress .success
      sent := ice.requestFor checkId nominate tdata :: ice.sent
      pending := ice.requestFor checkId nominate tdata :: ice.pending }

theorem performCheck_performed :
    Performed ice checkId nominate (ice.performCheck env checkId nominate).1 := by
  rw [IceSess.performCheck]
  split
  · exact .unmade
  · rename_i tdata _
    split
    · exact .unsent
    · exact .sent tdata

variable {env ice checkId nominate}

theorem Performed.frame (performed : Performed ice checkId nominate ice') :
    Frame ice ice' := by
  cases performed <;> constructor <;> rfl

theorem Performed.length (performed : Performed ice checkId nominate ice') :
    ice'.clist.checks.length = ice.clist.checks.length := by
  cases performed with
  | unmade => rfl
  | unsent => rw [Checklist.modifySlot_checks, List.length_modify]
  | sent => rw [Checklist.modifySlot_checks, List.length_modify]

theorem Performed.sound (performed : Performed ice checkId nominate ice')
    (sound : ice.Sound) {c : Check} (at_ : ice.clist.checks[checkId]? = some c)
    (idle : c.state ≠ .inProgress) : ice'.Sound := by
  cases performed with
  | unmade => exact sound
  | unsent =>
    refine Ice.Sound.calm sound (calm_modify fun c' at' => ?_)
    rw [at_] at at'
    cases at'
    exact ⟨rfl, rfl, fun progress => absurd progress idle⟩
  | sent tdata =>
    have here := ice.clist.slot_inside at_
    refine Ice.Sound.send sound at_ ?_ (fun _ => ⟨rfl, rfl⟩) rfl
    rw [Request.pair, IceSess.requestFor, here, Check.pair]

end Perform

/-! ## Pairing -/

section Pairs

variable {lcands : List Cand} {sent : List Request} {checks checks' : List Check}

theorem Sound.subperm (sound : Sound lcands sent checks) (sub : checks'.Subperm checks) :
    Sound lcands sent checks' := by
  obtain ⟨mid, perm, sublist⟩ := sub
  exact (sound.sublist sublist).perm perm.symm

theorem Pairing.subperm (pairing : Pairing lcands sent checks) (sub : checks'.Subperm checks) :
    Pairing lcands sent checks' := by
  obtain ⟨mid, perm, sublist⟩ := sub
  exact (pairing.sublist sublist).perm perm.symm

theorem Checklist.remove_sublist (clist : Checklist) (i : Nat) :
    (clist.remove i).checks.Sublist clist.checks := by
  rw [Checklist.remove]
  split
  · exact List.eraseIdx_sublist _ i
  · exact List.Sublist.refl _

theorem Checklist.discard_subperm (clist : Checklist) (prioLowerThan : Nat) :
    (clist.discard prioLowerThan).1.checks.Subperm clist.checks := by
  rw [Checklist.discard]
  split
  · rename_i k _
    exact (clist.remove_sublist k).subperm
  · simp only
    split
    · exact (clist.sort.remove_sublist _).subperm.trans clist.sort_perm.subperm
    · exact clist.sort_perm.subperm

/-- What a slot is filled with for a pair: the rest of it stays as it was. -/
structure Filled (old c : Check) (i j : Nat) : Prop where
  lcand : c.lcand = i
  rcand : c.rcand = j
  toDo : c.state.toDo
  tdata : c.tdata = old.tdata
  nominated : c.nominated = old.nominated

theorem fillPair_cases (ice : IceSess) (clist : Checklist) (i j : Nat) :
    ((ice.fillPair clist i j).2 = false ∧ (ice.fillPair clist i j).1.checks = clist.checks)
      ∨ ((ice.fillPair clist i j).2 = true ∧ ∃ old c, Filled old c i j
        ∧ clist.stale = old :: (ice.fillPair clist i j).1.stale
        ∧ (ice.fillPair clist i j).1.checks = clist.checks ++ [c]) := by
  rw [IceSess.fillPair]
  split
  · exact .inl ⟨rfl, rfl⟩
  · rename_i old rest stale
    simp only
    split
    · exact .inl ⟨rfl, rfl⟩
    · refine .inr ⟨rfl, old, _, ?_, stale, rfl⟩
      split <;> exact ⟨rfl, rfl, rfl, rfl, rfl⟩

/-- What pairing does to the list: checks may be discarded, and one may be added for the pair. -/
theorem addPair_cases (ice : IceSess) (acc : Checklist × Nat) (i j : Nat) :
    ((ice.addPair acc i j).2 = acc.2 ∧ (ice.addPair acc i j).1.checks.Subperm acc.1.checks)
      ∨ ((ice.addPair acc i j).2 = acc.2 + 1 ∧ (ice.lcand i).compId = (ice.rcand j).compId
        ∧ sameFamily (ice.lcand i).addr (ice.rcand j).addr
        ∧ ∃ old c checks, Filled old c i j ∧ checks.Subperm acc.1.checks
          ∧ (ice.addPair acc i j).1.checks = checks ++ [c]) := by
  have room : (if acc.1.checks.length ≥ maxChecks then
        acc.1.discard (calcCheckPrio ice.role (ice.lcand i) (ice.rcand j))
      else (acc.1, true)).1.checks.Subperm acc.1.checks := by
    split
    · exact acc.1.discard_subperm _
    · exact List.Subperm.refl _
  rw [IceSess.addPair]
  simp only
  generalize (if acc.1.checks.length ≥ maxChecks then
      acc.1.discard (calcCheckPrio ice.role (ice.lcand i) (ice.rcand j))
    else (acc.1, true)) = made at room ⊢
  split
  · exact .inl ⟨rfl, room⟩
  · split
    · exact .inl ⟨rfl, room⟩
    · rename_i match_
      rcases fillPair_cases ice made.1 i j with left | filled
      · rw [left.1, if_neg Bool.false_ne_true]
        exact .inl ⟨rfl, left.2.symm ▸ room⟩
      · obtain ⟨added, old, c, filled, _, checks⟩ := filled
        rw [added, if_pos rfl]
        refine .inr ⟨rfl, ?_, ?_, old, c, made.1.checks, filled, room, checks⟩
        · exact Decidable.of_not_not fun differ => match_ (.inl differ)
        · cases family : sameFamily (ice.lcand i).addr (ice.rcand j).addr with
          | true => rfl
          | false => exact absurd (.inr (by rw [family]; rfl)) match_

theorem newPairs_inside (ice : IceSess) {pair : Nat × Nat} (mem : pair ∈ ice.newPairs) :
    pair.1 < ice.lcands.length ∧ pair.2 < ice.rcands.length := by
  simp only [IceSess.newPairs, List.mem_flatMap, List.mem_map, List.mem_range] at mem
  obtain ⟨i, inside, j, mem, rfl⟩ := mem
  exact ⟨inside, List.mem_range.1 (List.mem_of_mem_drop mem)⟩

/-- What discarding checks and adding pairs keep holds when the candidates have been paired; if no
pair is added the list only gets shorter. -/
theorem pairs_keep {P : List Check → Prop} (ice : IceSess) (pairs : List (Nat × Nat))
    (discard : ∀ checks checks', P checks → checks'.Subperm checks → P checks')
    (add : ∀ checks old c i j, P checks → (i, j) ∈ pairs → Filled old c i j →
      (ice.lcand i).compId = (ice.rcand j).compId →
      sameFamily (ice.lcand i).addr (ice.rcand j).addr = true → P (checks ++ [c]))
    (acc : Checklist × Nat) (start : P acc.1.checks)
    (unchanged : acc.2 = 0 → acc.1.checks.Subperm checks) :
    P (pairs.foldl (fun acc pair => ice.addPair acc pair.1 pair.2) acc).1.checks
      ∧ ((pairs.foldl (fun acc pair => ice.addPair acc pair.1 pair.2) acc).2 = 0 →
        (pairs.foldl (fun acc pair => ice.addPair acc pair.1 pair.2) acc).1.checks.Subperm
          checks) := by
  induction pairs generalizing acc with
  | nil => exact ⟨start, unchanged⟩
  | cons pair rest ih =>
    have add' := fun checks old c i j kept mem =>
      add checks old c i j kept (List.mem_cons_of_mem pair mem)
    rcases addPair_cases ice acc pair.1 pair.2 with left | added
    · refine ih add' _ (discard _ _ start left.2) fun zero => ?_
      exact left.2.trans (unchanged (left.1 ▸ zero))
    · obtain ⟨count, comp, family, old, c, mid, filled, sub, checks_⟩ := added
      refine ih add' _ ?_ ?_
      · rw [checks_]
        exact add mid old c _ _ (discard _ _ start sub) List.mem_cons_self filled comp family
      · intro zero
        rw [count] at zero
        nomatch zero

/-- While the candidates are paired the checks that have been performed stay sound. -/
theorem pairs_pairing (ice : IceSess) (pairs : List (Nat × Nat))
    (inside : ∀ pair ∈ pairs, pair.1 < ice.lcands.length) (acc : Checklist × Nat)
    (pairing : Pairing ice.lcands ice.sent acc.1.checks)
    (unchanged : acc.2 = 0 → acc.1.checks.Subperm checks) :
    Pairing ice.lcands ice.sent
        (pairs.foldl (fun acc pair => ice.addPair acc pair.1 pair.2) acc).1.checks
      ∧ ((pairs.foldl (fun acc pair => ice.addPair acc pair.1 pair.2) acc).2 = 0 →
        (pairs.foldl (fun acc pair => ice.addPair acc pair.1 pair.2) acc).1.checks.Subperm
          checks) := by
  refine pairs_keep ice pairs (fun _ _ pairing sub => pairing.subperm sub) ?_ acc pairing unchanged
  intro checks old c i j pairing mem filled _ _
  refine pairing.add filled.toDo ?_
  rw [filled.lcand]
  exact inside (i, j) mem

end Pairs

/-! ## The functions of a session -/

namespace IceSess

variable {env : IceEnv} {ice : IceSess}

theorem saveRcands_eq (ice : IceSess) (remCand : List Cand) :
    ∃ more, remCand.foldl saveRcand ice = { ice with rcands := ice.rcands ++ more } := by
  induction remCand generalizing ice with
  | nil => exact ⟨[], by rw [List.foldl_nil, List.append_nil]⟩
  | cons cand rest ih =>
    obtain ⟨more, saved⟩ := ih (ice.saveRcand cand)
    rw [List.foldl_cons, saved, saveRcand]
    split
    · exact ⟨more, rfl⟩
    · split
      · exact ⟨more, rfl⟩
      · split
        · exact ⟨more, rfl⟩
        · exact ⟨cand :: more, by simp only [List.append_assoc, List.singleton_append]⟩

theorem prune_status (lcands : List Cand) (clist : Checklist) :
    (clist.prune lcands).2 = .success ∨ (clist.prune lcands).2 = .eicenohostcand := by
  rw [Checklist.prune]
  split
  · exact .inl rfl
  · exact .inr rfl

/-- The list with the new pairs, and their number. -/
def pairedList (ice : IceSess) : Checklist × Nat :=
  ice.newPairs.foldl (fun acc pair => ice.addPair acc pair.1 pair.2) (ice.clist, 0)

/-- The list is sorted and pruned if there are any. -/
def prunedList (ice : IceSess) : Checklist × IceStatus :=
  if ice.pairedList.2 ≠ 0 then ice.pairedList.1.sort.prune ice.lcands
  else (ice.pairedList.1, .success)

/-- The session with its candidates paired. -/
def withPairs (ice : IceSess) : IceSess :=
  { ice with
    lcandPaired := ice.lcands.length
    rcandPaired := ice.rcands.length
    clist := ice.prunedList.1 }

/-- What is done when there are no more candidates to come. -/
def endTrickling (ice : IceSess) : IceSess :=
  if ice.trickle ≠ .disabled then ice.dropComps.checkIceComplete.1 else ice.dropComps

/-- What `add_rcand_and_update_checklist` does after it has saved the candidates. -/
inductive ListUpdated (ice : IceSess) (trickleDone : Bool) : IceSess × IceStatus → Prop
  | empty (done : trickleDone = true) (noPairs : ice.pairedList.1.checks = []) :
      ListUpdated ice trickleDone ({ ice with clist := ice.pairedList.1 }, .enotfound)
  | unbased (fails : ice.prunedList.2 = .eicenohostcand) :
      ListUpdated ice trickleDone (ice.withPairs, .eicenohostcand)
  | updated (pruned : ice.prunedList.2 = .success)
      (listed : ¬ (ice.pairedList.1.checks = [] ∧ trickleDone = true))
      (clistTimer timerEndOfCand : Bool) :
      ListUpdated ice trickleDone
        ({ (if trickleDone then ice.withPairs.endTrickling else ice.withPairs) with
            clistTimer
            timerEndOfCand }, .success)

theorem prunedList_status (ice : IceSess) :
    ice.prunedList.2 = .success ∨ ice.prunedList.2 = .eicenohostcand := by
  rw [prunedList]
  split
  · exact prune_status _ _
  · exact .inl rfl

theorem addRcand_updated (ice : IceSess) (remCand : List Cand) (trickleDone : Bool) :
    ListUpdated (remCand.foldl saveRcand ice) trickleDone
      (ice.addRcandAndUpdateChecklist remCand trickleDone) := by
  have unfolded : ∀ saved, remCand.foldl saveRcand ice = saved → ∃ clistTimer timerEndOfCand : Bool,
      ice.addRcandAndUpdateChecklist remCand trickleDone
        = if saved.pairedList.1.checks = [] ∧ trickleDone = true then
            ({ saved with clist := saved.pairedList.1 }, .enotfound)
          else if saved.prunedList.2 ≠ .success then (saved.withPairs, saved.prunedList.2)
          else
            ({ (if trickleDone then saved.withPairs.endTrickling else saved.withPairs) with
                clistTimer
                timerEndOfCand }, .success) := by
    intro saved eq
    subst eq
    exact ⟨_, _, rfl⟩
  obtain ⟨clistTimer, timerEndOfCand, eq⟩ := unfolded _ rfl
  rw [eq]
  split
  · rename_i empty
    exact .empty empty.2 empty.1
  · rename_i listed
    split
    · rename_i fails
      have unbased : (remCand.foldl saveRcand ice).prunedList.2 = .eicenohostcand :=
        (prunedList_status _).resolve_left fails
      rw [unbased]
      exact .unbased unbased
    · rename_i pruned
      exact .updated (Decidable.of_not_not pruned) listed clistTimer timerEndOfCand

theorem endTrickling_updated (check : Check) (ice : IceSess) :
    Updated check ice.dropComps ice.endTrickling := by
  rw [endTrickling]
  split
  · exact checkIceComplete_updated _ check
  · exact .refl check _

theorem addRcand_sound (sound : ice.Sound) (remCand : List Cand) (trickleDone : Bool)
    (ok : (ice.addRcandAndUpdateChecklist remCand trickleDone).2 ≠ .eicenohostcand) :
    (ice.addRcandAndUpdateChecklist remCand trickleDone).1.Sound := by
  have updated := ice.addRcand_updated remCand trickleDone
  obtain ⟨more, saved⟩ := ice.saveRcands_eq remCand
  have sound₁ : (remCand.foldl saveRcand ice).Sound := by
    rw [saved]
    exact sound
  generalize ice.addRcandAndUpdateChecklist remCand trickleDone = result at ok updated ⊢
  generalize remCand.foldl saveRcand ice = ice₁ at sound₁ updated
  obtain ⟨pairing, unchanged⟩ := pairs_pairing ice₁ ice₁.newPairs
    (fun pair mem => (newPairs_inside ice₁ mem).1) (ice₁.clist, 0) (Ice.Sound.pairing sound₁)
    (fun _ => List.Subperm.refl ice₁.clist.checks)
  cases updated with
  | empty _ unchanged =>
    refine Ice.Sound.subperm sound₁ ?_
    show ice₁.pairedList.1.checks.Subperm _
    rw [unchanged]
    exact List.nil_subperm
  | unbased => exact absurd rfl ok
  | updated pruned =>
    have sound₂ : ice₁.withPairs.Sound := by
      rw [prunedList] at pruned
      rw [withPairs, Sound, prunedList]
      split
      · rename_i counted
        rw [if_pos counted] at pruned
        exact pairing.prune pruned
      · rename_i zero
        exact Ice.Sound.subperm sound₁ (unchanged (Decidable.of_not_not zero))
    cases trickleDone with
    | false => exact sound₂
    | true => exact (endTrickling_updated {} ice₁.withPairs).sound sound₂

theorem createCheckList_sound (sound : ice.Sound) (remUfrag remPasswd : List UInt8)
    (remCand : List Cand)
    (ok : (ice.createCheckList remUfrag remPasswd remCand).2 ≠ .eicenohostcand) :
    (ice.createCheckList remUfrag remPasswd remCand).1.Sound := by
  rw [createCheckList] at ok ⊢
  split
  · exact sound
  · rename_i first
    rw [if_neg first] at ok
    generalize cleared : ({ ice with
      txUfrag := remUfrag
      txPass := remPasswd
      clistTimer := false
      clist := ice.clist.clear
      lcandPaired := 0
      rcandPaired := 0 } : IceSess) = ice₁ at ok ⊢
    have sound₁ : ice₁.Sound := by
      rw [← cleared]
      exact Ice.Sound.nil
    simp only at ok ⊢
    split
    · rename_i both
      rw [if_pos both] at ok
      exact addRcand_sound sound₁ _ _ ok
    · exact sound₁

theorem updateCheckList_sound (sound : ice.Sound) (remUfrag remPasswd : List UInt8)
    (remCand : List Cand) (trickleDone : Bool)
    (ok : (ice.updateCheckList remUfrag remPasswd remCand trickleDone).2 ≠ .eicenohostcand) :
    (ice.updateCheckList remUfrag remPasswd remCand trickleDone).1.Sound := by
  rw [updateCheckList] at ok ⊢
  split
  · exact sound
  · rename_i known
    rw [if_neg known] at ok
    split
    · exact sound
    · rename_i taken
      rw [if_neg taken] at ok
      exact addRcand_sound sound _ _ ok

theorem failCheck_updated (ice : IceSess) (ckid : Nat) (status : IceStatus) :
    Updated ((ice.clist.modifySlot ckid (Check.setState .failed status)).slot ckid)
      { ice with clist := ice.clist.modifySlot ckid (Check.setState .failed status) }
      (ice.failCheck ckid status) :=
  onCheckComplete_updated _ _

theorem failCheck_sound (sound : ice.Sound) (ckid : Nat) (status : IceStatus) :
    (ice.failCheck ckid status).Sound := by
  refine (failCheck_updated ice ckid status).sound ?_
  exact Ice.Sound.calm sound (calm_modify fun c _ => ⟨rfl, rfl, nofun⟩)

theorem nextCheck_toDo (next : ice.nextCheck = some i) :
    ∃ c, ice.clist.checks[i]? = some c ∧ c.state.toDo = true := by
  have found : ∃ p : Check → Bool, (∀ c, p c = true → c.state.toDo = true)
      ∧ ice.clist.checks.findIdx? p = some i := by
    rw [nextCheck] at next
    split at next
    · obtain ⟨k, _, next⟩ := List.exists_of_findSome?_eq_some next
      obtain ⟨vc, _, next⟩ := Option.bind_eq_some_iff.1 next
      refine ⟨_, ?_, next⟩
      intro c waiting
      simp only [Bool.and_eq_true, decide_eq_true_eq] at waiting
      rw [waiting.1]
      rfl
    · rcases Option.or_eq_some_iff.1 next with waiting | frozen
      · refine ⟨_, ?_, waiting⟩
        intro c state
        rw [of_decide_eq_true state]
        rfl
      · refine ⟨_, ?_, frozen.2⟩
        intro c state
        rw [of_decide_eq_true state]
        rfl
  obtain ⟨p, toDo, found⟩ := found
  obtain ⟨inside, here, _⟩ := List.findIdx?_eq_some_iff_getElem.1 found
  exact ⟨_, List.getElem?_eq_getElem inside, toDo _ here⟩

theorem nextCheck_idle (next : ice.nextCheck = some i) :
    ∃ c, ice.clist.checks[i]? = some c ∧ c.state ≠ .inProgress := by
  obtain ⟨c, at_, toDo⟩ := nextCheck_toDo next
  refine ⟨c, at_, fun progress => ?_⟩
  rw [progress] at toDo
  cases toDo

/-- The session when its periodic check has begun. -/
def running (ice : IceSess) : IceSess :=
  { ice with clistTimer := false, clist := { ice.clist with state := .running } }

/-- What the periodic check does. -/
inductive PeriodicallyChecked (ice : IceSess) : IceSess → Prop
  | destroying (ended : ice.isDestroying = true) : PeriodicallyChecked ice ice
  | idle (noCheck : ice.nextCheck = none) : PeriodicallyChecked ice ice.running
  | sent {i : Nat} {ice₁ : IceSess} (alive : ice.isDestroying = false)
      (next : ice.nextCheck = some i)
      (performed : Performed ice.running i ice.isNominating ice₁) :
      PeriodicallyChecked ice { ice₁ with clistTimer := true }
  | failed {i : Nat} {ice₁ : IceSess} (alive : ice.isDestroying = false)
      (next : ice.nextCheck = some i)
      (performed : Performed ice.running i ice.isNominating ice₁) (status : IceStatus) :
      PeriodicallyChecked ice { ice₁.failCheck i status with clistTimer := true }

theorem startPeriodicCheck_checked (env : IceEnv) (ice : IceSess) :
    PeriodicallyChecked ice (ice.startPeriodicCheck env) := by
  rw [startPeriodicCheck]
  split
  · rename_i ended
    exact .destroying ended
  · rename_i alive
    have alive : ice.isDestroying = false := eq_false_of_ne_true alive
    simp only
    split
    · rename_i noCheck
      exact .idle noCheck
    · rename_i i next
      have next : ice.nextCheck = some i := next
      have performed := performCheck_performed env ice.running i ice.isNominating
      split
      · exact .failed alive next performed _
      · exact .sent alive next performed

theorem startPeriodicCheck_sound (sound : ice.Sound) : (ice.startPeriodicCheck env).Sound := by
  have checked := startPeriodicCheck_checked env ice
  generalize ice.startPeriodicCheck env = made at checked ⊢
  cases checked with
  | destroying => exact sound
  | idle => exact sound
  | sent _ next performed =>
    obtain ⟨c, at_, idle⟩ := nextCheck_idle next
    exact performed.sound sound at_ idle
  | failed _ next performed status =>
    obtain ⟨c, at_, idle⟩ := nextCheck_idle next
    exact failCheck_sound (performed.sound sound at_ idle) _ status

theorem updateCompCheck_eq (ice : IceSess) (compId check : Nat) : ice.updateCompCheck compId check
      = { ice with comps := (ice.updateCompCheck compId check).comps } := by
  rw [updateCompCheck]
  split <;> rfl

theorem nominateValid_eq (ice : IceSess) (c : Check) (places : List Nat) :
    ∃ validList comps, places.foldl (fun ice j => ice.nominateValid c j) ice
      = { ice with validList, comps } := by
  induction places generalizing ice with
  | nil => exact ⟨ice.validList, ice.comps, rfl⟩
  | cons j rest ih =>
    obtain ⟨validList, comps, later⟩ := ih (ice.nominateValid c j)
    rw [List.foldl_cons, later, nominateValid]
    split
    · rw [updateCompCheck_eq]
      exact ⟨validList, comps, rfl⟩
    · exact ⟨validList, comps, rfl⟩

theorem makeValid_eq (ice : IceSess) (ckid l : Nat) : ∃ validList comps, ice.makeValid ckid l
      = ({ ice with
          validList
          comps
          clist := ice.clist.modifySlot ckid (Check.setState .succeeded .success) }.onCheckComplete
        ((ice.clist.modifySlot ckid (Check.setState .succeeded .success)).slot ckid)).1 := by
  rw [makeValid]
  simp only
  split <;> exact ⟨_, _, by rw [updateCompCheck_eq]⟩

/-! ## Triggered checks -/

theorem triggerCheck_sound (sound : ice.Sound) (useCandidate : Bool)
    (inside : i < ice.clist.checks.length) : (ice.triggerCheck env useCandidate i).Sound := by
  rw [triggerCheck]
  generalize begun : ({ ice with
    clist := ice.clist.modifySlot i fun c =>
      { c with nominated := useCandidate || c.nominated } } : IceSess) = ice₁
  have sound₁ : ice₁.Sound := by
    rw [← begun]
    exact Ice.Sound.calm sound (calm_modify fun c _ => ⟨rfl, rfl, fun at_ => ⟨at_, rfl⟩⟩)
  have at_ : ice₁.clist.checks[i]? = some (ice₁.clist.slot i) := by
    apply ice₁.clist.slot_at
    rw [← begun]
    simpa using inside
  split
  · rename_i frozen
    split
    · exact sound₁
    · exact (performCheck_performed env ice₁ i _).sound sound₁ at_ (by rw [frozen]; nofun)
  · rename_i waiting
    split
    · exact sound₁
    · exact (performCheck_performed env ice₁ i _).sound sound₁ at_ (by rw [waiting]; nofun)
  · exact sound₁
  · refine (onCheckComplete_updated _ _).sound ?_
    split
    · obtain ⟨validList, comps, eq⟩ := nominateValid_eq ice₁ (ice₁.clist.slot i)
        (List.range ice₁.validList.length)
      rw [eq]
      exact sound₁
    · exact sound₁
  · exact sound₁

/-- What a slot becomes for a triggered check. -/
def triggered (ice : IceSess) (rcheck : RxCheck) (old : Check) (lcand rcand : Nat) : Check :=
  { old with
    lcand
    rcand
    prio := calcCheckPrio ice.role (ice.lcand lcand) (ice.rcand rcand)
    state := .waiting
    nominated := rcheck.useCandidate
    errCode := .success }

/-- A pair is added if there is a slot for it, and performed unless nominated checks are sent by
the timer. -/
inductive Triggered (ice : IceSess) (rcheck : RxCheck) (lcand rcand : Nat) : IceSess → Prop
  | full : ice.clist.stale = [] → Triggered ice rcheck lcand rcand ice
  | added {old : Check} {clist : Checklist} {ice' : IceSess}
      (stale : ice.clist.stale = old :: clist.stale)
      (checks : clist.checks = ice.clist.checks ++ [ice.triggered rcheck old lcand rcand])
      (foundation : clist.foundation = ice.clist.foundation)
      (performed : ice' = { ice with clist, clistTimer := true }
        ∨ ¬ (ice.isNominating ∧ ice.aggressive = false)
          ∧ Performed { ice with clist } ice.clist.checks.length
            (rcheck.useCandidate || ice.isNominating) ice') :
      Triggered ice rcheck lcand rcand { ice' with clist := ice'.clist.sort }

theorem addTriggered_triggered (rcheck : RxCheck) (lcand rcand : Nat) :
    Triggered ice rcheck lcand rcand (ice.addTriggered env rcheck lcand rcand) := by
  rw [addTriggered]
  split
  · rename_i full
    exact .full full
  · rename_i old rest stale
    have size : (ice.clist.checks ++ [ice.triggered rcheck old lcand rcand]).length + rest.length
        = maxChecks := by
      have := ice.clist.size
      rw [stale, List.length_cons] at this
      rw [List.length_append, List.length_singleton]
      omega
    refine @Triggered.added ice rcheck lcand rcand old { ice.clist with
        checks := ice.clist.checks ++ [ice.triggered rcheck old lcand rcand]
        stale := rest
        size } _ stale rfl rfl ?_
    split
    · exact .inl rfl
    · rename_i plain
      exact .inr ⟨plain, performCheck_performed env _ _ _⟩

theorem addTriggered_sound (sound : ice.Sound) (rcheck : RxCheck) {first : Check} {rcand : Nat}
    (mem : first ∈ ice.clist.checks)
    (fresh : ∀ c ∈ ice.clist.checks, c.pair ≠ (first.lcand, rcand)) :
    (ice.addTriggered env rcheck first.lcand rcand).Sound := by
  have triggered := @addTriggered_triggered env ice rcheck first.lcand rcand
  generalize ice.addTriggered env rcheck first.lcand rcand = made at triggered ⊢
  cases triggered with
  | full _ => exact sound
  | @added old clist ice' stale checks foundation performed =>
    have sound₁ : Ice.Sound ice.lcands ice.sent clist.checks := by
      rw [checks]
      refine ⟨?_, ?_, ?_, ?_⟩
      · rw [List.pairwise_append]
        refine ⟨sound.distinct, List.pairwise_singleton _ _, ?_⟩
        intro a mem' b new
        rw [List.mem_singleton.1 new]
        exact fresh a mem'
      · intro a mem'
        rcases List.mem_append.1 mem' with old | new
        · exact sound.inside a old
        · rw [List.mem_singleton.1 new]
          exact sound.inside first mem
      · intro a mem'
        rcases List.mem_append.1 mem' with old | new
        · exact sound.based a old
        · rw [List.mem_singleton.1 new]
          exact sound.based first mem
      · intro a mem' progress
        rcases List.mem_append.1 mem' with old | new
        · exact sound.progress a old progress
        · rw [List.mem_singleton.1 new] at progress
          nomatch progress
    have at_ : clist.checks[ice.clist.checks.length]?
        = some (ice.triggered rcheck old first.lcand rcand) := by
      rw [checks, List.getElem?_append_right (Nat.le_refl _), Nat.sub_self]
      rfl
    refine Ice.Sound.perm ?_ (Checklist.sort_perm _)
    rcases performed with rfl | performed
    · exact sound₁
    · exact performed.2.sound sound₁ at_ nofun

theorem handleIncomingCheck_sound (sound : ice.Sound) (rcheck : RxCheck) :
    (ice.handleIncomingCheck env rcheck).Sound := by
  rw [handleIncomingCheck]
  split
  · exact sound
  · simp only
    split
    · exact sound
    · split
      · exact sound
      · rename_i first found
        split
        · rename_i i at_
          obtain ⟨inside, _⟩ := List.findIdx?_eq_some_iff_getElem.1 at_
          apply triggerCheck_sound
          · exact sound
          · exact inside
        · rename_i absent
          apply addTriggered_sound
          · exact sound
          · exact List.mem_of_find?_eq_some found
          · intro c mem same
            have differ := List.findIdx?_eq_none_iff.1 absent c mem
            obtain ⟨lcand, rcand⟩ := Prod.mk.inj same
            simp [lcand, rcand] at differ

theorem onStunRxRequest_sound (sound : ice.Sound) (msg : RxRequest) :
    (ice.onStunRxRequest env msg).Sound := by
  rw [onStunRxRequest]
  split
  · exact sound
  · split
    · exact sound
    · split
      · exact sound
      · simp only
        split
        · exact sound
        · split
          · exact sound
          · apply handleIncomingCheck_sound
            exact sound

/-- The first check of a foundation is thawed. -/
def thawFirst (ice : IceSess) (i : Nat) : IceSess :=
  match ice.firstOfFoundation i with
  | some k => { ice with clist := ice.clist.modifySlot k (Check.setState .waiting .success) }
  | none => ice

/-- The session before it sees to the early checks. -/
def thawed (ice : IceSess) : IceSess :=
  (List.range ice.clist.foundation.length).foldl thawFirst
    { ice with isNominating := ice.aggressive || ice.isNominating }

theorem startCheck_cases (env : IceEnv) (ice : IceSess) : (ice.startCheck env).1 = ice
      ∨ ∃ timerEndOfCand, (ice.startCheck env).1
        = { ice.thawed.earlyCheck.foldl (handleIncomingCheck env) ice.thawed with
            earlyCheck := []
            clistTimer := true
            timerEndOfCand } := by
  rw [startCheck]
  split
  · exact .inl rfl
  · exact .inr ⟨_, rfl⟩

theorem thawFirsts_eq (places : List Nat) (ice : IceSess) :
    ∃ clist, places.foldl thawFirst ice = { ice with clist }
      ∧ Entrywise Calm ice.clist.checks clist.checks := by
  induction places generalizing ice with
  | nil => exact ⟨ice.clist, rfl, Entrywise.refl _⟩
  | cons i rest ih =>
    rw [List.foldl_cons, thawFirst]
    split
    · rename_i k _
      obtain ⟨clist, eq, calm⟩ :=
        ih { ice with clist := ice.clist.modifySlot k (Check.setState .waiting .success) }
      refine ⟨clist, eq, Entrywise.trans (Entrywise.modify fun c _ => ?_) calm⟩
      exact ⟨rfl, rfl, nofun⟩
    · exact ih ice

theorem thawed_eq (ice : IceSess) : ∃ clist, ice.thawed
        = { ice with clist, isNominating := ice.aggressive || ice.isNominating }
      ∧ Entrywise Calm ice.clist.checks clist.checks :=
  thawFirsts_eq _ { ice with isNominating := ice.aggressive || ice.isNominating }

theorem earlyChecks_sound (sound : ice.Sound) (rchecks : List RxCheck) :
    (rchecks.foldl (handleIncomingCheck env) ice).Sound := by
  induction rchecks generalizing ice with
  | nil => exact sound
  | cons rcheck rest ih => exact ih (handleIncomingCheck_sound sound rcheck)

theorem startCheck_sound (sound : ice.Sound) : (ice.startCheck env).1.Sound := by
  rcases startCheck_cases env ice with same | ⟨timerEndOfCand, eq⟩
  · rw [same]
    exact sound
  · obtain ⟨clist, thawed, calm⟩ := ice.thawed_eq
    have sound₁ : ice.thawed.Sound := by
      rw [thawed]
      refine Ice.Sound.calm sound (calm.imp fun c c' changes => ?_)
      induction changes with
      | refl => exact Calm.refl c
      | tail _ change ih => exact ih.trans change
    rw [eq]
    exact earlyChecks_sound sound₁ _

/-! ## Timers -/

theorem onTimer_sound (sound : ice.Sound) : ice.onTimer.Sound := by
  rw [onTimer]
  split
  · exact sound
  · split
    · exact sound
    · exact (onIceComplete_updated _ {} _).sound sound
    · split <;> exact sound
    · exact (startNominatedCheck_updated _ {}).sound sound
    · exact sound

theorem endOfCandIndTimer_sound (sound : ice.Sound) : ice.endOfCandIndTimer.Sound := by
  rw [endOfCandIndTimer]
  split
  · exact (checkIceComplete_updated _ {}).sound sound
  · exact sound

theorem clearTdata_slot (ice : IceSess) (ckid : Nat) :
    ((ice.clearTdata ckid).clist.slot ckid).pair = (ice.clist.slot ckid).pair
      ∧ ((ice.clearTdata ckid).clist.slot ckid).nominated = (ice.clist.slot ckid).nominated := by
  rcases ice.clist.slot_modifySlot ckid (fun c => { c with tdata := none }) with eq | eq
  · rw [clearTdata, eq, Check.pair, Check.pair]
    exact ⟨rfl, rfl⟩
  · rw [clearTdata, eq]
    exact ⟨rfl, rfl⟩

theorem addCand_eq (ice : IceSess) (compId transportId : Nat) (type : CandType) (localPref : Nat)
    (foundation : List UInt8) (addr baseAddr : Stun.SockAddr) :
    ∃ more, (ice.addCand compId transportId type localPref foundation addr baseAddr).1
      = { ice with lcands := ice.lcands ++ more } := by
  rw [addCand]
  split
  · exact ⟨[], by rw [List.append_nil]⟩
  · split
    · exact ⟨[], by rw [List.append_nil]⟩
    · simp only
      split
      · exact ⟨[], by rw [List.append_nil]⟩
      · exact ⟨_, rfl⟩

theorem addCand_new (transportId : Nat) {compId localPref : Nat} {foundation : List UInt8}
    {addr baseAddr : Stun.SockAddr}
    (new : ice.lcands.findIdx? (fun c => addr = c.addr && baseAddr = c.baseAddr) = none) :
    (∃ status, status ≠ .success
      ∧ ice.addCand compId transportId .prflx localPref foundation addr baseAddr
        = (ice, .error status)
      ∧ (compId = 0 ∨ compId > ice.compCnt ∨ ice.lcands.length ≥ maxCand))
    ∨ (∃ cand : Cand, cand.transportId = transportId
      ∧ ice.addCand compId transportId .prflx localPref foundation addr baseAddr
        = ({ ice with lcands := ice.lcands ++ [cand] }, .ok ice.lcands.length)
      ∧ ¬ (compId = 0 ∨ compId > ice.compCnt ∨ ice.lcands.length ≥ maxCand)) := by
  rw [addCand]
  split
  · next outside => exact .inl ⟨.einval, nofun, rfl, outside.imp id .inl⟩
  split
  · next full => exact .inl ⟨.etoomany, nofun, rfl, .inr (.inr full)⟩
  next outside room =>
  have unknown : (if ice.trickle = .disabled then none else
      ice.lcands.findIdx? fun c =>
        c.compId = compId && c.type = .prflx && c.addr = addr && c.baseAddr = baseAddr) = none := by
    split
    · rfl
    · rw [List.findIdx?_eq_none_iff] at new ⊢
      intro c mem
      have differs := new c mem
      simp only [Bool.and_eq_false_iff, decide_eq_false_iff_not] at differs ⊢
      rcases differs with addr_ | base
      · exact .inl (.inr fun same => addr_ same.symm)
      · exact .inr fun same => base same.symm
  rw [unknown]
  refine .inr ⟨_, ?_, rfl, ?_⟩
  · rfl
  · omega

theorem addCand_keeps {compId transportId : Nat} {type : CandType}
    {localPref : Nat} {foundation : List UInt8} {addr baseAddr : Stun.SockAddr}
    {result : Except IceStatus Nat}
    (added : ice.addCand compId transportId type localPref foundation addr baseAddr
      = (ice', result)) :
    ∃ more, ice' = { ice with lcands := ice.lcands ++ more } := by
  obtain ⟨more, eq⟩ := ice.addCand_eq compId transportId type localPref foundation addr baseAddr
  rw [added] at eq
  exact ⟨more, eq⟩

theorem addCand_sound (sound : ice.Sound) (compId transportId : Nat) (type : CandType)
    (localPref : Nat) (foundation : List UInt8) (addr baseAddr : Stun.SockAddr) :
    (ice.addCand compId transportId type localPref foundation addr baseAddr).1.Sound := by
  obtain ⟨more, eq⟩ := ice.addCand_eq compId transportId type localPref foundation addr baseAddr
  rw [eq]
  exact Ice.Sound.grow sound more

theorem create_sound (role : Role) (tieBreaker compCnt : Nat) :
    (create role tieBreaker compCnt).Sound := Ice.Sound.nil

end IceSess

/-! ## Steps -/

/-- What a session becomes by what happens to it. -/
inductive Stepped (env : IceEnv) (ice : IceSess) : IceAct → IceSess → Prop
  | addCand (compId transportId : Nat) (type : CandType) (localPref : Nat)
      (foundation : List UInt8) (addr baseAddr : Stun.SockAddr) :
      Stepped env ice (.addCand compId transportId type localPref foundation addr baseAddr)
        (ice.addCand compId transportId type localPref foundation addr baseAddr).1
  | setOptions (aggressive : Bool) (wantNomTimeout : Int) (trickle : Trickle) :
      Stepped env ice (.setOptions aggressive wantNomTimeout trickle)
        (ice.setOptions aggressive wantNomTimeout trickle)
  | changeRole (role : Role) : Stepped env ice (.changeRole role) { ice with role }
  | setPrefs (prefs : CandType → Nat) : Stepped env ice (.setPrefs prefs) { ice with prefs }
  | createCheckList (remUfrag remPasswd : List UInt8) (remCand : List Cand) :
      Stepped env ice (.createCheckList remUfrag remPasswd remCand)
        (ice.createCheckList remUfrag remPasswd remCand).1
  | updateCheckList (remUfrag remPasswd : List UInt8) (remCand : List Cand) (trickleDone : Bool) :
      Stepped env ice (.updateCheckList remUfrag remPasswd remCand trickleDone)
        (ice.updateCheckList remUfrag remPasswd remCand trickleDone).1
  | startCheck : Stepped env ice .startCheck (ice.startCheck env).1
  | periodicTimer (set_ : ice.clistTimer = true) :
      Stepped env ice .periodicTimer (ice.startPeriodicCheck env)
  | timer (set_ : ice.timer ≠ .none) : Stepped env ice .timer ice.onTimer
  | endOfCandTimer (set_ : ice.timerEndOfCand = true) :
      Stepped env ice .endOfCandTimer ice.endOfCandIndTimer
  | rxRequest (msg : IceSess.RxRequest) (session : 0 < msg.compId ∧ msg.compId ≤ ice.compCnt) :
      Stepped env ice (.rxRequest msg) (ice.onStunRxRequest env msg)
  | requestComplete (request : Request) (completion : IceSess.Completion)
      (pending : request ∈ ice.pending) :
      Stepped env ice (.requestComplete request completion)
        ({ ice with pending := ice.pending.erase request }.onStunRequestComplete env request
          completion)
  | destroy : Stepped env ice .destroy ice.destroy

theorem iceStep_stepped {env : IceEnv} {ice ice' : IceSess} {act : IceAct} {status : IceStatus}
    (taken : iceStep env ice act = some (ice', status)) : Stepped env ice act ice' := by
  have made : ∀ {next : IceSess × IceStatus}, some next = some (ice', status) → ice' = next.1 := by
    intro next eq
    rw [Option.some.inj eq]
  cases act with
  | addCand =>
    rw [made taken]
    exact .addCand ..
  | setOptions =>
    rw [made taken]
    exact .setOptions ..
  | changeRole =>
    rw [made taken]
    exact .changeRole ..
  | setPrefs =>
    rw [made taken]
    exact .setPrefs ..
  | createCheckList =>
    rw [made taken]
    exact .createCheckList ..
  | updateCheckList =>
    rw [made taken]
    exact .updateCheckList ..
  | startCheck =>
    rw [made taken]
    exact .startCheck
  | periodicTimer =>
    rw [iceStep] at taken
    split at taken
    · rename_i set_
      rw [made taken]
      exact .periodicTimer set_
    · nomatch taken
  | timer =>
    rw [iceStep] at taken
    split at taken
    · rename_i set_
      rw [made taken]
      exact .timer set_
    · nomatch taken
  | endOfCandTimer =>
    rw [iceStep] at taken
    split at taken
    · rename_i set_
      rw [made taken]
      exact .endOfCandTimer set_
    · nomatch taken
  | rxRequest =>
    rw [iceStep] at taken
    split at taken
    · rename_i session
      rw [made taken]
      exact .rxRequest _ session
    · nomatch taken
  | requestComplete =>
    rw [iceStep] at taken
    split at taken
    · rename_i pending
      rw [made taken]
      exact .requestComplete _ _ pending
    · nomatch taken
  | destroy =>
    rw [made taken]
    exact .destroy

/-- Every request is made and sent, under its own number. -/
def plainEnv : IceEnv := ⟨.ok, fun _ => .ok (), fun _ => none, fun _ => []⟩

/-- The address 10.0.0.`k`. -/
def hostAddr (k : UInt8) : Stun.SockAddr := .inet 4000 ⟨[10, 0, 0, k], rfl⟩

end Pjsip.Pjnath.Ice
