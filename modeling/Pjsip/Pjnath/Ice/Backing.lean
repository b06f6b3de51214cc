import Pjsip.Pjnath.Ice.Sending

/-!
# The checks behind a valid pair

A valid pair is backed by the check list: a check that goes the same way has succeeded, and the
first one that goes this way, which is the one to be performed again, has no error.
-/

namespace Pjsip.Pjnath.Ice

open Pjsip.Base

/-- The first check that goes the way `w` has no error. -/
def Led (way : Check → Nat × Nat) (w : Nat × Nat) : List Check → Prop
  | [] => True
  | c :: rest => if way c = w then c.errCode = .success else Led way w rest

/-- A check that goes the way `w` has succeeded. -/
def Proven (way : Check → Nat × Nat) (w : Nat × Nat) (checks : List Check) : Prop :=
  ∃ c ∈ checks, way c = w ∧ c.state = .succeeded

/-- The error of a check goes with its state. -/
structure Check.Settled (c : Check) : Prop where
  succeeded : c.state = .succeeded → c.errCode = .success
  failed : c.state = .failed → c.errCode ≠ .success

structure Backed (way : Check → Nat × Nat) (w : Nat × Nat) (checks : List Check) : Prop where
  led : Led way w checks
  proven : Proven way w checks

section Lists

variable {way way' : Check → Nat × Nat} {w : Nat × Nat} {checks checks' : List Check}

theorem Led.forall₂ (led : Led way w checks) (same : List.Forall₂ (fun c c' => way' c' = way c
      ∧ (c.errCode = .success → c'.errCode = .success)) checks checks') : Led way' w checks' := by
  induction same with
  | nil => trivial
  | cons kept _ ih =>
    rw [Led] at led ⊢
    rw [kept.1]
    split
    · next here =>
      rw [if_pos here] at led
      exact kept.2 led
    · next other =>
      rw [if_neg other] at led
      exact ih led

theorem Proven.forall₂ (proven : Proven way w checks)
    (same : List.Forall₂ (fun c c' => way' c' = way c
      ∧ (c.state = .succeeded → c'.state = .succeeded)) checks checks') :
    Proven way' w checks' := by
  obtain ⟨c, mem, here, state⟩ := proven
  induction same with
  | nil => cases mem
  | @cons a a' rest rest' kept _ ih =>
    cases mem with
    | head => exact ⟨a', List.mem_cons_self, kept.1.trans here, kept.2 state⟩
    | tail _ mem =>
      obtain ⟨c', mem', proven⟩ := ih mem
      exact ⟨c', List.mem_cons_of_mem a' mem', proven⟩

theorem Proven.subset (proven : Proven way w checks)
    (sub : ∀ c ∈ checks, c.state = .succeeded → c ∈ checks') : Proven way w checks' := by
  obtain ⟨c, mem, here, state⟩ := proven
  exact ⟨c, sub c mem state, here, state⟩

theorem Led.append (led : Led way w checks) (proven : Proven way w checks) (more : List Check) :
    Led way w (checks ++ more) := by
  obtain ⟨c, mem, here, _⟩ := proven
  induction checks with
  | nil => cases mem
  | cons a rest ih =>
    rw [List.cons_append, Led]
    rw [Led] at led
    split
    · next first =>
      rw [if_pos first] at led
      exact led
    · next other =>
      rw [if_neg other] at led
      cases mem with
      | head => exact absurd here other
      | tail _ mem => exact ih led mem

theorem Led.eraseIdx (led : Led way w checks) {k : Nat} {c : Check} (at_ : checks[k]? = some c)
    (error : c.errCode ≠ .success) : Led way w (checks.eraseIdx k) := by
  induction checks generalizing k with
  | nil => cases at_
  | cons a rest ih =>
    rw [Led] at led
    cases k with
    | zero =>
      cases at_
      rw [List.eraseIdx_cons_zero]
      split at led
      · exact absurd led error
      · exact led
    | succ k =>
      rw [List.eraseIdx_cons_succ, Led]
      split
      · next first =>
        rw [if_pos first] at led
        exact led
      · next other =>
        rw [if_neg other] at led
        exact ih led at_

variable {f : Check → Check}

theorem Led.modify (led : Led way w checks) {i : Nat} (same : ∀ c, way (f c) = way c)
    (change : ∀ c, checks[i]? = some c → way c = w → (∀ a ∈ checks.take i, way a ≠ w) →
      c.errCode = .success → (f c).errCode = .success) : Led way w (checks.modify i f) := by
  induction checks generalizing i with
  | nil =>
    rw [List.modify_nil]
    exact led
  | cons a rest ih =>
    rw [Led] at led
    cases i with
    | zero =>
      rw [List.modify_zero_cons, Led, same]
      split
      · next first =>
        rw [if_pos first] at led
        exact change a rfl first (List.forall_mem_nil _) led
      · next other =>
        rw [if_neg other] at led
        exact led
    | succ i =>
      rw [List.modify_succ_cons, Led]
      split
      · next first =>
        rw [if_pos first] at led
        exact led
      · next other =>
        rw [if_neg other] at led
        refine ih led fun c at_ here before => change c at_ here ?_
        intro b mem
        rcases List.mem_cons.1 mem with rfl | mem
        · exact other
        · exact before b mem

theorem Backed.modify (backed : Backed way w checks) {i : Nat} (same : ∀ c, way (f c) = way c)
    (change : ∀ c, checks[i]? = some c → way c = w →
      (c.state = .succeeded → (f c).state = .succeeded)
        ∧ ((∀ a ∈ checks.take i, way a ≠ w) → c.errCode = .success → (f c).errCode = .success)) :
    Backed way w (checks.modify i f) := by
  refine ⟨backed.led.modify same fun c at_ here => (change c at_ here).2, ?_⟩
  obtain ⟨c, mem, here, state⟩ := backed.proven
  obtain ⟨j, at_⟩ := List.mem_iff_getElem?.1 mem
  have at' : (checks.modify i f)[j]? = some (if i = j then f c else c) := by
    rw [List.getElem?_modify, at_]
    rfl
  refine ⟨_, List.mem_of_getElem? at', ?_⟩
  split
  · next own =>
    subst own
    exact ⟨(same c).trans here, (change c at_ here).1 state⟩
  · exact ⟨here, state⟩

/-- A check that succeeds backs its way, unless an earlier one with an error leads. -/
theorem Backed.enter {i : Nat} {c : Check} (at_ : checks[i]? = some c)
    (here : way c = w) (earlier : Led way w (checks.take i)) (same : ∀ c, way (f c) = way c)
    (state : (f c).state = .succeeded) (errCode : (f c).errCode = .success) :
    Backed way w (checks.modify i f) := by
  constructor
  · induction checks generalizing i with
    | nil => cases at_
    | cons a rest ih =>
      cases i with
      | zero =>
        cases at_
        rw [List.modify_zero_cons, Led, same, if_pos here]
        exact errCode
      | succ i =>
        rw [List.take_succ_cons, Led] at earlier
        rw [List.modify_succ_cons, Led]
        split
        · next first =>
          rw [if_pos first] at earlier
          exact earlier
        · next other =>
          rw [if_neg other] at earlier
          exact ih at_ earlier
  · refine ⟨f c, List.mem_of_getElem? (i := i) ?_, (same c).trans here, state⟩
    rw [List.getElem?_modify, at_, Option.map_eq_map, Option.map_some, if_pos rfl]

theorem Backed.reway (backed : Backed way w checks) (same : ∀ c ∈ checks, way' c = way c) :
    Backed way' w checks :=
  ⟨backed.led.forall₂ (List.forall₂_same.2 fun c mem => ⟨same c mem, id⟩),
    backed.proven.forall₂ (List.forall₂_same.2 fun c mem => ⟨same c mem, id⟩)⟩

theorem Backed.map (backed : Backed way w checks)
    (same : ∀ c, way (f c) = way c) (stays : ∀ c, c.state = .succeeded → (f c).state = .succeeded)
    (errCode : ∀ c, c.errCode = .success → (f c).errCode = .success) :
    Backed way w (checks.map f) := by
  constructor
  · refine backed.led.forall₂ (List.forall₂_map_right_iff.2 (List.forall₂_same.2 fun c _ => ?_))
    exact ⟨same c, errCode c⟩
  · refine backed.proven.forall₂ (List.forall₂_map_right_iff.2 (List.forall₂_same.2 fun c _ => ?_))
    exact ⟨same c, stays c⟩

theorem Led.of_ordered (ordered : checks.Pairwise fun a b =>
      b.state = .succeeded → a.state = .succeeded)
    (settled : ∀ c ∈ checks, c.Settled) (proven : Proven way w checks) : Led way w checks := by
  obtain ⟨c, mem, here, state⟩ := proven
  induction checks with
  | nil => trivial
  | cons a rest ih =>
    rw [Led]
    have first := (List.pairwise_cons.1 ordered).1
    split
    · apply (settled a List.mem_cons_self).succeeded
      cases mem with
      | head => exact state
      | tail _ mem => exact first c mem state
    · next other =>
      cases mem with
      | head => exact absurd here other
      | tail _ mem =>
        exact ih (List.pairwise_cons.1 ordered).2
          (fun d mem => settled d (List.mem_cons_of_mem a mem)) mem

theorem sort_succeeded (checks : List Check) :
    (selectionSort higherCheck checks).1.Pairwise fun a b =>
      b.state = .succeeded → a.state = .succeeded := by
  refine (sort_sorted checks).imp ?_
  intro a b notAbove state
  rw [← Bool.not_eq_true, higherCheck_iff, state] at notAbove
  cases state' : a.state <;> simp_all [CheckState.rank]

end Lists

/-! ## Discarding and pruning -/

namespace Checklist

def Slots (P : Check → Prop) (clist : Checklist) : Prop := ∀ c ∈ clist.checks ++ clist.stale, P c

section Slots

variable {P : Check → Prop} {clist : Checklist}

theorem Slots.sort (slots : clist.Slots P) : clist.sort.Slots P := by
  intro c mem
  refine slots c (List.mem_append.2 ((List.mem_append.1 mem).imp ?_ id))
  exact clist.sort_perm.mem_iff.1

theorem Slots.modifySlot (slots : clist.Slots P) {i : Nat} {f : Check → Check}
    (keeps : ∀ c, P c → P (f c)) : (clist.modifySlot i f).Slots P := by
  rw [Slots, modifySlot_all]
  exact forall_mem_modify slots keeps

theorem Slots.mapChecks (slots : clist.Slots P) {f : Check → Check}
    (keeps : ∀ c, P c → P (f c)) : (clist.mapChecks f).Slots P := by
  intro c mem
  rcases List.mem_append.1 mem with listed | stale
  · obtain ⟨d, there, rfl⟩ := List.mem_map.1 listed
    exact keeps d (slots d (List.mem_append_left _ there))
  · exact slots c (List.mem_append_right _ stale)

theorem Slots.slot (slots : clist.Slots P) (default : P {}) (i : Nat) : P (clist.slot i) := by
  rw [Checklist.slot, List.getD_eq_getElem?_getD]
  cases at_ : (clist.checks ++ clist.stale)[i]? with
  | none => exact default
  | some c => exact slots c (List.mem_of_getElem? at_)

theorem Slots.remove (slots : clist.Slots P) (i : Nat) : (clist.remove i).Slots P := by
  rw [Checklist.remove]
  split
  · intro c mem
    rcases List.mem_append.1 mem with left | stale
    · exact slots c (List.mem_append_left _ (List.mem_of_mem_eraseIdx left))
    · rcases List.mem_cons.1 stale with rfl | stale
      · exact slots _ (List.mem_append_left _ (List.getLast_mem _))
      · exact slots c (List.mem_append_right _ stale)
  · exact slots

theorem Slots.discard (slots : clist.Slots P) (prioLowerThan : Nat) :
    (clist.discard prioLowerThan).1.Slots P := by
  rw [Checklist.discard]
  split
  · exact slots.remove _
  · dsimp only
    split
    · exact slots.sort.remove _
    · exact slots.sort

theorem pruneRest_slots {lcands : List Cand} {ci : Check} {checks stale : List Check}
    (slots : ∀ c ∈ checks ++ stale, P c) :
    ∀ c ∈ (pruneRest lcands ci checks stale).1 ++ (pruneRest lcands ci checks stale).2, P c := by
  induction checks generalizing stale with
  | nil => exact slots
  | cons cj rest ih =>
    rw [pruneRest]
    split
    · refine ih fun c mem => ?_
      rcases List.mem_append.1 mem with left | stale
      · exact slots c (List.mem_append_left _ (List.mem_cons_of_mem cj left))
      · rcases List.mem_cons.1 stale with rfl | stale
        · exact slots _ (List.mem_append_left _ (List.getLast_mem _))
        · exact slots c (List.mem_append_right _ stale)
    · intro c mem
      rcases List.mem_cons.1 mem with rfl | mem
      · exact slots c List.mem_cons_self
      · exact ih (fun d there => slots d (List.mem_cons_of_mem cj there)) c mem

theorem Slots.pruneAt (slots : clist.Slots P) (lcands : List Cand) (i : Nat) :
    (clist.pruneAt lcands i).Slots P := by
  rw [Checklist.pruneAt]
  split
  · intro c mem
    have rest : ∀ c ∈ clist.checks.drop (i + 1) ++ clist.stale, P c := by
      intro c mem
      refine slots c (List.mem_append.2 ((List.mem_append.1 mem).imp ?_ id))
      exact List.mem_of_mem_drop
    rw [List.append_assoc] at mem
    rcases List.mem_append.1 mem with taken | pruned
    · exact slots c (List.mem_append_left _ (List.mem_of_mem_take taken))
    · exact pruneRest_slots rest c pruned
  · exact slots

end Slots

end Checklist

/-- What replacing its candidate does to a check. -/
structure Rebased (lcands : List Cand) (c c' : Check) : Prop where
  same : c' = { c with lcand := c'.lcand }
  lcand : c'.lcand = c.lcand ∨ (lcands.getD c.lcand {}).reflexive = true
    ∧ findBase lcands (lcands.getD c.lcand {}) = some c'.lcand

theorem replaceBases_rebased (lcands : List Cand) (checks : List Check) :
    List.Forall₂ (Rebased lcands) checks (replaceBases lcands checks).1 := by
  have same : ∀ l : List Check, List.Forall₂ (Rebased lcands) l l :=
    fun l => List.forall₂_same.2 fun c _ => ⟨rfl, .inl rfl⟩
  induction checks with
  | nil => exact .nil
  | cons c rest ih =>
    rw [replaceBases]
    split
    · next reflexive =>
      split
      · next host found => exact .cons ⟨rfl, .inr ⟨reflexive, found⟩⟩ ih
      · exact same _
    · exact .cons ⟨rfl, .inl rfl⟩ ih

variable {c : Check}

theorem Checklist.Slots.prunes {P : Check → Prop} {clist : Checklist} (slots : clist.Slots P)
    (lcands : List Cand) (places : List Nat) :
    (places.foldl (Checklist.pruneAt lcands) clist).Slots P := by
  induction places generalizing clist with
  | nil => exact slots
  | cons i rest ih => exact ih (slots.pruneAt lcands i)

/-! ## Adding pairs -/

/-- The list has room, or a check that has not succeeded to make it. -/
def Checklist.Roomy (clist : Checklist) : Prop :=
  clist.checks.length < maxChecks ∨ ∃ c ∈ clist.checks, c.state ≠ .succeeded

/-- The checks are of the first `n` candidates, and their errors go with their states. -/
structure Laid (n : Nat) (checks : List Check) : Prop where
  inside : ∀ c ∈ checks, c.lcand < n
  settled : ∀ c ∈ checks, c.Settled

theorem Laid.subset {n : Nat} {checks checks' : List Check} (laid : Laid n checks)
    (sub : checks' ⊆ checks) : Laid n checks' :=
  ⟨fun c mem => laid.inside c (sub mem), fun c mem => laid.settled c (sub mem)⟩

theorem Laid.append {n : Nat} {checks : List Check} (laid : Laid n checks)
    (inside : c.lcand < n) (settled : c.Settled) : Laid n (checks ++ [c]) :=
  ⟨forall_mem_concat laid.inside inside, forall_mem_concat laid.settled settled⟩

theorem Check.Settled.of_toDo (toDo : c.state.toDo) : c.Settled := by
  constructor <;> intro state <;> rw [state] at toDo <;> cases toDo

/-- No slot is nominated, and the ways of `ws` are backed. -/
structure Holding (way : Check → Nat × Nat) (ws : Nat × Nat → Prop) (clist : Checklist) : Prop where
  unmarked : clist.Slots (·.nominated = false)
  backed : ∀ w, ws w → clist.Roomy ∧ Backed way w clist.checks

section Add

variable {n : Nat} {way : Check → Nat × Nat} {w : Nat × Nat} {ws : Nat × Nat → Prop}
  {clist : Checklist}

theorem sort_backed (settled : ∀ c ∈ clist.checks, c.Settled) (proven : Proven way w clist.checks) :
    Backed way w clist.sort.checks := by
  have proven' : Proven way w clist.sort.checks :=
    proven.subset fun c mem _ => clist.sort_perm.mem_iff.2 mem
  refine ⟨Led.of_ordered (sort_succeeded clist.checks) ?_ proven', proven'⟩
  exact fun c mem => settled c (clist.sort_perm.mem_iff.1 mem)

theorem Proven.eraseIdx {checks : List Check} (proven : Proven way w checks) {k : Nat}
    (other : ∀ c, checks[k]? = some c → c.state ≠ .succeeded) :
    Proven way w (checks.eraseIdx k) := by
  refine proven.subset fun c mem state => ?_
  obtain ⟨j, at_⟩ := List.mem_iff_getElem?.1 mem
  refine List.mem_eraseIdx_iff_getElem?.2 ⟨j, fun same => ?_, at_⟩
  exact other c (same ▸ at_) state

variable {i j : Nat}

theorem remove_checks (inside : i < clist.checks.length) :
    (clist.remove i).checks = clist.checks.eraseIdx i := by
  rw [Checklist.remove, dif_pos inside]

theorem remove_roomy (inside : i < clist.checks.length) : (clist.remove i).Roomy := by
  have size := clist.size
  refine .inl ?_
  rw [remove_checks inside, List.length_eraseIdx_of_lt inside]
  omega

theorem last_idle {checks : List Check}
    (ordered : checks.Pairwise fun a b => b.state = .succeeded → a.state = .succeeded)
    (other : ∃ c ∈ checks, c.state ≠ .succeeded) {c : Check}
    (last : checks[checks.length - 1]? = some c) : c.state ≠ .succeeded := by
  intro state
  obtain ⟨d, mem, idle⟩ := other
  obtain ⟨j, inside, rfl⟩ := List.mem_iff_getElem.1 mem
  obtain ⟨inside', rfl⟩ := List.getElem?_eq_some_iff.1 last
  by_cases before : j < checks.length - 1
  · exact idle (List.pairwise_iff_getElem.1 ordered j _ inside inside' before state)
  · have same : j = checks.length - 1 := by omega
    subst same
    exact idle state

theorem Holding.discard (holding : Holding way ws clist) (settled : ∀ c ∈ clist.checks, c.Settled)
    (full : maxChecks ≤ clist.checks.length) (prio : Nat) :
    Holding way ws (clist.discard prio).1 := by
  have other : ∀ w, ws w → ∃ c ∈ clist.checks, c.state ≠ .succeeded :=
    fun w mem => (holding.backed w mem).1.resolve_left (Nat.not_lt.2 full)
  have unmarked := holding.unmarked.discard prio
  rw [Checklist.discard] at unmarked ⊢
  split
  · next k found =>
    obtain ⟨inside, failed, _⟩ := List.findIdx?_eq_some_iff_getElem.1 found
    rw [found] at unmarked
    have failed := of_decide_eq_true failed
    have at_ := List.getElem?_eq_getElem inside
    refine ⟨unmarked, fun w mem => ⟨remove_roomy inside, ?_⟩⟩
    obtain ⟨_, led, proven⟩ := holding.backed w mem
    rw [remove_checks inside]
    refine ⟨led.eraseIdx at_ ((settled _ (List.getElem_mem inside)).failed failed),
      proven.eraseIdx fun c there state => ?_⟩
    rw [at_] at there
    cases there
    rw [failed] at state
    cases state
  · next unmarked' =>
    rw [unmarked'] at unmarked
    dsimp only at unmarked ⊢
    have ordered : clist.sort.checks.Pairwise fun a b =>
        b.state = .succeeded → a.state = .succeeded := sort_succeeded clist.checks
    have settled' : ∀ c ∈ clist.sort.checks, c.Settled :=
      fun c mem => settled c (clist.sort_perm.mem_iff.1 mem)
    have other' : ∀ w, ws w → ∃ c ∈ clist.sort.checks, c.state ≠ .succeeded := by
      intro w mem
      obtain ⟨c, there, idle⟩ := other w mem
      exact ⟨c, clist.sort_perm.mem_iff.2 there, idle⟩
    have backed : ∀ w, ws w → Backed way w clist.sort.checks := fun w mem =>
      sort_backed settled (holding.backed w mem).2.proven
    split
    · next lower =>
      rw [if_pos lower] at unmarked
      refine ⟨unmarked, fun w mem => ?_⟩
      have last : clist.sort.checks.length - 1 < clist.sort.checks.length := by
        obtain ⟨c, there, _⟩ := other' w mem
        have := List.length_pos_of_mem there
        omega
      refine ⟨remove_roomy last, ?_⟩
      rw [remove_checks last]
      have proven := (backed w mem).proven.eraseIdx fun c => last_idle ordered (other' w mem) (c := c)
      refine ⟨Led.of_ordered (ordered.sublist (List.eraseIdx_sublist _ _)) ?_ proven, proven⟩
      exact fun c mem => settled' c (List.mem_of_mem_eraseIdx mem)
    · next kept =>
      rw [if_neg kept] at unmarked
      exact ⟨unmarked, fun w mem => ⟨.inr (other' w mem), backed w mem⟩⟩

theorem discard_laid (laid : Laid n clist.checks) (prio : Nat) :
    Laid n (clist.discard prio).1.checks :=
  laid.subset (clist.discard_subperm prio).subset

theorem fillPair_laid {ice : IceSess} (laid : Laid n clist.checks) (inside : i < n) :
    Laid n (ice.fillPair clist i j).1.checks := by
  rcases fillPair_cases ice clist i j with ⟨_, same⟩ | ⟨_, old, c, filled, _, added⟩
  · rw [same]
    exact laid
  · rw [added]
    exact laid.append (filled.lcand ▸ inside) (.of_toDo filled.toDo)

theorem fillPair_unmarked (ice : IceSess) (i j : Nat)
    (unmarked : clist.Slots (·.nominated = false)) :
    (ice.fillPair clist i j).1.Slots (·.nominated = false) := by
  rw [IceSess.fillPair]
  split
  · exact unmarked
  · next old rest stale =>
    have first : old.nominated = false :=
      unmarked old (List.mem_append_right _ (stale ▸ List.mem_cons_self))
    have others : ∀ c ∈ rest, c.nominated = false := fun c mem =>
      unmarked c (List.mem_append_right _ (stale ▸ List.mem_cons_of_mem old mem))
    have listed : ∀ c ∈ clist.checks, c.nominated = false := fun c mem =>
      unmarked c (List.mem_append_left _ mem)
    dsimp only
    split
    · intro c mem
      rcases List.mem_append.1 mem with here | here
      · exact listed c here
      · rcases List.mem_cons.1 here with rfl | here
        · exact first
        · exact others c here
    · intro c mem
      rcases List.mem_append.1 mem with here | here
      · rcases List.mem_append.1 here with here | here
        · exact listed c here
        · rw [List.mem_singleton.1 here]
          split <;> exact first
      · exact others c here

theorem Holding.fillPair {ice : IceSess} (holding : Holding way ws clist) :
    Holding way ws (ice.fillPair clist i j).1 := by
  have unmarked := fillPair_unmarked ice i j holding.unmarked
  rcases fillPair_cases ice clist i j with ⟨_, same⟩ | ⟨_, old, c, filled, _, added⟩
  · refine ⟨unmarked, ?_⟩
    rw [Checklist.Roomy, same]
    exact holding.backed
  · refine ⟨unmarked, fun w mem => ⟨.inr ⟨c, ?_, fun state => ?_⟩, ?_⟩⟩
    · rw [added]
      exact List.mem_append_right _ (List.mem_singleton_self c)
    · have toDo := filled.toDo
      rw [state] at toDo
      cases toDo
    · obtain ⟨_, led, proven⟩ := holding.backed w mem
      rw [added]
      exact ⟨led.append proven [c], proven.subset fun d there _ => List.mem_append_left _ there⟩

theorem addPair_keeps {P : Checklist → Prop} {ice : IceSess} {acc : Checklist × Nat}
    (before : P acc.1)
    (discard : ∀ prio, maxChecks ≤ acc.1.checks.length → P (acc.1.discard prio).1)
    (fill : ∀ clist, P clist → P (ice.fillPair clist i j).1) : P (ice.addPair acc i j).1 := by
  rw [IceSess.addPair]
  dsimp only
  have room : P (if acc.1.checks.length ≥ maxChecks then
        acc.1.discard (calcCheckPrio ice.role (ice.lcand i) (ice.rcand j))
      else (acc.1, true)).1 := by
    split
    · next full => exact discard _ full
    · exact before
  generalize (if acc.1.checks.length ≥ maxChecks then
      acc.1.discard (calcCheckPrio ice.role (ice.lcand i) (ice.rcand j))
    else (acc.1, true)) = made at room ⊢
  split
  · exact room
  split
  · exact room
  · exact fill _ room

/-- The checks stay in order while pairs are added, and what is backed stays so. -/
theorem addPairs_holding (ice : IceSess) (way : Check → Nat × Nat) (ws : Nat × Nat → Prop)
    (pairs : List (Nat × Nat)) (acc : Checklist × Nat)
    (inside : ∀ pair ∈ pairs, pair.1 < n) (laid : Laid n acc.1.checks) :
    Laid n (pairs.foldl (fun acc pair => ice.addPair acc pair.1 pair.2) acc).1.checks
      ∧ (Holding way ws acc.1 →
        Holding way ws (pairs.foldl (fun acc pair => ice.addPair acc pair.1 pair.2) acc).1) := by
  induction pairs generalizing acc with
  | nil => exact ⟨laid, id⟩
  | cons pair rest ih =>
    have added : Laid n (ice.addPair acc pair.1 pair.2).1.checks
        ∧ (Holding way ws acc.1 → Holding way ws (ice.addPair acc pair.1 pair.2).1) := by
      refine addPair_keeps (P := fun clist => Laid n clist.checks
        ∧ (Holding way ws acc.1 → Holding way ws clist)) ⟨laid, id⟩ ?_ ?_
      · intro prio full
        exact ⟨discard_laid laid prio, fun holding => holding.discard laid.settled full prio⟩
      · intro clist kept
        refine ⟨fillPair_laid kept.1 (inside pair List.mem_cons_self), fun holding => ?_⟩
        exact (kept.2 holding).fillPair
    obtain ⟨laid', holding'⟩ := ih _ (fun p mem => inside p (List.mem_cons_of_mem pair mem)) added.1
    exact ⟨laid', holding' ∘ added.2⟩

end Add

/-! ## Sorting and pruning what was added -/

/-- The base of a reflexive candidate has the transport of the candidate. -/
def Based (lcands : List Cand) : Prop :=
  ∀ c ∈ lcands, c.reflexive = true → ∀ host ∈ findBase lcands c,
    (lcands.getD host {}).transportId = c.transportId

section Prune

variable {lcands : List Cand} {clist : Checklist}

theorem Laid.rebased {checks checks' : List Check} (laid : Laid lcands.length checks)
    (rebased : List.Forall₂ (Rebased lcands) checks checks') : Laid lcands.length checks' := by
  constructor <;> intro c' mem <;> obtain ⟨c, there, become⟩ := forall₂_origin rebased mem
  · rcases become.lcand with same | ⟨_, found⟩
    · rw [same]
      exact laid.inside c there
    · exact (findBase_host lcands found).1
  · rw [become.same]
    exact ⟨(laid.settled c there).succeeded, (laid.settled c there).failed⟩

theorem Rebased.way {c c' : Check} (rebased : Rebased lcands c c') (based : Based lcands)
    (inside : c.lcand < lcands.length) :
    ((lcands.getD c'.lcand {}).transportId, c'.rcand)
      = ((lcands.getD c.lcand {}).transportId, c.rcand) := by
  have rcand : c'.rcand = c.rcand := by
    rw [rebased.same]
  rw [rcand]
  rcases rebased.lcand with same | ⟨reflexive, found⟩
  · rw [same]
  · rw [based _ ?_ reflexive _ found]
    rw [List.getD_eq_getElem _ _ inside]
    exact List.getElem_mem inside

theorem prune_sublist (lcands : List Cand) (clist : Checklist) :
    (clist.prune lcands).1.checks.Sublist (replaceBases lcands clist.checks).1 := by
  rw [Checklist.prune]
  split
  · exact (prune_settled lcands _ (Nat.le_refl _)).1
  · exact List.Sublist.refl _

theorem prune_laid (laid : Laid lcands.length clist.checks) :
    Laid lcands.length (clist.prune lcands).1.checks :=
  (laid.rebased (replaceBases_rebased lcands clist.checks)).subset (prune_sublist lcands clist).subset

theorem prune_unmarked (unmarked : clist.Slots (·.nominated = false)) :
    (clist.prune lcands).1.Slots (·.nominated = false) := by
  have replaced : (clist.setChecks (replaceBases lcands clist.checks).1
      (Checklist.replaceBases_length lcands clist.checks)).Slots (·.nominated = false) := by
    intro c' mem
    rcases List.mem_append.1 mem with listed | stale
    · obtain ⟨c, there, rebased⟩ := forall₂_origin (replaceBases_rebased lcands _) listed
      rw [rebased.same]
      exact unmarked c (List.mem_append_left _ there)
    · exact unmarked c' (List.mem_append_right _ stale)
  rw [Checklist.prune]
  split
  · exact replaced.prunes lcands _
  · exact replaced

theorem prune_backed {way : Check → Nat × Nat} {w : Nat × Nat}
    (same : ∀ c c', c ∈ clist.checks → Rebased lcands c c' → way c' = way c)
    (ordered : clist.checks.Pairwise fun a b => b.state = .succeeded → a.state = .succeeded)
    (settled : ∀ c ∈ clist.checks, c.Settled) (proven : Proven way w clist.checks) :
    Backed way w (clist.prune lcands).1.checks := by
  have rebased := replaceBases_rebased lcands clist.checks
  have kept : List.Forall₂ (fun c c' => c ∈ clist.checks ∧ Rebased lcands c c') clist.checks
      (replaceBases lcands clist.checks).1 :=
    (List.forall₂_and_left (p := (· ∈ clist.checks)) _ _).2 ⟨fun _ mem => mem, rebased⟩
  have states : ((replaceBases lcands clist.checks).1.map Check.state).Pairwise fun a b =>
      b = .succeeded → a = .succeeded := by
    rw [forall₂_map_eq rebased fun _ _ become => by rw [become.same]]
    exact List.pairwise_map.2 ordered
  have settled' : ∀ c ∈ (replaceBases lcands clist.checks).1, c.Settled := by
    intro c' mem
    obtain ⟨c, there, become⟩ := forall₂_origin rebased mem
    rw [become.same]
    exact ⟨(settled c there).succeeded, (settled c there).failed⟩
  have proven' : Proven way w (replaceBases lcands clist.checks).1 := by
    refine proven.forall₂ (kept.imp fun c c' become => ⟨same c c' become.1 become.2, ?_⟩)
    rw [become.2.same]
    exact id
  have sub := prune_sublist lcands clist
  have pruned : Proven way w (clist.prune lcands).1.checks := by
    refine proven'.subset fun c mem state => (prune_thinned lcands clist).performed mem ?_
    rw [state]
    rfl
  refine ⟨Led.of_ordered ((List.pairwise_map.1 states).sublist sub) ?_ pruned, pruned⟩
  exact fun c mem => settled' c (sub.subset mem)

end Prune

end Pjsip.Pjnath.Ice
