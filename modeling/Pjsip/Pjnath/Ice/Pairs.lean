import Pjsip.Base.Entrywise
import Pjsip.Pjnath.Ice.Session

/-!
# The pairs of the check list

No two checks of the list are for the same pair, and a check in progress has the transaction of the
request that was sent last for its pair. While pairs are added this is only so of the checks that
have been performed: sorting puts them first, and pruning then removes what is for a pair that is
checked higher up.
-/

namespace Pjsip.Pjnath.Ice

open Pjsip.Base

/-- What is kept of the checks of the list between the steps of a session. -/
structure Sound (lcands : List Cand) (sent : List Request) (checks : List Check) : Prop where
  distinct : checks.Pairwise fun a b => a.pair ≠ b.pair
  inside : ∀ c ∈ checks, c.lcand < lcands.length
  based : ∀ c ∈ checks, (lcands.getD c.lcand {}).reflexive = false
  progress : ∀ c ∈ checks, c.state = .inProgress →
    ∃ r, sent.find? (·.pair = c.pair) = some r ∧ c.tdata = some r.tdata

variable {c : Check}

section Sound

variable {lcands : List Cand} {sent : List Request} {checks checks' : List Check}

theorem Sound.nil : Sound lcands sent [] :=
  ⟨.nil, List.forall_mem_nil _, List.forall_mem_nil _, List.forall_mem_nil _⟩

theorem Sound.perm (sound : Sound lcands sent checks) (perm : checks'.Perm checks) :
    Sound lcands sent checks' where
  distinct := (perm.pairwise_iff fun differ => differ.symm).2 sound.distinct
  inside := fun c mem => sound.inside c (perm.mem_iff.1 mem)
  based := fun c mem => sound.based c (perm.mem_iff.1 mem)
  progress := fun c mem => sound.progress c (perm.mem_iff.1 mem)

theorem Sound.sublist (sound : Sound lcands sent checks) (sub : checks'.Sublist checks) :
    Sound lcands sent checks' where
  distinct := sound.distinct.sublist sub
  inside := fun c mem => sound.inside c (sub.subset mem)
  based := fun c mem => sound.based c (sub.subset mem)
  progress := fun c mem => sound.progress c (sub.subset mem)

/-- A check that stays for its pair and is not put in progress. -/
structure Calm (c c' : Check) : Prop where
  lcand : c'.lcand = c.lcand
  rcand : c'.rcand = c.rcand
  progress : c'.state = .inProgress → c.state = .inProgress ∧ c'.tdata = c.tdata

theorem Calm.pair {c c' : Check} (calm : Calm c c') : c'.pair = c.pair := by
  rw [Check.pair, Check.pair, calm.lcand, calm.rcand]

theorem Calm.refl (c : Check) : Calm c c := ⟨rfl, rfl, fun at_ => ⟨at_, rfl⟩⟩

theorem Calm.trans {a b c : Check} (first : Calm a b) (second : Calm b c) : Calm a c where
  lcand := second.lcand.trans first.lcand
  rcand := second.rcand.trans first.rcand
  progress := by
    intro at_
    obtain ⟨mid, same⟩ := second.progress at_
    obtain ⟨start, same'⟩ := first.progress mid
    exact ⟨start, same.trans same'⟩

theorem Sound.again {sent' : List Request} (sound : Sound lcands sent checks)
    (same : List.Forall₂ (fun c c' => c'.lcand = c.lcand ∧ c'.rcand = c.rcand) checks checks')
    (progress : ∀ c' ∈ checks', c'.state = .inProgress →
      ∃ r, sent'.find? (·.pair = c'.pair) = some r ∧ c'.tdata = some r.tdata) :
    Sound lcands sent' checks' := by
  have pairs : checks'.map Check.pair = checks.map Check.pair :=
    forall₂_map_eq same fun _ _ kept => Prod.ext kept.1 kept.2
  refine ⟨?_, ?_, ?_, progress⟩
  · have distinct := sound.distinct
    rw [← List.pairwise_map (R := (· ≠ ·)), ← pairs] at distinct
    exact List.pairwise_map.1 distinct
  · intro c' mem
    obtain ⟨c, mem, same⟩ := forall₂_origin same mem
    rw [same.1]
    exact sound.inside c mem
  · intro c' mem
    obtain ⟨c, mem, same⟩ := forall₂_origin same mem
    rw [same.1]
    exact sound.based c mem

theorem Sound.calm (sound : Sound lcands sent checks) (calm : List.Forall₂ Calm checks checks') :
    Sound lcands sent checks' := by
  refine sound.again (calm.imp fun _ _ same => ⟨same.lcand, same.rcand⟩) ?_
  intro c' mem at_
  obtain ⟨c, mem, same⟩ := forall₂_origin calm mem
  obtain ⟨at', tdata⟩ := same.progress at_
  rw [same.pair, tdata]
  exact sound.progress c mem at'

theorem calm_modify {f : Check → Check} {i : Nat} (calm : ∀ c, checks[i]? = some c → Calm c (f c)) :
    List.Forall₂ Calm checks (checks.modify i f) := by
  have same : ∀ l : List Check, List.Forall₂ Calm l l :=
    fun l => List.forall₂_same.2 fun c _ => Calm.refl c
  induction checks generalizing i with
  | nil =>
    rw [List.modify_nil]
    exact .nil
  | cons c rest ih =>
    cases i with
    | zero =>
      exact .cons (calm c rfl) (same rest)
    | succ i =>
      exact .cons (Calm.refl c) (ih fun c' at_ => calm c' at_)

theorem Sound.one (sound : Sound lcands sent checks) {i j : Nat} {a b : Check}
    (at_ : checks[i]? = some a) (at' : checks[j]? = some b) (same : a.pair = b.pair) : i = j := by
  obtain ⟨inside, rfl⟩ := List.getElem?_eq_some_iff.1 at_
  obtain ⟨inside', rfl⟩ := List.getElem?_eq_some_iff.1 at'
  have differ := List.pairwise_iff_getElem.1 sound.distinct
  rcases Nat.lt_trichotomy i j with before | equal | behind
  · exact absurd same (differ i j inside inside' before)
  · exact equal
  · exact absurd same.symm (differ j i inside' inside behind)

theorem Sound.send (sound : Sound lcands sent checks) {i : Nat} {r : Request}
    {f : Check → Check} (at_ : checks[i]? = some c) (pair : r.pair = c.pair)
    (same : ∀ c, (f c).lcand = c.lcand ∧ (f c).rcand = c.rcand)
    (tdata : (f c).tdata = some r.tdata) : Sound lcands (r :: sent) (checks.modify i f) := by
  have pairs : ∀ c, (f c).pair = c.pair := by
    intro c
    rw [Check.pair, (same c).1, (same c).2, Check.pair]
  refine sound.again ?_ ?_
  · rw [List.forall₂_iff_get]
    refine ⟨(List.length_modify f checks i).symm, ?_⟩
    intro j inside inside'
    rw [List.get_eq_getElem, List.get_eq_getElem, List.getElem_modify]
    split
    · exact same _
    · exact ⟨rfl, rfl⟩
  · intro c' mem progress
    obtain ⟨j, at'⟩ := List.mem_iff_getElem?.1 mem
    rw [List.getElem?_modify, Option.map_eq_map, Option.map_eq_some_iff] at at'
    obtain ⟨d, there, rfl⟩ := at'
    by_cases own : i = j
    · subst own
      rw [at_] at there
      cases there
      rw [if_pos rfl]
      refine ⟨r, ?_, tdata⟩
      rw [List.find?_cons_of_pos (by simp [pair, pairs])]
    · rw [if_neg own] at progress ⊢
      have differ : r.pair ≠ d.pair := by
        intro equal
        rw [pair] at equal
        exact own (sound.one at_ there equal)
      rw [List.find?_cons_of_neg (by simp [differ])]
      exact sound.progress d (List.mem_of_getElem? there) progress

theorem Sound.grow (sound : Sound lcands sent checks) (more : List Cand) :
    Sound (lcands ++ more) sent checks where
  distinct := sound.distinct
  inside := by
    intro c mem
    rw [List.length_append]
    exact Nat.lt_of_lt_of_le (sound.inside c mem) (Nat.le_add_right _ _)
  based := by
    intro c mem
    rw [List.getD_append _ _ _ _ (sound.inside c mem)]
    exact sound.based c mem
  progress := sound.progress

end Sound

/-! ## Sorting -/

/-- The order of the states. -/
def CheckState.rank : CheckState → Nat
  | .frozen => 0
  | .waiting => 1
  | .inProgress => 2
  | .failed => 3
  | .succeeded => 4

theorem higherCheck_iff (a b : Check) : higherCheck a b = true
      ↔ b.state.rank < a.state.rank ∨ a.state.rank = b.state.rank ∧ b.prio < a.prio := by
  unfold higherCheck cmpCheckState
  cases a.state <;> cases b.state <;> simp [CheckState.rank, CheckState.value]

theorem sort_sorted (checks : List Check) :
    (selectionSort higherCheck checks).1.Pairwise fun a b => higherCheck b a = false := by
  refine selectionSort_sorted higherCheck ?_ ?_ checks
  · intro a b above
    rw [higherCheck_iff] at above
    rw [← Bool.not_eq_true, higherCheck_iff]
    omega
  · intro a b c notAbove notAbove'
    rw [← Bool.not_eq_true, higherCheck_iff] at notAbove notAbove' ⊢
    omega

theorem sort_ordered (checks : List Check) :
    (selectionSort higherCheck checks).1.Pairwise fun a b => a.state.toDo → b.state.toDo := by
  refine (sort_sorted checks).imp ?_
  intro a b notAbove toDo
  rw [← Bool.not_eq_true, higherCheck_iff] at notAbove
  cases state : b.state with
  | frozen => rfl
  | waiting => rfl
  | _ => cases state' : a.state <;> simp_all [CheckState.rank, CheckState.toDo]

/-! ## While pairs are added -/

/-- The checks that have been performed are as they were. -/
structure Pairing (lcands : List Cand) (sent : List Request) (checks : List Check) : Prop where
  performed : Sound lcands sent (checks.filter fun c => !c.state.toDo)
  inside : ∀ c ∈ checks, c.lcand < lcands.length

section Pairing

variable {lcands : List Cand} {sent : List Request} {checks checks' : List Check}

theorem Sound.pairing (sound : Sound lcands sent checks) : Pairing lcands sent checks :=
  ⟨sound.sublist List.filter_sublist, sound.inside⟩

theorem Pairing.perm (pairing : Pairing lcands sent checks) (perm : checks'.Perm checks) :
    Pairing lcands sent checks' :=
  ⟨pairing.performed.perm (perm.filter _), fun c mem => pairing.inside c (perm.mem_iff.1 mem)⟩

theorem Pairing.sublist (pairing : Pairing lcands sent checks) (sub : checks'.Sublist checks) :
    Pairing lcands sent checks' :=
  ⟨pairing.performed.sublist (sub.filter _), fun c mem => pairing.inside c (sub.subset mem)⟩

theorem Pairing.add (pairing : Pairing lcands sent checks) (toDo : c.state.toDo)
    (inside : c.lcand < lcands.length) : Pairing lcands sent (checks ++ [c]) := by
  refine ⟨?_, forall_mem_concat pairing.inside inside⟩
  rw [List.filter_append, List.filter_cons_of_neg (by simp [toDo]), List.filter_nil,
    List.append_nil]
  exact pairing.performed

end Pairing

/-! ## Pruning -/

variable {clist : Checklist}

section Prune

variable (lcands : List Cand)

theorem findBase_host {srflx : Cand} {host : Nat} (found : findBase lcands srflx = some host) :
    host < lcands.length ∧ (lcands.getD host {}).reflexive = false := by
  obtain ⟨inside, type⟩ := List.findIdx?_eq_some_iff_getElem.1 found
  refine ⟨inside, ?_⟩
  simp only [Bool.and_eq_true, decide_eq_true_eq] at type
  rw [List.getD_eq_getElem _ _ inside, Cand.reflexive, type.1.1]
  rfl

/-- What a check becomes when its candidate is replaced. -/
structure Replaced (c c' : Check) : Prop where
  state : c'.state = c.state
  tdata : c'.tdata = c.tdata
  rcand : c'.rcand = c.rcand
  based : (lcands.getD c'.lcand {}).reflexive = false
  lcand : c'.lcand < lcands.length ∨ c'.lcand = c.lcand
  kept : (lcands.getD c.lcand {}).reflexive = false → c' = c

theorem replaceBases_ok {checks : List Check}
    (bases : ∀ c ∈ checks, (lcands.getD c.lcand {}).reflexive = true →
      findBase lcands (lcands.getD c.lcand {}) ≠ none) : (replaceBases lcands checks).2 = true := by
  induction checks with
  | nil => rfl
  | cons c rest ih =>
    have ok := ih fun a mem => bases a (List.mem_cons_of_mem c mem)
    rw [replaceBases]
    split
    · next reflexive =>
      split
      · exact ok
      · next unbased => exact absurd unbased (bases c List.mem_cons_self reflexive)
    · exact ok

theorem replaceBases_replaced {checks : List Check} (ok : (replaceBases lcands checks).2 = true) :
    List.Forall₂ (Replaced lcands) checks (replaceBases lcands checks).1 := by
  induction checks with
  | nil => exact .nil
  | cons check rest ih =>
    rw [replaceBases] at ok ⊢
    cases reflexive : (lcands.getD check.lcand {}).reflexive with
    | false =>
      rw [reflexive, if_neg Bool.false_ne_true] at ok
      rw [if_neg Bool.false_ne_true]
      exact .cons ⟨rfl, rfl, rfl, reflexive, .inr rfl, fun _ => rfl⟩ (ih ok)
    | true =>
      rw [reflexive, if_pos rfl] at ok
      rw [if_pos rfl]
      cases found : findBase lcands (lcands.getD check.lcand {}) with
      | none =>
        rw [found] at ok
        cases ok
      | some host =>
        rw [found] at ok
        obtain ⟨inside, based⟩ := findBase_host lcands found
        refine .cons ⟨rfl, rfl, rfl, based, .inl inside, ?_⟩ (ih ok)
        intro other
        rw [reflexive] at other
        cases other

theorem pruneRest_eq (ci : Check) (checks stale : List Check) :
    (pruneRest lcands ci checks stale).1 = checks.filter fun cj => !prunedBy lcands ci cj := by
  induction checks generalizing stale with
  | nil => rfl
  | cons cj rest ih =>
    rw [pruneRest]
    cases pruned : prunedBy lcands ci cj with
    | true =>
      rw [if_pos rfl, ih, List.filter_cons_of_neg (by simp [pruned])]
    | false =>
      rw [if_neg Bool.false_ne_true, List.filter_cons_of_pos (by simp [pruned])]
      exact congrArg (cj :: ·) (ih stale)

section Thinned

/-- The two are to the same remote candidate, from the same base. -/
def Check.Alike (a c : Check) : Prop :=
  a.rcand = c.rcand ∧ (lcands.getD a.lcand {}).baseAddr = (lcands.getD c.lcand {}).baseAddr

/-- Behind the checks of `kept`, of `l` those of `l'` are left: whatever goes has not been
performed, and it is like one that is left before it. -/
inductive Thinned : List Check → List Check → List Check → Prop
  | nil {kept} : Thinned kept [] []
  | keep {kept c l l'} : Thinned (c :: kept) l l' → Thinned kept (c :: l) (c :: l')
  | drop {kept a c l l'} : c.state.toDo = true → a ∈ kept → a.Alike lcands c →
      Thinned kept l l' → Thinned kept (c :: l) l'

variable {lcands}

theorem prunedBy_iff (a c : Check) :
    prunedBy lcands a c = true ↔ c.state.toDo = true ∧ a.Alike lcands c := by
  rw [prunedBy, Check.Alike, Bool.and_eq_true, Bool.or_eq_true]
  simp only [Bool.and_eq_true, decide_eq_true_eq]
  refine and_congr_right fun _ => ⟨?_, fun alike => .inr ⟨alike.1.symm, alike.2.symm⟩⟩
  rintro (⟨lcand, rcand⟩ | ⟨rcand, base⟩)
  · exact ⟨rcand, by rw [lcand]⟩
  · exact ⟨rcand.symm, base.symm⟩

namespace Thinned

variable {kept kept' l l' : List Check}

theorem refl (kept l : List Check) : Thinned lcands kept l l := by
  induction l generalizing kept with
  | nil => exact .nil
  | cons c rest ih => exact .keep (ih (c :: kept))

theorem cover (thin : Thinned lcands kept l l')
    (covers : ∀ a ∈ kept, ∃ a' ∈ kept', a'.Alike lcands a) : Thinned lcands kept' l l' := by
  induction thin generalizing kept' with
  | nil => exact .nil
  | @keep kept c l l' _ ih =>
    refine .keep (ih ?_)
    intro a mem
    rcases List.mem_cons.1 mem with rfl | old
    · exact ⟨a, List.mem_cons_self, rfl, rfl⟩
    · obtain ⟨a', mem', alike⟩ := covers a old
      exact ⟨a', List.mem_cons_of_mem c mem', alike⟩
  | drop toDo mem alike _ ih =>
    obtain ⟨a', mem', alike'⟩ := covers _ mem
    exact .drop toDo mem' ⟨alike'.1.trans alike.1, alike'.2.trans alike.2⟩ (ih covers)

theorem performed (thin : Thinned lcands kept l l') (mem : c ∈ l)
    (performed : c.state.toDo = false) : c ∈ l' := by
  induction thin with
  | nil => exact mem
  | keep _ ih =>
    rcases List.mem_cons.1 mem with rfl | mem
    · exact List.mem_cons_self
    · exact List.mem_cons_of_mem _ (ih mem)
  | drop toDo _ _ _ ih =>
    rcases List.mem_cons.1 mem with rfl | mem
    · rw [performed] at toDo
      cases toDo
    · exact ih mem

theorem filter (mem : c ∈ kept) (thin : Thinned lcands kept l l') :
    Thinned lcands kept l (l'.filter fun cj => !prunedBy lcands c cj) := by
  induction thin with
  | nil => exact .nil
  | @keep kept b l l' _ ih =>
    have rest := ih (List.mem_cons_of_mem b mem)
    cases pruned : prunedBy lcands c b with
    | false =>
      rw [List.filter_cons_of_pos (by simp [pruned])]
      exact .keep rest
    | true =>
      rw [List.filter_cons_of_neg (by simp [pruned])]
      obtain ⟨toDo, alike⟩ := (prunedBy_iff c b).1 pruned
      refine .drop toDo mem alike (rest.cover ?_)
      -- what went because of `b` is like `c`, too
      intro a mem'
      rcases List.mem_cons.1 mem' with rfl | old
      · exact ⟨c, mem, alike⟩
      · exact ⟨a, old, rfl, rfl⟩
  | drop toDo there alike _ ih => exact .drop toDo there alike (ih mem)

theorem round {done rest : List Check} (thin : Thinned lcands kept l (done ++ c :: rest)) :
    Thinned lcands kept l (done ++ c :: rest.filter fun cj => !prunedBy lcands c cj) := by
  generalize left : done ++ c :: rest = l' at thin
  induction thin generalizing done with
  | nil => cases done <;> cases left
  | keep thin ih =>
    cases done with
    | nil =>
      cases left
      exact .keep (thin.filter List.mem_cons_self)
    | cons d done =>
      cases left
      exact .keep (ih rfl)
  | drop toDo there alike _ ih => exact .drop toDo there alike (ih left)

theorem pruneAt (thin : Thinned lcands kept l clist.checks) (i : Nat) :
    Thinned lcands kept l (clist.pruneAt lcands i).checks := by
  rw [Checklist.pruneAt]
  split
  · next inside =>
    rw [← List.take_append_drop i clist.checks, List.drop_eq_getElem_cons inside] at thin
    simp only [pruneRest_eq, List.take_succ_eq_append_getElem inside, List.append_assoc,
      List.singleton_append]
    exact thin.round
  · exact thin

theorem prunes (thin : Thinned lcands kept l clist.checks) (places : List Nat) :
    Thinned lcands kept l (places.foldl (Checklist.pruneAt lcands) clist).checks := by
  induction places generalizing clist with
  | nil => exact thin
  | cons i rest ih => exact ih (thin.pruneAt i)

end Thinned

theorem prune_thinned (lcands : List Cand) (clist : Checklist) :
    Thinned lcands [] (replaceBases lcands clist.checks).1 (clist.prune lcands).1.checks := by
  have thin : Thinned lcands [] (replaceBases lcands clist.checks).1
    (clist.setChecks (replaceBases lcands clist.checks).1
      (Checklist.replaceBases_length lcands clist.checks)).checks := .refl [] _
  rw [Checklist.prune]
  split
  · exact thin.prunes _
  · exact thin

end Thinned

/-- After `m` rounds nothing is pruned by the first `m` checks. -/
structure PrunedTo (m : Nat) (checks₀ checks : List Check) : Prop where
  sublist : checks.Sublist checks₀
  settled : ∃ done rest, checks = done ++ rest ∧ (done.length = m ∨ done.length < m ∧ rest = [])
    ∧ done.Pairwise (fun a b => prunedBy lcands a b = false)
    ∧ ∀ a ∈ done, ∀ b ∈ rest, prunedBy lcands a b = false

theorem PrunedTo.round {lcands : List Cand} {m : Nat} {checks₀ : List Check}
    (pruned : PrunedTo lcands m checks₀ clist.checks) :
    PrunedTo lcands (m + 1) checks₀ (clist.pruneAt lcands m).checks := by
  obtain ⟨sublist, done, rest, split, reached, inner, across⟩ := pruned
  cases rest with
  | nil =>
    rw [List.append_nil] at split
    have outside : ¬ m < clist.checks.length := by
      rw [split]
      omega
    rw [Checklist.pruneAt, dif_neg outside]
    refine ⟨sublist, done, [], ?_, .inr ⟨by omega, rfl⟩, inner, fun _ _ => List.forall_mem_nil _⟩
    rw [split, List.append_nil]
  | cons c rest =>
    have at_ : done.length = m := by
      rcases reached with at_ | ⟨_, done'⟩
      · exact at_
      · nomatch done'
    subst at_
    have inside : done.length < clist.checks.length := by
      rw [split, List.length_append, List.length_cons]
      omega
    have here : clist.checks[done.length] = c := by simp [split]
    have split' : clist.checks = (done ++ [c]) ++ rest := by
      rw [split, List.append_assoc, List.singleton_append]
    have taken : clist.checks.take (done.length + 1) = done ++ [c] := by
      rw [split']
      exact List.take_left' (by simp)
    have left : clist.checks.drop (done.length + 1) = rest := by
      rw [split']
      exact List.drop_left' (by simp)
    rw [Checklist.pruneAt, dif_pos inside]
    simp only [here, taken, left, pruneRest_eq]
    refine ⟨?_, done ++ [c], rest.filter fun cj => !prunedBy lcands c cj, rfl, .inl (by simp),
      ?_, ?_⟩
    · refine List.Sublist.trans ?_ sublist
      rw [split, List.append_assoc]
      exact (List.filter_sublist.cons_cons c).append_left done
    · rw [List.pairwise_append]
      refine ⟨inner, List.pairwise_singleton _ _, ?_⟩
      intro a mem b mem'
      rw [List.mem_singleton.1 mem']
      exact across a mem c List.mem_cons_self
    · intro a mem b mem'
      obtain ⟨mem', kept⟩ := List.mem_filter.1 mem'
      rcases List.mem_append.1 mem with old | new
      · exact across a old b (List.mem_cons_of_mem c mem')
      · rw [List.mem_singleton.1 new]
        simpa using kept

theorem prune_settled (clist : Checklist) {n : Nat} (all : clist.checks.length ≤ n) :
    ((List.range n).foldl (Checklist.pruneAt lcands) clist).checks.Sublist clist.checks
      ∧ ((List.range n).foldl (Checklist.pruneAt lcands) clist).checks.Pairwise
          fun a b => prunedBy lcands a b = false := by
  have rounds : PrunedTo lcands n clist.checks
      ((List.range n).foldl (Checklist.pruneAt lcands) clist).checks := by
    clear all
    induction n with
    | zero => exact ⟨List.Sublist.refl _, [], clist.checks, rfl, .inl rfl, .nil, List.forall_mem_nil _⟩
    | succ n ih =>
      rw [List.range_succ, List.foldl_append]
      exact ih.round
  obtain ⟨sublist, done, rest, split, reached, inner, _⟩ := rounds
  refine ⟨sublist, ?_⟩
  have settled : rest = [] := by
    rcases reached with at_ | ⟨_, settled⟩
    · have := sublist.length_le
      rw [split, List.length_append] at this
      exact List.eq_nil_of_length_eq_zero (by omega)
    · exact settled
  rw [split, settled, List.append_nil]
  exact inner

end Prune

section Distinct

variable {lcands : List Cand} {sent : List Request} {checks : List Check}

theorem replaced_performed {checks' : List Check}
    (based : ∀ c ∈ checks.filter (fun c => !c.state.toDo),
      (lcands.getD c.lcand {}).reflexive = false)
    (replaced : List.Forall₂ (Replaced lcands) checks checks') :
    checks'.filter (fun c => !c.state.toDo) = checks.filter fun c => !c.state.toDo := by
  induction replaced with
  | nil => rfl
  | @cons c c' rest rest' become _ ih =>
    have state : c'.state.toDo = c.state.toDo := congrArg CheckState.toDo become.state
    cases toDo : c.state.toDo with
    | true =>
      rw [toDo] at state
      rw [List.filter_cons_of_neg (by simp [toDo])] at based
      rw [List.filter_cons_of_neg (by simp [state]), List.filter_cons_of_neg (by simp [toDo])]
      exact ih based
    | false =>
      rw [toDo] at state
      rw [List.filter_cons_of_pos (by simp [toDo])] at based
      rw [List.filter_cons_of_pos (by simp [state]), List.filter_cons_of_pos (by simp [toDo]),
        become.kept (based c List.mem_cons_self),
        ih fun a mem => based a (List.mem_cons_of_mem c mem)]

theorem Pairing.replaced {checks' : List Check} (pairing : Pairing lcands sent checks)
    (replaced : List.Forall₂ (Replaced lcands) checks checks') :
    Pairing lcands sent checks' ∧ ∀ c ∈ checks', (lcands.getD c.lcand {}).reflexive = false := by
  have same := replaced_performed pairing.performed.based replaced
  refine ⟨⟨same ▸ pairing.performed, ?_⟩, ?_⟩
  · intro c' mem
    obtain ⟨c, mem, become⟩ := forall₂_origin replaced mem
    rcases become.lcand with inside | old
    · exact inside
    · rw [old]
      exact pairing.inside c mem
  · intro c' mem
    obtain ⟨c, mem, become⟩ := forall₂_origin replaced mem
    exact become.based

theorem replaced_ordered {checks' : List Check}
    (replaced : List.Forall₂ (Replaced lcands) checks checks')
    (ordered : checks.Pairwise fun a b => a.state.toDo → b.state.toDo) :
    checks'.Pairwise fun a b => a.state.toDo → b.state.toDo := by
  rw [← List.pairwise_map (R := fun a b : CheckState => a.toDo → b.toDo),
    ← forall₂_map_eq replaced fun _ _ become => become.state] at ordered
  exact List.pairwise_map.1 ordered

theorem Pairing.prune (pairing : Pairing lcands sent clist.checks)
    (ok : (clist.sort.prune lcands).2 = .success) :
    Sound lcands sent (clist.sort.prune lcands).1.checks := by
  have ordered : clist.sort.checks.Pairwise fun a b => a.state.toDo → b.state.toDo :=
    sort_ordered clist.checks
  have sorted : Pairing lcands sent clist.sort.checks :=
    pairing.perm (selectionSort_perm higherCheck clist.checks)
  generalize clist.sort = clist at ok ordered sorted ⊢
  simp only [Checklist.prune] at ok ⊢
  split at ok
  · rename_i replacedAll
    rw [if_pos replacedAll]
    have replaced := replaceBases_replaced lcands replacedAll
    obtain ⟨pairing', based⟩ := sorted.replaced replaced
    have ordered' := replaced_ordered replaced ordered
    obtain ⟨sublist, settled⟩ := prune_settled lcands
      (clist.setChecks (replaceBases lcands clist.checks).1
        (Checklist.replaceBases_length lcands clist.checks)) (Nat.le_refl _)
    have left := pairing'.sublist sublist
    have performed := List.pairwise_filter.1 left.performed.distinct
    refine ⟨?_, left.inside, fun c mem => based c (sublist.subset mem), ?_⟩
    · refine ((performed.and settled).and (ordered'.sublist sublist)).imp ?_
      intro a b facts same
      obtain ⟨⟨distinct, notPruned⟩, order⟩ := facts
      cases toDo : b.state.toDo with
      | true =>
        have pairs : a.lcand = b.lcand ∧ a.rcand = b.rcand := Prod.mk.inj same
        simp [prunedBy, toDo, pairs.1, pairs.2] at notPruned
      | false =>
        have performed_ : a.state.toDo = false := by
          rw [← Bool.not_eq_true]
          intro toDo'
          rw [order toDo'] at toDo
          nomatch toDo
        exact distinct (by simp [performed_]) (by simp [toDo]) same
    · intro c mem at_
      apply left.performed.progress c
      · rw [List.mem_filter]
        exact ⟨mem, by simp [at_, CheckState.toDo]⟩
      · exact at_
  · nomatch ok

end Distinct

end Pjsip.Pjnath.Ice
