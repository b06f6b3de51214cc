import Mathlib.Data.List.Basic

/-!
# Selection sort in place

In each round the highest of what is not sorted yet changes places with the first of it. Of
several that are equally high the first is taken. The exchanges are told as well, for those
who point at the places.
-/

namespace Pjsip.Base

variable {α : Type*}

/-- The highest of `best` and a list whose places are counted from `j`, with its place if it is
in the list. -/
def findHighest (higher : α → α → Bool) : Nat → Option Nat × α → List α → Option Nat × α
  | _, best, [] => best
  | j, best, a :: rest =>
    findHighest higher (j + 1) (if higher a best.2 then (some j, a) else best) rest

/-- The rounds from place `i` on, `n` at most. -/
def sortRounds (higher : α → α → Bool) : Nat → Nat → List α → List α × List (Nat × Nat)
  | n + 1, i, a :: rest =>
    match findHighest higher 0 (none, a) rest with
    | (none, _) =>
      let sorted := sortRounds higher n (i + 1) rest
      (a :: sorted.1, sorted.2)
    | (some k, b) =>
      let sorted := sortRounds higher n (i + 1) (rest.set k a)
      (b :: sorted.1, (i, i + 1 + k) :: sorted.2)
  | _, _, l => (l, [])

/-- The sorted list, and the places that were exchanged. -/
def selectionSort (higher : α → α → Bool) (l : List α) : List α × List (Nat × Nat) :=
  sortRounds higher l.length 0 l

/-- Where what was at place `p` is after the exchanges. -/
def followExchanges (exchanges : List (Nat × Nat)) (p : Nat) : Nat :=
  exchanges.foldl (fun p places =>
    if p = places.2 then places.1 else if p = places.1 then places.2 else p) p

example : selectionSort (fun a b : Nat => a > b) [2, 5, 3] = ([5, 3, 2], [(0, 1), (1, 2)]) := by
  decide

section Sorted

variable (higher : α → α → Bool)

theorem findHighest_place (l : List α) (j : Nat) (best : Option Nat × α) :
    findHighest higher j best l = best
      ∨ ∃ k a, l[k]? = some a ∧ findHighest higher j best l = (some (j + k), a) := by
  induction l generalizing j best with
  | nil => exact .inl rfl
  | cons a rest ih =>
    show findHighest higher (j + 1) _ rest = best ∨ _
    rcases ih (j + 1) (if higher a best.2 then (some j, a) else best) with found | later
    · rw [findHighest, found]
      by_cases above : higher a best.2
      · rw [if_pos above]
        exact .inr ⟨0, a, rfl, rfl⟩
      · rw [if_neg above]
        exact .inl rfl
    · obtain ⟨k, b, at_, found⟩ := later
      refine .inr ⟨k + 1, b, at_, ?_⟩
      rw [findHighest, found, Nat.add_right_comm, Nat.add_assoc]

theorem perm_exchange {l : List α} {k : Nat} {b : α} (at_ : l[k]? = some b) (a : α) :
    (b :: l.set k a).Perm (a :: l) := by
  obtain ⟨inside, rfl⟩ := List.getElem?_eq_some_iff.1 at_
  rw [List.set_eq_take_append_cons_drop, if_pos inside]
  calc l[k] :: (l.take k ++ a :: l.drop (k + 1))
      _ |>.Perm (l[k] :: a :: (l.take k ++ l.drop (k + 1))) := List.perm_middle.cons _
      _ |>.Perm (a :: l[k] :: (l.take k ++ l.drop (k + 1))) := .swap _ _ _
      _ |>.Perm (a :: (l.take k ++ l[k] :: l.drop (k + 1))) := List.perm_middle.symm.cons _
      _ = a :: l := by rw [List.getElem_cons_drop, List.take_append_drop]

theorem sortRounds_perm (n i : Nat) (l : List α) : (sortRounds higher n i l).1.Perm l := by
  induction n generalizing i l with
  | zero => exact .refl l
  | succ n ih =>
    cases l with
    | nil => exact .refl []
    | cons a rest =>
      rcases findHighest_place higher rest 0 (none, a) with found | later
      · rw [sortRounds, found]
        exact (ih (i + 1) rest).cons a
      · obtain ⟨k, b, at_, found⟩ := later
        rw [sortRounds, found]
        simp only [Nat.zero_add]
        exact ((ih (i + 1) _).cons b).trans (perm_exchange at_ a)

theorem selectionSort_perm (l : List α) : (selectionSort higher l).1.Perm l :=
  sortRounds_perm higher _ _ l

/-- The exchanges from place `i` on leave what is before it. -/
theorem sortRounds_before (n i : Nat) (l : List α) {p : Nat} (before : p < i) :
    followExchanges (sortRounds higher n i l).2 p = p := by
  induction n generalizing i l with
  | zero => rfl
  | succ n ih =>
    cases l with
    | nil => rfl
    | cons a rest =>
      rcases findHighest_place higher rest 0 (none, a) with found | later
      · rw [sortRounds, found]
        exact ih (i + 1) rest (Nat.lt_succ_of_lt before)
      · obtain ⟨k, b, _, found⟩ := later
        rw [sortRounds, found]
        simp only [followExchanges, List.foldl_cons, Nat.zero_add]
        rw [if_neg (by omega), if_neg (by omega)]
        exact ih (i + 1) _ (Nat.lt_succ_of_lt before)

theorem sortRounds_follow (n i : Nat) (l : List α) (p : Nat) :
    ∃ q, followExchanges (sortRounds higher n i l).2 (i + p) = i + q
      ∧ (sortRounds higher n i l).1[q]? = l[p]? := by
  induction n generalizing i l p with
  | zero => exact ⟨p, rfl, rfl⟩
  | succ n ih =>
    cases l with
    | nil => exact ⟨p, rfl, rfl⟩
    | cons a rest =>
      rcases findHighest_place higher rest 0 (none, a) with found | later
      · rw [sortRounds, found]
        cases p with
        | zero => exact ⟨0, sortRounds_before higher n (i + 1) rest (Nat.lt_succ_self i), rfl⟩
        | succ p =>
          obtain ⟨q, follow, at_⟩ := ih (i + 1) rest p
          exact ⟨q + 1, by rw [Nat.add_comm p, ← Nat.add_assoc, follow]; omega, at_⟩
      · obtain ⟨k, b, at_, found⟩ := later
        obtain ⟨inside, here⟩ := List.getElem?_eq_some_iff.1 at_
        rw [sortRounds, found]
        simp only [followExchanges, List.foldl_cons, Nat.zero_add]
        -- what is first goes where the highest was, and the highest comes first
        by_cases highest : p = k + 1
        · subst highest
          rw [if_pos (by omega)]
          refine ⟨0, sortRounds_before higher n (i + 1) _ (Nat.lt_succ_self i), ?_⟩
          exact at_.symm
        · rw [if_neg (by omega)]
          cases p with
          | zero =>
            rw [if_pos (Nat.add_zero i)]
            obtain ⟨q, follow, at'⟩ := ih (i + 1) (rest.set k a) k
            refine ⟨q + 1, follow.trans (by omega), ?_⟩
            rw [List.getElem?_cons_succ, at', List.getElem?_set_self inside]
            rfl
          | succ p =>
            rw [if_neg (by omega), Nat.add_comm p, ← Nat.add_assoc]
            obtain ⟨q, follow, at'⟩ := ih (i + 1) (rest.set k a) p
            refine ⟨q + 1, follow.trans (by omega), ?_⟩
            rw [List.getElem?_cons_succ, at', List.getElem?_set_ne (by omega), Nat.add_comm 1,
              List.getElem?_cons_succ]

theorem selectionSort_follow (l : List α) (p : Nat) :
    (selectionSort higher l).1[followExchanges (selectionSort higher l).2 p]? = l[p]? := by
  obtain ⟨q, follow, at_⟩ := sortRounds_follow higher l.length 0 l p
  rw [Nat.zero_add, Nat.zero_add] at follow
  rw [selectionSort, follow]
  exact at_

section Order

variable (asymm : ∀ a b, higher a b = true → higher b a = false)
  (trans : ∀ a b c, higher a b = false → higher b c = false → higher a c = false)

include asymm trans

theorem findHighest_top (l : List α) (j : Nat) (best : Option Nat × α) :
    higher best.2 (findHighest higher j best l).2 = false
      ∧ ∀ a ∈ l, higher a (findHighest higher j best l).2 = false := by
  have irrefl : ∀ a, higher a a = false := by
    intro a
    cases self : higher a a with
    | false => rfl
    | true => rw [← asymm a a self, self]
  induction l generalizing j best with
  | nil => exact ⟨irrefl _, nofun⟩
  | cons a rest ih =>
    obtain ⟨first, others⟩ := ih (j + 1) (if higher a best.2 then (some j, a) else best)
    rw [findHighest]
    cases above : higher a best.2 with
    | true =>
      rw [above, if_pos rfl] at first others
      rw [if_pos rfl]
      refine ⟨trans _ _ _ (asymm a best.2 above) first, ?_⟩
      intro b mem
      rcases List.mem_cons.1 mem with rfl | mem
      · exact first
      · exact others b mem
    | false =>
      rw [above, if_neg Bool.false_ne_true] at first others
      rw [if_neg Bool.false_ne_true]
      refine ⟨first, ?_⟩
      intro b mem
      rcases List.mem_cons.1 mem with rfl | mem
      · exact trans _ _ _ above first
      · exact others b mem

theorem sortRounds_sorted (n i : Nat) (l : List α) (enough : l.length ≤ n) :
    (sortRounds higher n i l).1.Pairwise fun a b => higher b a = false := by
  induction n generalizing i l with
  | zero =>
    rw [List.eq_nil_of_length_eq_zero (Nat.le_zero.1 enough)]
    exact .nil
  | succ n ih =>
    cases l with
    | nil => exact .nil
    | cons a rest =>
      have enough' : rest.length ≤ n := Nat.le_of_succ_le_succ enough
      have top := findHighest_top higher asymm trans rest 0 (none, a)
      rcases findHighest_place higher rest 0 (none, a) with found | later
      · rw [sortRounds, found]
        rw [found] at top
        refine .cons ?_ (ih (i + 1) rest enough')
        intro b mem
        exact top.2 b ((sortRounds_perm higher _ _ _).mem_iff.1 mem)
      · obtain ⟨k, b, at_, found⟩ := later
        rw [sortRounds, found]
        rw [found] at top
        refine .cons ?_ (ih (i + 1) _ (by rwa [List.length_set]))
        intro c mem
        have mem' := (sortRounds_perm higher _ _ _).mem_iff.1 mem
        rcases List.mem_or_eq_of_mem_set mem' with old | rfl
        · exact top.2 c old
        · exact top.1

theorem selectionSort_sorted (l : List α) :
    (selectionSort higher l).1.Pairwise fun a b => higher b a = false :=
  sortRounds_sorted higher asymm trans _ _ l (Nat.le_refl _)

end Order

end Sorted

end Pjsip.Base
