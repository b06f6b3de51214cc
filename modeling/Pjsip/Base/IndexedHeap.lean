import Mathlib.Order.Lattice
import Mathlib.Logic.Function.Basic
import Mathlib.Data.List.Nodup

/-!
# A binary heap with an index

An array `a` of the names of the elements, ordered by a key as a binary heap, and beside it for
every name its place in the array. An operation leaves a hole in the array and moves the hole until
the element at hand fits; `Hole` is what holds meanwhile. Names outside the heap may keep something
else in `pos`.
-/

namespace Pjsip.Base.IndexedHeap

variable {β τ : Type*} [LinearOrder τ]

def parent (i : Nat) : Nat := (i - 1) / 2

theorem parent_lt {i : Nat} (pos : 0 < i) : parent i < i := by
  unfold parent
  omega

theorem parent_eq_iff {i j : Nat} (pos : 0 < i) : parent i = j ↔ i = 2 * j + 1 ∨ i = 2 * j + 2 := by
  unfold parent
  omega

/-- The array is in heap order and `pos` is its inverse. -/
structure Heap (key : β → τ) (n : Nat) (a : Nat → β) (pos : β → Int) : Prop where
  ordered : ∀ i, 0 < i → i < n → key (a (parent i)) ≤ key (a i)
  placed : ∀ i < n, pos (a i) = i

/-- A heap but for the place `slot`, where `v` is to go if nothing else will. -/
structure Hole (key : β → τ) (n : Nat) (a : Nat → β) (pos : β → Int) (slot : Nat) (v : β) :
    Prop where
  inside : slot < n
  ordered : ∀ i, 0 < i → i < n → i ≠ slot → parent i ≠ slot → key (a (parent i)) ≤ key (a i)
  /-- What hangs below the hole fits under what hangs above it. -/
  across : 0 < slot → ∀ c, 0 < c → c < n → parent c = slot → key (a (parent slot)) ≤ key (a c)
  placed : ∀ i < n, i ≠ slot → pos (a i) = i
  apart : ∀ i < n, i ≠ slot → a i ≠ v

/-- `v` fits above what hangs below the hole. -/
def Below (key : β → τ) (n : Nat) (a : Nat → β) (slot : Nat) (v : β) : Prop :=
  ∀ c, 0 < c → c < n → parent c = slot → key v ≤ key (a c)

/-- `v` fits below what hangs above the hole. -/
def Above (key : β → τ) (a : Nat → β) (slot : Nat) (v : β) : Prop :=
  0 < slot → key (a (parent slot)) ≤ key v

/-- The elements, the one at hand included. -/
def Among (n : Nat) (a : Nat → β) (slot : Nat) (v b : β) : Prop :=
  b = v ∨ ∃ i < n, i ≠ slot ∧ a i = b

section Rules

variable {key : β → τ} {n : Nat} {a : Nat → β} {pos : β → Int} {slot : Nat} {v : β}

theorem Heap.injective (heap : Heap key n a pos) {i j : Nat} (hi : i < n) (hj : j < n)
    (same : a i = a j) : i = j := by
  have first := heap.placed i hi
  rw [same, heap.placed j hj] at first
  exact_mod_cast first.symm

theorem Heap.least (heap : Heap key n a pos) {i : Nat} (hi : i < n) : key (a 0) ≤ key (a i) := by
  induction i using Nat.strongRecOn with
  | ind i ih =>
    rcases Nat.eq_zero_or_pos i with rfl | positive
    · exact le_refl _
    · have above := parent_lt positive
      exact (ih (parent i) above (by omega)).trans (heap.ordered i positive hi)

theorem Heap.grow (heap : Heap key n a pos) (fresh : ∀ i < n, a i ≠ v) :
    Hole key (n + 1) a pos n v ∧ Below key (n + 1) a n v := by
  refine ⟨⟨by omega, ?_, ?_, ?_, ?_⟩, ?_⟩
  · intro i positive hi away _
    exact heap.ordered i positive (by omega)
  · intro _ c positive hc here
    have := parent_lt positive
    omega
  · intro i hi away
    exact heap.placed i (by omega)
  · intro i hi away
    exact fresh i (by omega)
  · intro c positive hc here
    have := parent_lt positive
    omega

theorem Heap.shrink (heap : Heap key (n + 1) a pos) (inside : slot < n) :
    Hole key n a pos slot (a n) := by
  refine ⟨inside, ?_, ?_, ?_, ?_⟩
  · intro i positive hi _ _
    exact heap.ordered i positive (by omega)
  · intro positive c cPositive hc here
    have first := heap.ordered slot positive (by omega)
    have second := heap.ordered c cPositive (by omega)
    rw [here] at second
    exact first.trans second
  · intro i hi _
    exact heap.placed i (by omega)
  · intro i hi _ same
    have := heap.injective (by omega) (by omega) same
    omega

theorem Hole.reindex {pos' : β → Int} (hole : Hole key n a pos slot v)
    (agree : ∀ i < n, i ≠ slot → pos' (a i) = pos (a i)) : Hole key n a pos' slot v :=
  { hole with placed := fun i hi away => (agree i hi away).trans (hole.placed i hi away) }

variable [DecidableEq β]

theorem Hole.fill (hole : Hole key n a pos slot v) (below : Below key n a slot v)
    (above : Above key a slot v) :
    Heap key n (Function.update a slot v) (Function.update pos v slot) := by
  constructor
  · intro i positive hi
    have upper := parent_lt positive
    by_cases here : i = slot
    · subst here
      rw [Function.update_self, Function.update_of_ne (by omega)]
      exact above positive
    · rw [Function.update_of_ne here]
      by_cases there : parent i = slot
      · rw [there, Function.update_self]
        exact below i positive hi there
      · rw [Function.update_of_ne there]
        exact hole.ordered i positive hi here there
  · intro i hi
    by_cases here : i = slot
    · subst here
      rw [Function.update_self, Function.update_self]
    · rw [Function.update_of_ne here, Function.update_of_ne (hole.apart i hi here)]
      exact hole.placed i hi here

theorem Hole.overwrite (hole : Hole key n a pos slot v) :
    Hole key n (Function.update a slot v) (Function.update pos v slot) slot v := by
  refine ⟨hole.inside, ?_, ?_, ?_, ?_⟩
  · intro i positive hi away upAway
    rw [Function.update_of_ne away, Function.update_of_ne upAway]
    exact hole.ordered i positive hi away upAway
  · intro positive c cPositive hc here
    have lower := parent_lt cPositive
    rw [Function.update_of_ne (by have := parent_lt positive; omega),
      Function.update_of_ne (by omega)]
    exact hole.across positive c cPositive hc here
  · intro i hi away
    rw [Function.update_of_ne away, Function.update_of_ne (hole.apart i hi away)]
    exact hole.placed i hi away
  · intro i hi away
    rw [Function.update_of_ne away]
    exact hole.apart i hi away

theorem Hole.up (hole : Hole key n a pos slot v) (positive : 0 < slot)
    (less : key v < key (a (parent slot))) (below : Below key n a slot v) :
    Hole key n (Function.update a slot (a (parent slot)))
        (Function.update pos (a (parent slot)) slot) (parent slot) v ∧
      Below key n (Function.update a slot (a (parent slot))) (parent slot) v := by
  have upper := parent_lt positive
  have inside := hole.inside
  -- the edge from the element moved to what was above it
  have edge : 0 < parent slot →
      key (a (parent (parent slot))) ≤ key (a (parent slot)) := fun next =>
    hole.ordered _ next (by omega) (by omega) (by have := parent_lt next; omega)
  have beside : ∀ c, 0 < c → c < n → parent c = parent slot → c ≠ slot →
      key (a (parent slot)) ≤ key (a c) := by
    intro c cPositive hc here other
    have ordered := hole.ordered c cPositive hc other (by omega)
    rwa [here] at ordered
  refine ⟨⟨by omega, ?_, ?_, ?_, ?_⟩, ?_⟩
  · intro i iPositive hi away upAway
    by_cases here : i = slot
    · exact absurd (congrArg parent here) upAway
    · rw [Function.update_of_ne here]
      by_cases there : parent i = slot
      · rw [there, Function.update_self]
        exact hole.across positive i iPositive hi there
      · rw [Function.update_of_ne there]
        exact hole.ordered i iPositive hi here there
  · intro next c cPositive hc here
    have higher := parent_lt next
    rw [Function.update_of_ne (by omega)]
    by_cases other : c = slot
    · subst other
      rw [Function.update_self]
      exact edge next
    · rw [Function.update_of_ne other]
      exact (edge next).trans (beside c cPositive hc here other)
  · intro i hi away
    by_cases here : i = slot
    · subst here
      rw [Function.update_self, Function.update_self]
    · rw [Function.update_of_ne here]
      have distinct : a i ≠ a (parent slot) := by
        intro same
        have first := hole.placed i hi here
        rw [same, hole.placed _ (by omega) (by omega)] at first
        omega
      rw [Function.update_of_ne distinct]
      exact hole.placed i hi here
  · intro i hi away
    by_cases here : i = slot
    · subst here
      rw [Function.update_self]
      exact hole.apart _ (by omega) (by omega)
    · rw [Function.update_of_ne here]
      exact hole.apart i hi here
  · intro c cPositive hc here
    by_cases other : c = slot
    · subst other
      rw [Function.update_self]
      exact less.le
    · rw [Function.update_of_ne other]
      exact less.le.trans (beside c cPositive hc here other)

theorem Hole.down (hole : Hole key n a pos slot v) {c : Nat} (cPositive : 0 < c) (hc : c < n)
    (here : parent c = slot) (least : ∀ c', 0 < c' → c' < n → parent c' = slot → key (a c) ≤ key (a c'))
    (less : key (a c) < key v) :
    Hole key n (Function.update a slot (a c)) (Function.update pos (a c) slot) c v ∧
      Above key (Function.update a slot (a c)) c v := by
  have lower := parent_lt cPositive
  refine ⟨⟨hc, ?_, ?_, ?_, ?_⟩, ?_⟩
  · intro i iPositive hi away upAway
    by_cases atSlot : i = slot
    · subst atSlot
      rw [Function.update_self, Function.update_of_ne (by have := parent_lt iPositive; omega)]
      exact hole.across iPositive c cPositive hc here
    · rw [Function.update_of_ne atSlot]
      by_cases under : parent i = slot
      · rw [under, Function.update_self]
        exact least i iPositive hi under
      · rw [Function.update_of_ne under]
        exact hole.ordered i iPositive hi atSlot under
  · intro _ g gPositive hg under
    have deeper := parent_lt gPositive
    rw [here, Function.update_self, Function.update_of_ne (by omega)]
    have ordered := hole.ordered g gPositive hg (by omega) (by omega)
    rwa [under] at ordered
  · intro i hi away
    by_cases atSlot : i = slot
    · subst atSlot
      rw [Function.update_self, Function.update_self]
    · rw [Function.update_of_ne atSlot]
      have distinct : a i ≠ a c := by
        intro same
        have first := hole.placed i hi atSlot
        rw [same, hole.placed c hc (by omega)] at first
        omega
      rw [Function.update_of_ne distinct]
      exact hole.placed i hi atSlot
  · intro i hi away
    by_cases atSlot : i = slot
    · subst atSlot
      rw [Function.update_self]
      exact hole.apart c hc (by omega)
    · rw [Function.update_of_ne atSlot]
      exact hole.apart i hi atSlot
  · intro _
    rw [here, Function.update_self]
    exact less.le

end Rules

section Contents

variable {n : Nat} {a : Nat → β} {slot : Nat} {v b : β}

theorem among_move {j : Nat} (inside : slot < n) (hj : j < n) (other : j ≠ slot) :
    Among n (Function.update a slot (a j)) j v b ↔ Among n a slot v b := by
  constructor
  · rintro (rfl | ⟨i, hi, away, rfl⟩)
    · exact .inl rfl
    · by_cases here : i = slot
      · subst here
        rw [Function.update_self]
        exact .inr ⟨j, hj, other, rfl⟩
      · rw [Function.update_of_ne here]
        exact .inr ⟨i, hi, here, rfl⟩
  · rintro (rfl | ⟨i, hi, away, rfl⟩)
    · exact .inl rfl
    · by_cases here : i = j
      · subst here
        exact .inr ⟨slot, inside, other.symm, by rw [Function.update_self]⟩
      · exact .inr ⟨i, hi, here, by rw [Function.update_of_ne away]⟩

theorem among_fill (inside : slot < n) :
    (∃ i < n, Function.update a slot v i = b) ↔ Among n a slot v b := by
  constructor
  · rintro ⟨i, hi, rfl⟩
    by_cases here : i = slot
    · subst here
      exact .inl (Function.update_self ..)
    · exact .inr ⟨i, hi, here, (Function.update_of_ne here ..).symm⟩
  · rintro (rfl | ⟨i, hi, away, rfl⟩)
    · exact ⟨slot, inside, Function.update_self ..⟩
    · exact ⟨i, hi, Function.update_of_ne away ..⟩

end Contents

end Pjsip.Base.IndexedHeap

/-!
# A free list inside an array

The free places of an array are linked through the array itself: a free place holds
the next one, negated, and the last one leads to `stop`, which is no place of the
array.
-/

namespace Pjsip.Base.FreeList

/-- From `first` the links pass the places of the list and end at `stop`. -/
def Chain (links : Nat → Int) (stop : Nat) : Int → List Nat → Prop
  | first, [] => first = stop
  | first, i :: rest => first = i ∧ Chain links stop (-links i) rest

variable {links links' : Nat → Int} {stop : Nat} {first : Int} {free rest : List Nat}

theorem Chain.congr (chain : Chain links stop first free)
    (same : ∀ i ∈ free, links' i = links i) : Chain links' stop first free := by
  induction free generalizing first with
  | nil => exact chain
  | cons i rest ih =>
    obtain ⟨rfl, onwards⟩ := chain
    refine ⟨rfl, ?_⟩
    rw [same i (by simp)]
    exact ih onwards fun j mem => same j (by simp [mem])

theorem Chain.append {middle : Nat} (chain : Chain links middle first free)
    (onwards : Chain links stop middle rest) : Chain links stop first (free ++ rest) := by
  induction free generalizing first with
  | nil =>
    cases chain
    exact onwards
  | cons i _ ih => exact ⟨chain.1, ih chain.2⟩

theorem chain_range {low n : Nat} (linked : ∀ i, low ≤ i → i < low + n → links i = -(i + 1 : Nat)) :
    Chain links (low + n) low (List.range' low n) := by
  induction n generalizing low with
  | zero => rfl
  | succ n ih =>
    refine ⟨rfl, ?_⟩
    rw [linked low (Nat.le_refl _) (by omega), Int.neg_neg]
    have tail : Chain links (low + 1 + n) (low + 1 : Nat) (List.range' (low + 1) n) :=
      ih fun i below above => linked i (by omega) (by omega)
    rwa [Nat.add_right_comm] at tail

theorem Chain.push (chain : Chain links stop first free) {i : Nat} (fresh : i ∉ free) :
    Chain (Function.update links i (-first)) stop i (i :: free) := by
  refine ⟨rfl, ?_⟩
  rw [Function.update_self, Int.neg_neg]
  refine chain.congr fun j mem => Function.update_of_ne ?_ ..
  rintro rfl
  exact fresh mem

end Pjsip.Base.FreeList
