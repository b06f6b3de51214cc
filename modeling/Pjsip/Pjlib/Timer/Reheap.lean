import Pjsip.Base.IndexedHeap
import Pjsip.Pjlib.Timer.Model

/-!
# The reheap loops

Both loops move a hole through the heap. Whatever way it goes, the heap is in order
when the node at hand has its place, and holds the same nodes.
-/

namespace Pjsip.Pjlib.Timer

open Pjsip.Base Pjsip.Base.IndexedHeap

variable {ε : Type} {ht ht' : PjTimerHeap ε} {n slot v : Nat}

theorem heapParent_eq (x : Nat) : heapParent x = parent x := by
  unfold heapParent parent
  split <;> omega

/-- Every node at hand carries its own place as its id, and places fit an `int`. -/
structure Addressed (ht : PjTimerHeap ε) (n slot v : Nat) : Prop where
  named : ∀ b, Among n ht.heap slot v b → ht.timerId b = b
  small : n < 2 ^ 31

/-- What a reheap loop makes of the heap with a hole. -/
structure Reheaped (ht : PjTimerHeap ε) (n slot v : Nat) (ht' : PjTimerHeap ε) : Prop where
  same : ht' = { ht with heap := ht'.heap, timerIds := ht'.timerIds }
  heap : Heap ht.value n ht'.heap ht'.timerIds
  holds : ∀ b, (∃ i < n, ht'.heap i = b) ↔ Among n ht.heap slot v b
  others : ∀ b, ¬ Among n ht.heap slot v b → ht'.timerIds b = ht.timerIds b

theorem copyNode_eq (named : ht.timerId v = v) (small : slot < 2 ^ 31) :
    copyNode ht slot v = { ht with
      heap := Function.update ht.heap slot v, timerIds := Function.update ht.timerIds v slot } := by
  have place : i32 (slot : Int) = slot := i32_of_bounds (by omega) (by omega)
  unfold copyNode
  rw [named, place]
  rfl

theorem Reheaped.fill (hole : Hole ht.value n ht.heap ht.timerIds slot v)
    (addressed : Addressed ht n slot v) (below : Below ht.value n ht.heap slot v)
    (above : Above ht.value ht.heap slot v) : Reheaped ht n slot v (copyNode ht slot v) := by
  have inside := hole.inside
  have small := addressed.small
  rw [copyNode_eq (addressed.named v (.inl rfl)) (by omega)]
  refine ⟨rfl, hole.fill below above, fun b => among_fill inside, fun b other => ?_⟩
  exact Function.update_of_ne (fun here => other (.inl here)) ..

theorem Reheaped.move {j : Nat} (hole : Hole ht.value n ht.heap ht.timerIds slot v)
    (addressed : Addressed ht n slot v) (hj : j < n) (other : j ≠ slot)
    (rest : Reheaped (copyNode ht slot (ht.heap j)) n j v ht') : Reheaped ht n slot v ht' := by
  have inside := hole.inside
  have small := addressed.small
  have moved := copyNode_eq (addressed.named (ht.heap j) (.inr ⟨j, hj, other, rfl⟩))
    (show slot < 2 ^ 31 by omega)
  rw [moved] at rest
  obtain ⟨same, heap, holds, others⟩ := rest
  have among : ∀ b, Among n (Function.update ht.heap slot (ht.heap j)) j v b ↔
      Among n ht.heap slot v b := fun b => among_move inside hj other
  refine ⟨same, heap, fun b => (holds b).trans (among b), fun b away => ?_⟩
  rw [others b (fun mem => away ((among b).mp mem))]
  refine Function.update_of_ne ?_ ..
  rintro rfl
  exact away (.inr ⟨j, hj, other, rfl⟩)

theorem Addressed.move {j : Nat} (hole : Hole ht.value n ht.heap ht.timerIds slot v)
    (addressed : Addressed ht n slot v) (hj : j < n) (other : j ≠ slot) :
    Addressed (copyNode ht slot (ht.heap j)) n j v := by
  have inside := hole.inside
  have small := addressed.small
  refine ⟨fun b mem => ?_, small⟩
  exact addressed.named b ((among_move inside hj other).mp mem)

theorem reheapUp_spec {rounds : Nat} (hole : Hole ht.value n ht.heap ht.timerIds slot v)
    (addressed : Addressed ht n slot v) (below : Below ht.value n ht.heap slot v)
    (enough : slot ≤ rounds) : Reheaped ht n slot v (reheapUp rounds ht v slot (heapParent slot)) := by
  induction rounds generalizing ht slot with
  | zero =>
    obtain rfl : slot = 0 := by omega
    exact .fill hole addressed below fun positive => absurd positive (by omega)
  | succ rounds ih =>
    have inside := hole.inside
    have small := addressed.small
    unfold reheapUp
    simp only [heapParent_eq, PjTimeVal.lt_iff]
    by_cases positive : slot > 0
    · rw [if_pos positive]
      have upper := parent_lt positive
      by_cases less : ht.value v < ht.value (ht.heap (parent slot))
      · rw [if_pos less]
        refine .move hole addressed (j := parent slot) (by omega) (by omega) ?_
        have addressed' :=
          addressed.move hole (j := parent slot) (by omega) (by omega)
        obtain ⟨hole', below'⟩ := hole.up positive less below
        have moved := copyNode_eq (addressed.named (ht.heap (parent slot))
          (.inr ⟨_, by omega, by omega, rfl⟩)) (show slot < 2 ^ 31 by omega)
        rw [← heapParent_eq (parent slot)]
        refine ih ?_ addressed' ?_ (by omega)
        · rw [moved]
          exact hole'
        · rw [moved]
          exact below'
      · rw [if_neg less]
        exact .fill hole addressed below fun _ => not_lt.mp less
    · rw [if_neg positive]
      exact .fill hole addressed below fun above => absurd above positive

theorem reheapDown_spec {rounds : Nat} (hole : Hole ht.value ht.curSize ht.heap ht.timerIds slot v)
    (addressed : Addressed ht ht.curSize slot v) (above : Above ht.value ht.heap slot v)
    (enough : ht.curSize ≤ slot + rounds) :
    Reheaped ht ht.curSize slot v (reheapDown rounds ht v slot (heapLeft slot)) := by
  induction rounds generalizing ht slot with
  | zero =>
    have inside := hole.inside
    omega
  | succ rounds ih =>
    have small := addressed.small
    have left : ∀ c, 0 < c → (parent c = slot ↔ c = heapLeft slot ∨ c = heapLeft slot + 1) := by
      intro c positive
      rw [parent_eq_iff positive]
      unfold heapLeft
      omega
    unfold reheapDown
    simp only [PjTimeVal.lt_iff]
    by_cases more : heapLeft slot < ht.curSize
    · rw [if_pos more]
      generalize chosen : (if heapLeft slot + 1 < ht.curSize ∧
        ht.value (ht.heap (heapLeft slot + 1)) < ht.value (ht.heap (heapLeft slot)) then
          heapLeft slot + 1 else heapLeft slot) = child
      -- the child chosen is the smaller one, and a child
      have spec : 0 < child ∧ child < ht.curSize ∧ parent child = slot ∧
          ∀ c, 0 < c → c < ht.curSize → parent c = slot →
            ht.value (ht.heap child) ≤ ht.value (ht.heap c) := by
        have positive : 0 < heapLeft slot := by
          unfold heapLeft
          omega
        rw [← chosen]
        split
        · rename_i both
          refine ⟨by omega, both.1, (left _ (by omega)).mpr (.inr rfl), fun c cPositive _ under => ?_⟩
          rcases (left c cPositive).mp under with rfl | rfl
          · exact both.2.le
          · exact le_refl _
        · rename_i neither
          refine ⟨positive, more, (left _ positive).mpr (.inl rfl), fun c cPositive hc under => ?_⟩
          rcases (left c cPositive).mp under with rfl | rfl
          · exact le_refl _
          · exact not_lt.mp fun less => neither ⟨hc, less⟩
      obtain ⟨positive, hc, under, least⟩ := spec
      have lower := parent_lt positive
      by_cases less : ht.value (ht.heap child) < ht.value v
      · rw [if_pos less]
        refine .move hole addressed hc (by omega) ?_
        have addressed' := addressed.move hole hc (by omega)
        obtain ⟨hole', above'⟩ := hole.down positive hc under least less
        have moved := copyNode_eq (addressed.named (ht.heap child)
          (.inr ⟨child, hc, by omega, rfl⟩)) (show slot < 2 ^ 31 by omega)
        refine ih ?_ addressed' ?_ ?_
        · rw [moved]
          exact hole'
        · rw [moved]
          exact above'
        · show ht.curSize ≤ child + rounds
          omega
      · rw [if_neg less]
        refine .fill hole addressed (fun c cPositive hc' under' => ?_) above
        exact (not_lt.mp less).trans (least c cPositive hc' under')
    · rw [if_neg more]
      refine .fill hole addressed (fun c cPositive hc under => ?_) above
      rcases (left c cPositive).mp under with rfl | rfl <;> omega

end Pjsip.Pjlib.Timer
