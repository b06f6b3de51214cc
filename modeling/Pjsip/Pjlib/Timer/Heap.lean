import Pjsip.Pjlib.Timer.Reheap

/-!
# The heap, the index and the free ids

The three arrays of the timer heap together: what they say between two operations,
and that taking an id, growing, inserting and removing keep it.
-/

namespace Pjsip.Pjlib.Timer

open Pjsip.Base Pjsip.Base.IndexedHeap Pjsip.Base.FreeList

variable {ε : Type}

def PjTimerHeap.Holds (ht : PjTimerHeap ε) (b : Nat) : Prop := ∃ i < ht.curSize, ht.heap i = b

/-- The free list passes every id once that no node and no `taken` id has. -/
structure FreeIds (ht : PjTimerHeap ε) (taken : Nat → Prop) (free : List Nat) : Prop where
  chain : Chain ht.timerIds ht.maxSize ht.timerIdsFreelist free
  nodup : free.Nodup
  mem : ∀ b, b ∈ free ↔ 1 ≤ b ∧ b < ht.maxSize ∧ ¬ ht.Holds b ∧ ¬ taken b

/-- What the arrays say between two operations. -/
structure HeapOk (ht : PjTimerHeap ε) : Prop where
  heap : Heap ht.value ht.curSize ht.heap ht.timerIds
  named : ∀ b, ht.Holds b → ht.timerId b = b
  range : ∀ b, ht.Holds b → 1 ≤ b ∧ b < ht.maxSize
  free : ∃ free, FreeIds ht (fun _ => False) free ∧ free.length + ht.curSize + 1 = ht.maxSize
  room : ht.curSize + 2 ≤ ht.maxSize
  small : ht.maxSize < 2 ^ 31

variable {ht : PjTimerHeap ε} {slot : Nat}

theorem setTimerId_value (ht : PjTimerHeap ε) (node : Nat) (timerId : Int) :
    (ht.setTimerId node timerId).value = ht.value := by
  funext b
  unfold PjTimerHeap.value PjTimerHeap.setTimerId
  by_cases here : b = node
  · simp [here]
  · simp [here]

theorem setTimerId_timerId_of_ne (ht : PjTimerHeap ε) {node b : Nat} {timerId : Int}
    (away : b ≠ node) : (ht.setTimerId node timerId).timerId b = ht.timerId b := by
  simp [PjTimerHeap.timerId, PjTimerHeap.setTimerId, away]

/-! ## Refilling a slot -/

/-- What refilling `slot` leaves, in a heap with one node more than `cur_size`. -/
structure Refilled (ht : PjTimerHeap ε) (slot : Nat) (ht' : PjTimerHeap ε) : Prop where
  same : ht' = { ht with heap := ht'.heap, timerIds := ht'.timerIds }
  heap : Heap ht.value ht.curSize ht'.heap ht'.timerIds
  holds : ∀ b, (∃ i < ht.curSize, ht'.heap i = b) ↔ ∃ i < ht.curSize + 1, i ≠ slot ∧ ht.heap i = b
  others : ∀ b, (¬ ∃ i < ht.curSize + 1, i ≠ slot ∧ ht.heap i = b) → ht'.timerIds b = ht.timerIds b

theorem Refilled.of_reheaped {ht' : PjTimerHeap ε} (last : slot < ht.curSize)
    (nameV : ht.timerId (ht.heap ht.curSize) = ht.heap ht.curSize) (small : ht.curSize < 2 ^ 31)
    (reheaped : Reheaped (copyNode ht slot (ht.heap ht.curSize)) ht.curSize slot
      (ht.heap ht.curSize) ht') : Refilled ht slot ht' := by
  have moved := copyNode_eq nameV (show slot < 2 ^ 31 by omega)
  rw [moved] at reheaped
  obtain ⟨same, heap, holds, others⟩ := reheaped
  have among : ∀ b, Among ht.curSize (Function.update ht.heap slot (ht.heap ht.curSize)) slot
      (ht.heap ht.curSize) b ↔ ∃ i < ht.curSize + 1, i ≠ slot ∧ ht.heap i = b := by
    intro b
    constructor
    · rintro (rfl | ⟨i, hi, away, rfl⟩)
      · exact ⟨ht.curSize, by omega, by omega, rfl⟩
      · exact ⟨i, by omega, away, (Function.update_of_ne away ..).symm⟩
    · rintro ⟨i, hi, away, rfl⟩
      by_cases here : i = ht.curSize
      · exact .inl (by rw [here])
      · exact .inr ⟨i, by omega, away, Function.update_of_ne away ..⟩
  refine ⟨same, heap, fun b => (holds b).trans (among b), fun b away => ?_⟩
  rw [others b fun mem => away ((among b).mp mem)]
  refine Function.update_of_ne ?_ ..
  rintro rfl
  exact away ⟨ht.curSize, by omega, by omega, rfl⟩

theorem refill_spec {pos : Nat → Int} (heap : Heap ht.value (ht.curSize + 1) ht.heap pos)
    (agree : ∀ i < ht.curSize + 1, i ≠ slot → ht.timerIds (ht.heap i) = pos (ht.heap i))
    (named : ∀ i < ht.curSize + 1, i ≠ slot → ht.timerId (ht.heap i) = ht.heap i)
    (inside : slot ≤ ht.curSize) (small : ht.curSize < 2 ^ 31) : Refilled ht slot (refill ht slot) := by
  unfold refill
  by_cases last : slot < ht.curSize
  · rw [if_pos last]
    have nameV := named ht.curSize (by omega) (by omega)
    have moved := copyNode_eq nameV (show slot < 2 ^ 31 by omega)
    have hole := (heap.shrink last).reindex fun i hi away => agree i (by omega) away
    -- the node is written into the slot first, and moved on from there
    have hole' : Hole (copyNode ht slot (ht.heap ht.curSize)).value ht.curSize
        (copyNode ht slot (ht.heap ht.curSize)).heap
        (copyNode ht slot (ht.heap ht.curSize)).timerIds slot (ht.heap ht.curSize) := by
      rw [moved]
      exact hole.overwrite
    have addressed : Addressed (copyNode ht slot (ht.heap ht.curSize)) ht.curSize slot
        (ht.heap ht.curSize) := by
      refine ⟨fun b mem => ?_, small⟩
      rcases mem with rfl | ⟨i, hi, away, rfl⟩
      · exact nameV
      · have other : (copyNode ht slot (ht.heap ht.curSize)).heap i = ht.heap i :=
          Function.update_of_ne away ..
        rw [other]
        exact named i (by omega) away
    refine .of_reheaped last nameV small ?_
    simp only [PjTimeVal.gte_iff, heapParent_eq]
    split
    · rename_i atLeast
      exact reheapDown_spec hole' addressed (fun _ => atLeast) (Nat.le_add_left _ _)
    · rename_i less
      rw [← heapParent_eq]
      refine reheapUp_spec hole' addressed (fun c cPositive hc under => ?_) (Nat.le_refl _)
      have positive : 0 < slot := by
        rcases Nat.eq_zero_or_pos slot with rfl | positive
        · have here : (copyNode ht 0 (ht.heap ht.curSize)).heap (parent 0) = ht.heap ht.curSize := by
            show Function.update ht.heap 0 (ht.heap ht.curSize) 0 = _
            exact Function.update_self ..
          exact absurd (le_refl _) less
        · exact positive
      exact (not_le.mp less).le.trans (hole'.across positive c cPositive hc under)
  · obtain rfl : slot = ht.curSize := by omega
    rw [if_neg last]
    refine ⟨rfl, ⟨fun i positive hi => heap.ordered i positive (by omega),
      fun i hi => (agree i (by omega) (by omega)).trans (heap.placed i (by omega))⟩,
      fun b => ?_, fun b _ => rfl⟩
    constructor
    · rintro ⟨i, hi, rfl⟩
      exact ⟨i, by omega, by omega, rfl⟩
    · rintro ⟨i, hi, away, rfl⟩
      exact ⟨i, by omega, rfl⟩

/-! ## Removing a node -/

/-- What removing the node at `slot` leaves of the heap. -/
structure Removed (ht : PjTimerHeap ε) (slot : Nat) (ht' : PjTimerHeap ε) : Prop where
  ok : HeapOk ht'
  holds : ∀ b, ht'.Holds b ↔ ht.Holds b ∧ b ≠ ht.heap slot
  maxEntriesPerPoll : ht'.maxEntriesPerPoll = ht.maxEntriesPerPoll
  copies : ht'.timerDups = (ht.setTimerId (ht.heap slot) (-1)).timerDups

theorem release_spec (ok : HeapOk ht) (inside : slot < ht.curSize) :
    (release ht (ht.heap slot)).curSize + 1 = ht.curSize ∧
      Refilled (release ht (ht.heap slot)) slot (refill (release ht (ht.heap slot)) slot) := by
  have nameS := ok.named _ ⟨slot, inside, rfl⟩
  have room := ok.room
  have small := ok.small
  have cur : (release ht (ht.heap slot)).curSize + 1 = ht.curSize := by
    show ht.curSize - 1 + 1 = _
    omega
  have ids : (release ht (ht.heap slot)).timerIds =
      Function.update ht.timerIds (ht.heap slot) (-ht.timerIdsFreelist) := by
    show Function.update ht.timerIds (ht.timerId (ht.heap slot)).toNat _ = _
    rw [nameS]
    rfl
  have values : (release ht (ht.heap slot)).value = ht.value := setTimerId_value ..
  have other : ∀ i < ht.curSize, i ≠ slot → ht.heap i ≠ ht.heap slot :=
    fun i hi away same => away (ok.heap.injective hi inside same)
  have heap : Heap (release ht (ht.heap slot)).value ((release ht (ht.heap slot)).curSize + 1)
      (release ht (ht.heap slot)).heap ht.timerIds := by
    rw [values, cur]
    exact ok.heap
  refine ⟨cur, refill_spec heap (fun i hi away => ?_) (fun i hi away => ?_) (by omega) (by omega)⟩
  · rw [ids]
    exact Function.update_of_ne (other i (by omega) away) ..
  · have named := ok.named _ ⟨i, by omega, rfl⟩
    exact (setTimerId_timerId_of_ne _ (other i (by omega) away)).trans named

theorem removed_refill (ok : HeapOk ht) (inside : slot < ht.curSize) :
    Removed ht slot (refill (release ht (ht.heap slot)) slot) := by
  obtain ⟨cur, refilled⟩ := release_spec ok inside
  obtain ⟨free, ⟨chain, nodup, mem⟩, count⟩ := ok.free
  have rangeS := ok.range _ ⟨slot, inside, rfl⟩
  have nameS := ok.named _ ⟨slot, inside, rfl⟩
  generalize refill (release ht (ht.heap slot)) slot = ht' at refilled
  obtain ⟨same, heap, holds, others⟩ := refilled
  have curEq : ht'.curSize = (release ht (ht.heap slot)).curSize := by rw [same]
  have dupsEq : ht'.timerDups = (ht.setTimerId (ht.heap slot) (-1)).timerDups := by
    rw [same]
    rfl
  have valueEq : ht'.value = (release ht (ht.heap slot)).value := by
    rw [same]
    rfl
  have maxEq : ht'.maxSize = ht.maxSize := by
    rw [same]
    rfl
  have listEq : ht'.timerIdsFreelist = ht.heap slot := by
    rw [same]
    exact nameS
  have fresh : ht.heap slot ∉ free := fun inFree => ((mem _).mp inFree).2.2.1 ⟨slot, inside, rfl⟩
  have holds' : ∀ b, ht'.Holds b ↔ ht.Holds b ∧ b ≠ ht.heap slot := by
    intro b
    unfold PjTimerHeap.Holds
    rw [curEq, holds b]
    constructor
    · rintro ⟨i, hi, away, rfl⟩
      exact ⟨⟨i, by omega, rfl⟩, fun here => away (ok.heap.injective (by omega) inside here)⟩
    · rintro ⟨⟨i, hi, rfl⟩, off⟩
      refine ⟨i, by omega, ?_, rfl⟩
      rintro rfl
      exact off rfl
  refine ⟨⟨?_, ?_, ?_, ⟨ht.heap slot :: free, ⟨?_, ?_, ?_⟩, ?_⟩, ?_, ?_⟩, holds', ?_, dupsEq⟩
  · rw [curEq, valueEq]
    exact heap
  · intro b held
    obtain ⟨before, away⟩ := (holds' b).mp held
    have id : ht'.timerId b = (ht.setTimerId (ht.heap slot) (-1)).timerId b := by
      unfold PjTimerHeap.timerId
      rw [dupsEq]
    rw [id, setTimerId_timerId_of_ne _ away]
    exact ok.named b before
  · intro b held
    rw [maxEq]
    exact ok.range b ((holds' b).mp held).1
  · rw [maxEq, listEq]
    have pushed := chain.push fresh
    refine pushed.congr fun b inFree => ?_
    have gone : ¬ ∃ i < (release ht (ht.heap slot)).curSize + 1, i ≠ slot ∧
        (release ht (ht.heap slot)).heap i = b := by
      rintro ⟨i, hi, away, here⟩
      have held : ht.heap i = b := here
      rcases List.mem_cons.mp inFree with rfl | inFree
      · exact away (ok.heap.injective (by omega) inside held)
      · exact ((mem b).mp inFree).2.2.1 ⟨i, by omega, held⟩
    rw [others b gone]
    show Function.update ht.timerIds (ht.timerId (ht.heap slot)).toNat _ b = _
    rw [nameS]
    rfl
  · exact List.nodup_cons.mpr ⟨fresh, nodup⟩
  · intro b
    rw [List.mem_cons, mem b, holds' b, maxEq]
    by_cases here : b = ht.heap slot
    · subst here
      simp [rangeS]
    · simp [here]
  · rw [List.length_cons, curEq, maxEq]
    omega
  · rw [curEq, maxEq]
    omega
  · rw [maxEq]
    exact ok.small
  · rw [same]
    rfl

end Pjsip.Pjlib.Timer
