import Pjsip.Pjlib.Timer.Heap

/-!
# Scheduling: an id, room, and a place

An id is taken from the free list, the arrays grow if they have to, and the copy of
the entry goes into the heap. In between the id belongs to no node.
-/

namespace Pjsip.Pjlib.Timer

open Pjsip.Base Pjsip.Base.IndexedHeap Pjsip.Base.FreeList

variable {ε : Type} {ht ht' : PjTimerHeap ε} {b : Nat}

/-- The heap while the id `b` is taken and no node has it yet. -/
structure Ready (ht : PjTimerHeap ε) (b : Nat) : Prop where
  heap : Heap ht.value ht.curSize ht.heap ht.timerIds
  named : ∀ c, ht.Holds c → ht.timerId c = c
  range : ∀ c, ht.Holds c → 1 ≤ c ∧ c < ht.maxSize
  free : ∃ free, FreeIds ht (· = b) free ∧ free.length + ht.curSize + 2 = ht.maxSize
  taken : 1 ≤ b ∧ b < ht.maxSize ∧ ¬ ht.Holds b
  room : ht.curSize + 2 ≤ ht.maxSize
  small : ht.maxSize < 2 ^ 31

/-- Nothing that scheduling reads of the heap has changed. -/
structure Kept (ht ht' : PjTimerHeap ε) : Prop where
  holds : ∀ c, ht'.Holds c ↔ ht.Holds c
  copies : ht'.timerDups = ht.timerDups
  curSize : ht'.curSize = ht.curSize
  maxEntriesPerPoll : ht'.maxEntriesPerPoll = ht.maxEntriesPerPoll

theorem popFreelist_spec (ok : HeapOk ht) :
    ∃ b, (popFreelist ht).2 = (b : Nat) ∧ Ready (popFreelist ht).1 b ∧
      Kept ht (popFreelist ht).1 := by
  obtain ⟨heap, named, range, ⟨free, ⟨chain, nodup, mem⟩, count⟩, room, small⟩ := ok
  cases free with
  | nil =>
    simp only [List.length_nil] at count
    omega
  | cons b rest =>
    obtain ⟨first, onwards⟩ := chain
    obtain ⟨notRest, nodupRest⟩ := List.nodup_cons.mp nodup
    have inFree := (mem b).mp (by simp)
    refine ⟨b, first, ⟨heap, named, range, ⟨rest, ⟨?_, nodupRest, ?_⟩, ?_⟩, ?_, room, small⟩,
      fun _ => Iff.rfl, rfl, rfl, rfl⟩
    · show Chain ht.timerIds ht.maxSize (-ht.timerIds ht.timerIdsFreelist.toNat) rest
      rw [first]
      exact onwards
    · intro c
      have here := mem c
      show c ∈ rest ↔ 1 ≤ c ∧ c < ht.maxSize ∧ ¬ ht.Holds c ∧ ¬ c = b
      by_cases same : c = b
      · subst same
        simp [notRest]
      · simpa [same] using here
    · show rest.length + ht.curSize + 2 = ht.maxSize
      simp only [List.length_cons] at count
      omega
    · exact ⟨inFree.1, inFree.2.1, inFree.2.2.1⟩

variable {memory : GrowMemory}

theorem growHeap_spec (ready : Ready ht b)
    (granted : memory = ⟨true, true, true⟩) (fits : ht.maxSize * 2 < 2 ^ 31) :
    ∃ ht', growHeap ht memory = (ht', .success) ∧ Ready ht' b ∧ ht'.curSize + 2 < ht'.maxSize ∧
      Kept ht ht' := by
  obtain ⟨heap, named, range, ⟨free, ⟨chain, nodup, mem⟩, count⟩, taken, room, small⟩ := ready
  subst granted
  have holds : ∀ c, (∃ i < ht.curSize, (if i < ht.curSize then ht.heap i else 0) = c) ↔
      ht.Holds c := by
    intro c
    constructor
    · rintro ⟨i, hi, here⟩
      rw [if_pos hi] at here
      exact ⟨i, hi, here⟩
    · rintro ⟨i, hi, here⟩
      exact ⟨i, hi, by rw [if_pos hi, here]⟩
  have below : ∀ c, c < ht.maxSize → (if ht.maxSize ≤ c ∧ c < ht.maxSize * 2 then
      -i32 (c + 1 : Nat) else ht.timerIds c) = ht.timerIds c := by
    intro c inside
    rw [if_neg (by omega)]
  have beyond : ∀ c, ht.maxSize ≤ c → c < ht.maxSize + ht.maxSize →
      (if ht.maxSize ≤ c ∧ c < ht.maxSize * 2 then -i32 (c + 1 : Nat) else ht.timerIds c) =
        -(c + 1 : Nat) := by
    intro c low high
    rw [if_pos ⟨low, by omega⟩, i32_of_bounds (by omega) (by omega)]
  have inFree : ∀ c ∈ free, c < ht.maxSize := fun c mem' => ((mem c).mp mem').2.1
  refine ⟨_, rfl, ⟨⟨?_, ?_⟩, ?_, ?_, ⟨free ++ List.range' ht.maxSize ht.maxSize, ⟨?_, ?_, ?_⟩, ?_⟩,
    ?_, ?_, fits⟩, ?_, holds, rfl, rfl, rfl⟩
  · intro i positive hi
    have upper := parent_lt positive
    have hi' : i < ht.curSize := hi
    show ht.value (if parent i < ht.curSize then _ else 0) ≤ ht.value (if i < ht.curSize then _ else 0)
    rw [if_pos hi', if_pos (by omega)]
    exact heap.ordered i positive hi
  · intro i hi
    have hi' : i < ht.curSize := hi
    have inside := range _ ⟨i, hi', rfl⟩
    simp only [if_pos hi']
    rw [below _ inside.2]
    exact heap.placed i hi
  · intro c held
    exact named c ((holds c).mp held)
  · intro c held
    have inside := range c ((holds c).mp held)
    show 1 ≤ c ∧ c < ht.maxSize * 2
    omega
  · -- the new places follow the old ones in the list of free ids
    have old := chain.congr fun c mem' => below c (inFree c mem')
    have new := chain_range beyond
    have both := old.append new
    rwa [← Nat.mul_two] at both
  · refine List.nodup_append'.mpr ⟨nodup, List.nodup_range', fun c first second => ?_⟩
    have low := (List.mem_range'_1.mp second).1
    have high := inFree c first
    omega
  · intro c
    have here := mem c
    rw [List.mem_append, List.mem_range'_1, here]
    show _ ↔ 1 ≤ c ∧ c < ht.maxSize * 2 ∧ ¬ (∃ i < ht.curSize, _) ∧ ¬ c = b
    rw [holds c]
    constructor
    · rintro (⟨low, high, notHeld, notTaken⟩ | ⟨low, high⟩)
      · exact ⟨low, by omega, notHeld, notTaken⟩
      · refine ⟨by omega, by omega, fun held => ?_, ?_⟩
        · have := (range c held).2
          omega
        · rintro rfl
          omega
    · rintro ⟨low, high, notHeld, notTaken⟩
      by_cases inside : c < ht.maxSize
      · exact .inl ⟨low, inside, notHeld, notTaken⟩
      · exact .inr ⟨by omega, by omega⟩
  · show (free ++ List.range' ht.maxSize ht.maxSize).length + ht.curSize + 2 = ht.maxSize * 2
    rw [List.length_append, List.length_range']
    omega
  · refine ⟨taken.1, ?_, fun held => taken.2.2 ((holds b).mp held)⟩
    show b < ht.maxSize * 2
    omega
  · show ht.curSize + 2 ≤ ht.maxSize * 2
    omega
  · show ht.curSize + 2 < ht.maxSize * 2
    omega

/-- What a node inserted with its copy leaves of the heap. -/
structure Inserted (ht : PjTimerHeap ε) (b : Nat) (copy : PjTimerEntryDup ε) (ht' : PjTimerHeap ε) :
    Prop where
  ok : HeapOk ht'
  fresh : ¬ ht.Holds b
  positive : 1 ≤ b
  holds : ∀ c, ht'.Holds c ↔ ht.Holds c ∨ c = b
  maxEntriesPerPoll : ht'.maxEntriesPerPoll = ht.maxEntriesPerPoll
  copies : ht'.timerDups = Function.update ht.timerDups b copy

/-- The heap with the copy in the array of copies, before the node has a place. -/
def withCopy (ht : PjTimerHeap ε) (b : Nat) (copy : PjTimerEntryDup ε) : PjTimerHeap ε :=
  { ht with timerDups := Function.update ht.timerDups b copy }

theorem insert_reheap (ready : Ready ht b) (more : ht.curSize + 2 < ht.maxSize)
    {copy : PjTimerEntryDup ε} (id : copy.dup.timerId = b) :
    ∀ ht', reheapUp ht.curSize (withCopy ht b copy) b ht.curSize (heapParent ht.curSize) = ht' →
      Inserted ht b copy { ht' with curSize := ht'.curSize + 1 } := by
  obtain ⟨heap, named, range, ⟨free, ⟨chain, nodup, mem⟩, count⟩, taken, room, small⟩ := ready
  have fresh : ∀ i < ht.curSize, ht.heap i ≠ b := fun i hi here => taken.2.2 ⟨i, hi, here⟩
  have valueOf : ∀ i < ht.curSize, (withCopy ht b copy).value (ht.heap i) = ht.value (ht.heap i) := by
    intro i hi
    unfold PjTimerHeap.value withCopy
    simp only [Function.update_of_ne (fresh i hi)]
  have heap' : Heap (withCopy ht b copy).value ht.curSize ht.heap ht.timerIds := by
    refine ⟨fun i positive hi => ?_, heap.placed⟩
    have upper := parent_lt positive
    rw [valueOf i hi, valueOf _ (by omega)]
    exact heap.ordered i positive hi
  have idOf : ∀ c, c = b ∨ ht.Holds c → (withCopy ht b copy).timerId c = c := by
    intro c known
    by_cases here : c = b
    · subst here
      simp [PjTimerHeap.timerId, withCopy, id]
    · have held := known.resolve_left here
      simpa [PjTimerHeap.timerId, withCopy, here] using named c held
  -- the node starts behind the last one, where nothing is yet
  obtain ⟨hole, below⟩ := heap'.grow fresh
  have among : ∀ c, Among (ht.curSize + 1) ht.heap ht.curSize b c ↔ ht.Holds c ∨ c = b := by
    intro c
    constructor
    · rintro (rfl | ⟨i, hi, away, rfl⟩)
      · exact .inr rfl
      · exact .inl ⟨i, by omega, rfl⟩
    · rintro (⟨i, hi, rfl⟩ | rfl)
      · exact .inr ⟨i, by omega, by omega, rfl⟩
      · exact .inl rfl
  have addressed : Addressed (withCopy ht b copy) (ht.curSize + 1) ht.curSize b := by
    refine ⟨fun c mem' => idOf c ?_, by omega⟩
    exact ((among c).mp mem').symm
  have reheaped := reheapUp_spec hole addressed below (Nat.le_refl ht.curSize)
  intro ht' result
  rw [result] at reheaped
  obtain ⟨same, ordered, holds, others⟩ := reheaped
  have curEq : ht'.curSize = ht.curSize := by
    rw [same]
    rfl
  rw [curEq]
  have dupsEq : ht'.timerDups = (withCopy ht b copy).timerDups := by rw [same]
  have maxEq : ht'.maxSize = ht.maxSize := by
    rw [same]
    rfl
  have listEq : ht'.timerIdsFreelist = ht.timerIdsFreelist := by
    rw [same]
    rfl
  have holds' : ∀ c, (∃ i < ht.curSize + 1, ht'.heap i = c) ↔ ht.Holds c ∨ c = b :=
    fun c => (holds c).trans (among c)
  refine ⟨⟨?_, ?_, ?_, ⟨free, ⟨?_, nodup, ?_⟩, ?_⟩, ?_, ?_⟩, taken.2.2, taken.1, holds', ?_, dupsEq⟩
  · have valueEq : ht'.value = (withCopy ht b copy).value := by
      unfold PjTimerHeap.value
      rw [dupsEq]
    show Heap ht'.value (ht.curSize + 1) ht'.heap ht'.timerIds
    rw [valueEq]
    exact ordered
  · intro c held
    have idEq : ht'.timerId c = (withCopy ht b copy).timerId c := by
      unfold PjTimerHeap.timerId
      rw [dupsEq]
    exact idEq.trans (idOf c ((holds' c).mp held).symm)
  · intro c held
    show 1 ≤ c ∧ c < ht'.maxSize
    rw [maxEq]
    rcases (holds' c).mp held with before | rfl
    · exact range c before
    · exact ⟨taken.1, taken.2.1⟩
  · show Chain ht'.timerIds ht'.maxSize ht'.timerIdsFreelist free
    rw [maxEq, listEq]
    refine chain.congr fun c inFree => others c fun mem' => ?_
    obtain ⟨_, _, notHeld, notTaken⟩ := (mem c).mp inFree
    rcases (among c).mp mem' with held | here
    · exact notHeld held
    · exact notTaken here
  · intro c
    rw [mem c]
    show _ ↔ 1 ≤ c ∧ c < ht'.maxSize ∧ ¬ (∃ i < ht.curSize + 1, ht'.heap i = c) ∧ ¬ False
    rw [maxEq, holds' c]
    tauto
  · show free.length + (ht.curSize + 1) + 1 = ht'.maxSize
    omega
  · show ht.curSize + 1 + 2 ≤ ht'.maxSize
    omega
  · show ht'.maxSize < 2 ^ 31
    rw [maxEq]
    exact small
  · show ht'.maxEntriesPerPoll = _
    rw [same]
    rfl

theorem Inserted.of_kept {ht'' : PjTimerHeap ε} {copy : PjTimerEntryDup ε} (kept : Kept ht ht')
    (inserted : Inserted ht' b copy ht'') : Inserted ht b copy ht'' := by
  obtain ⟨ok, fresh, positive, holds, maxEntries, copies⟩ := inserted
  refine ⟨ok, fun held => fresh ((kept.holds b).mpr held), positive, fun c => ?_, ?_, ?_⟩
  · rw [holds c, kept.holds c]
  · rw [maxEntries, kept.maxEntriesPerPoll]
  · rw [copies, kept.copies]

/-! ## The whole call -/

section Call

variable {timers : Timers ε}

/-- Growing is called for, and the memory or the width of an id is missing. -/
def GrowthFails (ht : PjTimerHeap ε) (memory : GrowMemory) : Prop :=
  ht.curSize + 2 ≥ ht.maxSize ∧ ¬ (memory = ⟨true, true, true⟩ ∧ ht.maxSize * 2 < 2 ^ 31)

/-- The entry as it is copied: with its new id. -/
def copyOf (timers : Timers ε) (entry : ε) (b : Nat) (expires : PjTimeVal) : PjTimerEntryDup ε :=
  ⟨{ timers.entries entry with timerId := b }, entry, expires⟩

theorem insertCopy_spec (timers : Timers ε) (entry : ε) (expires : PjTimeVal) (ready : Ready timers.ht b)
    (more : timers.ht.curSize + 2 < timers.ht.maxSize) (id : (timers.entries entry).timerId = b) :
    Inserted timers.ht b ⟨timers.entries entry, entry, expires⟩
      (insertCopy timers entry expires).ht := by
  unfold insertCopy
  rw [id]
  exact insert_reheap ready more id _ rfl

theorem insertNode_spec (entry : ε) (expires : PjTimeVal) (ready : Ready timers.ht b)
    (id : (timers.entries entry).timerId = b)
    (grows : ¬ GrowthFails timers.ht memory) :
    ∃ timers', insertNode timers entry expires memory = (timers', .success) ∧
      Inserted timers.ht b ⟨timers.entries entry, entry, expires⟩ timers'.ht ∧
      timers'.entries = timers.entries := by
  unfold insertNode
  by_cases full : timers.ht.curSize + 2 ≥ timers.ht.maxSize
  · rw [if_pos full]
    have granted : memory = ⟨true, true, true⟩ ∧ timers.ht.maxSize * 2 < 2 ^ 31 :=
      not_not.mp fun fails => grows ⟨full, fails⟩
    obtain ⟨ht', grown, ready', more, kept⟩ := growHeap_spec ready granted.1 granted.2
    rw [grown]
    have inserted := insertCopy_spec { timers with ht := ht' } entry expires ready' more id
    exact ⟨_, rfl, inserted.of_kept kept, rfl⟩
  · rw [if_neg full]
    exact ⟨_, rfl, insertCopy_spec timers entry expires ready (by omega) id, rfl⟩

/-- An entry that is not running gets a node with a new id, unless growing fails. -/
theorem scheduleEntry_spec [DecidableEq ε] (ok : HeapOk timers.ht) (entry : ε) (expires : PjTimeVal)
    (grows : ¬ GrowthFails timers.ht memory) :
    ∃ timers' b, scheduleEntry timers entry expires memory = (timers', .success) ∧
      Inserted timers.ht b (copyOf timers entry b expires) timers'.ht ∧
      timers'.entries = (timers.setTimerId entry b).entries := by
  obtain ⟨b, popped, ready, kept⟩ := popFreelist_spec ok
  have room := ok.room
  have copyEq : ({ timers with ht := (popFreelist timers.ht).1 }.setTimerId entry b).entries entry =
      { timers.entries entry with timerId := b } := Function.update_self ..
  have ready' : Ready ({ timers with ht := (popFreelist timers.ht).1 }.setTimerId entry b).ht b :=
    ready
  obtain ⟨timers', done, inserted, entries⟩ :=
    insertNode_spec entry expires ready' (by rw [copyEq]) grows
  refine ⟨timers', b, ?_, ?_, entries⟩
  · unfold scheduleEntry
    rw [if_pos (by omega)]
    show insertNode ({ timers with ht := (popFreelist timers.ht).1 }.setTimerId entry
      (popFreelist timers.ht).2) entry expires memory = _
    rw [popped]
    exact done
  · rw [copyEq] at inserted
    exact inserted.of_kept kept

end Call

end Pjsip.Pjlib.Timer
