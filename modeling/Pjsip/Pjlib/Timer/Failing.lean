import Pjsip.Pjlib.Timer.Moves

/-!
# Scheduling without memory

A call that has to grow the heap and gets no memory has taken an id from the free list by then and
written it into the entry. The arrays keep what they hold, whichever allocation fails.
-/

namespace Pjsip.Pjlib.Timer

open Pjsip.Base Pjsip.Base.FreeList

variable {ε : Type}

/-- The free list passes the id. -/
def PjTimerHeap.Free (ht : PjTimerHeap ε) (id : Nat) : Prop :=
  ∃ free : List Nat, Chain ht.timerIds ht.maxSize ht.timerIdsFreelist free ∧
    (∀ i ∈ free, i < ht.maxSize) ∧ id ∈ free

/-- Nothing is left of a call. -/
structure Undone (timers timers' : Timers ε) (entry : ε) : Prop where
  scheduled : ∀ e t, timers'.Scheduled e t ↔ timers.Scheduled e t
  index : ∀ b, timers.ht.Holds b → timers'.ht.timerIds b = timers.ht.timerIds b
  free : ∀ id, timers'.ht.Free id ↔ timers.ht.Free id
  idle : ¬ pjTimerEntryRunning (timers'.entries entry)

/-- What a call without memory leaves: the id that it took is in no list, and in the entry. -/
structure Stranded (timers timers' : Timers ε) (entry : ε) (b : Nat) : Prop where
  scheduled : ∀ e t, timers'.Scheduled e t ↔ timers.Scheduled e t
  index : ∀ c, timers.ht.Holds c → timers'.ht.timerIds c = timers.ht.timerIds c
  was : timers.ht.Free b
  free : ∀ id, timers'.ht.Free id ↔ timers.ht.Free id ∧ id ≠ b
  running : (timers'.entries entry).timerId = b

/-- A call gets as far as growing the heap, and one of the three allocations fails. -/
def NoMemory (timers : Timers ε) (entry : ε) (memory : GrowMemory) : Prop :=
  (timers.entries entry).cb ≠ none ∧ timers.ht.curSize < timers.ht.maxSize ∧
    timers.ht.curSize + 2 ≥ timers.ht.maxSize ∧ memory ≠ ⟨true, true, true⟩

/-! ## The lists of the ids -/

theorem chain_unique {links : Nat → Int} {stop : Nat} {first : Int} {free free' : List Nat}
    (chain : Chain links stop first free) (chain' : Chain links stop first free')
    (inside : ∀ i ∈ free, i < stop) (inside' : ∀ i ∈ free', i < stop) : free = free' := by
  induction free generalizing first free' with
  | nil =>
    have ended : first = stop := chain
    cases free' with
    | nil => rfl
    | cons i _ =>
      have here : first = i := chain'.1
      have low := inside' i (by simp)
      omega
  | cons i rest ih =>
    have here : first = i := chain.1
    cases free' with
    | nil =>
      have ended : first = stop := chain'
      have low := inside i (by simp)
      omega
    | cons j rest' =>
      have there : first = j := chain'.1
      obtain rfl : i = j := by omega
      rw [ih chain.2 chain'.2 (fun k mem => inside k (by simp [mem]))
        (fun k mem => inside' k (by simp [mem]))]

theorem free_iff {ht : PjTimerHeap ε} {taken : Nat → Prop} {free : List Nat}
    (ids : FreeIds ht taken free) (id : Nat) : ht.Free id ↔ id ∈ free := by
  have inside : ∀ i ∈ free, i < ht.maxSize := fun i mem => ((ids.mem i).1 mem).2.1
  constructor
  · rintro ⟨other, chain, below, mem⟩
    rwa [chain_unique ids.chain chain inside below]
  · intro mem
    exact ⟨free, ids.chain, inside, mem⟩

/-! ## The call -/

section Call

variable {timers : Timers ε} {memory : GrowMemory}

theorem growHeap_fails (ht : PjTimerHeap ε) (fails : memory ≠ ⟨true, true, true⟩) :
    ∃ heap, growHeap ht memory = ({ ht with heap := heap }, .enomem) ∧
      ∀ i < ht.curSize, heap i = ht.heap i := by
  obtain ⟨newHeap, newTimerDups, newTimerIds⟩ := memory
  cases newHeap with
  | false => exact ⟨ht.heap, rfl, fun _ _ => rfl⟩
  | true =>
    cases newTimerDups with
    | false => exact ⟨ht.heap, rfl, fun _ _ => rfl⟩
    | true =>
      cases newTimerIds with
      | false => exact ⟨_, rfl, fun i hi => if_pos hi⟩
      | true => exact absurd rfl fails

theorem insertNode_fails (timers : Timers ε) (entry : ε) (expires : PjTimeVal)
    (full : timers.ht.curSize + 2 ≥ timers.ht.maxSize) (fails : memory ≠ ⟨true, true, true⟩) :
    ∃ heap, insertNode timers entry expires memory =
        ({ timers with ht := { timers.ht with heap := heap } }, .enomem) ∧
      ∀ i < timers.ht.curSize, heap i = timers.ht.heap i := by
  obtain ⟨heap, failed, same⟩ := growHeap_fails timers.ht fails
  refine ⟨heap, ?_, same⟩
  unfold insertNode
  rw [if_pos full, failed]
  rfl

variable {entry : ε}

theorem insertNode_enomem {expires : PjTimeVal}
    (answer : (insertNode timers entry expires memory).2 = .enomem) :
    timers.ht.curSize + 2 ≥ timers.ht.maxSize ∧ memory ≠ ⟨true, true, true⟩ := by
  unfold insertNode at answer
  by_cases full : timers.ht.curSize + 2 ≥ timers.ht.maxSize
  · refine ⟨full, ?_⟩
    rintro rfl
    rw [if_pos full] at answer
    cases answer
  · rw [if_neg full] at answer
    cases answer

variable [DecidableEq ε]

theorem schedule_fails (idle : ¬ pjTimerEntryRunning (timers.entries entry))
    (fails : NoMemory timers entry memory) (delay now : PjTimeVal) :
    ∃ heap, pjTimerHeapSchedule timers entry delay now memory =
        ({ timers with ht := { (popFreelist timers.ht).1 with heap := heap } }.setTimerId entry
          timers.ht.timerIdsFreelist, .enomem) ∧
      ∀ i < timers.ht.curSize, heap i = timers.ht.heap i := by
  obtain ⟨called, below, full, missing⟩ := fails
  rw [pjTimerHeapSchedule, if_neg called]
  simp only [if_neg idle, scheduleEntry, if_pos below]
  exact insertNode_fails _ entry _ full missing

theorem enomem_fails {delay now : PjTimeVal}
    (answer : (pjTimerHeapSchedule timers entry delay now memory).2 = .enomem) :
    NoMemory timers entry memory := by
  unfold pjTimerHeapSchedule at answer
  by_cases called : (timers.entries entry).cb = none
  · simp [called] at answer
  · by_cases running : pjTimerEntryRunning (timers.entries entry)
    · simp [called, running] at answer
    · simp only [if_neg called, if_neg running, scheduleEntry] at answer
      by_cases below : timers.ht.curSize < timers.ht.maxSize
      · rw [if_pos below] at answer
        obtain ⟨full, missing⟩ := insertNode_enomem answer
        exact ⟨called, below, full, missing⟩
      · rw [if_neg below] at answer
        cases answer

theorem stranded (ok : HeapOk timers.ht) {heap : Nat → Nat}
    (same : ∀ i < timers.ht.curSize, heap i = timers.ht.heap i) :
    ∃ b, Stranded timers
      ({ timers with ht := { (popFreelist timers.ht).1 with heap := heap } }.setTimerId entry
        timers.ht.timerIdsFreelist) entry b := by
  obtain ⟨b, popped, ready, kept⟩ := popFreelist_spec ok
  obtain ⟨all, ids, -⟩ := ok.free
  obtain ⟨rest, left, -⟩ := ready.free
  have holds : ∀ c, (∃ i < timers.ht.curSize, heap i = c) ↔ timers.ht.Holds c := by
    intro c
    refine exists_congr fun i => and_congr_right fun hi => ?_
    rw [same i hi]
  refine ⟨b, fun e t => ?_, fun c held => rfl, ?_, fun id => ?_, ?_⟩
  · refine exists_congr fun c => and_congr (holds c) Iff.rfl
  · rw [free_iff ids, ids.mem]
    exact ⟨ready.taken.1, ready.taken.2.1, fun held => ready.taken.2.2 ((kept.holds b).2 held),
      not_false⟩
  · show (popFreelist timers.ht).1.Free id ↔ _
    rw [free_iff ids, free_iff left, ids.mem, left.mem, kept.holds id]
    show 1 ≤ id ∧ id < timers.ht.maxSize ∧ _ ∧ _ ↔ _
    tauto
  · show (Function.update timers.entries entry _ entry).timerId = _
    rw [Function.update_self]
    exact popped

/-- Scheduling is undone where it fails for want of memory: never, once an allocation has failed.
The set of the scheduled entries is kept even so. -/
theorem schedule_undone_iff (timers : Timers ε) (entry : ε) (delay now : PjTimeVal)
    (memory : GrowMemory) (idle : ¬ pjTimerEntryRunning (timers.entries entry))
    (listed : 1 ≤ timers.ht.timerIdsFreelist) :
    (((pjTimerHeapSchedule timers entry delay now memory).2 = .enomem →
        Undone timers (pjTimerHeapSchedule timers entry delay now memory).1 entry) ↔
      ¬ NoMemory timers entry memory) ∧
    (HeapOk timers.ht → NoMemory timers entry memory →
      ∃ b, Stranded timers (pjTimerHeapSchedule timers entry delay now memory).1 entry b) := by
  constructor
  · constructor
    · intro atomic fails
      obtain ⟨heap, done, -⟩ := schedule_fails idle fails delay now
      rw [done] at atomic
      refine (atomic rfl).idle ?_
      show (Function.update timers.entries entry _ entry).timerId ≥ 1
      rw [Function.update_self]
      exact listed
    · intro enough answer
      exact absurd (enomem_fails answer) enough
  · intro ok fails
    obtain ⟨heap, done, same⟩ := schedule_fails idle fails delay now
    rw [done]
    exact stranded ok same

end Call

/-- A heap for one entry, which is scheduled: the next one makes it grow. -/
def fullHeap : Timers Bool :=
  (pjTimerHeapSchedule (created usedMemory 1 64 fun _ => (0, 0, 0)).timers false ⟨3, 0⟩ ⟨10, 0⟩
    ⟨false, false, false⟩).1

/-- A second entry, with memory for all but the copies. -/
theorem schedule_stranded_small : fullHeap.Scheduled false ⟨13, 0⟩ ∧ ∃ b, Stranded fullHeap
    (pjTimerHeapSchedule fullHeap true ⟨5, 0⟩ ⟨10, 0⟩ ⟨true, false, true⟩).1 true b := by
  have ok := timersOk_created usedMemory 64 (fun _ : Bool => (0, 0, 0)) (by decide : 1 + 2 < 2 ^ 31)
  have first := pjTimerHeapSchedule_spec ok false ⟨3, 0⟩ ⟨10, 0⟩
    fun fails : MemoryRunsOut _ (.schedule false _ _ ⟨false, false, false⟩) =>
      absurd fails.2.2.1 (by decide)
  obtain ⟨rv, failed, wrong⟩ | ⟨timers, done, adds⟩ := first
  · exact absurd (congrArg Prod.snd failed).symm wrong
  · have here : fullHeap = timers := congrArg Prod.fst done
    rw [here]
    refine ⟨(adds.scheduled false _).2 (.inr ⟨rfl, rfl⟩), ?_⟩
    rw [← here]
    exact (schedule_undone_iff fullHeap true ⟨5, 0⟩ ⟨10, 0⟩ ⟨true, false, true⟩ (by decide)
      (by decide)).2 (here ▸ adds.ok.heap) ⟨Option.some_ne_none 0, by decide, by decide, by decide⟩

/-- The same without memory for the ids, the last of the three. -/
theorem schedule_not_undone :
    (pjTimerHeapSchedule smallHeap.timers true ⟨5, 0⟩ ⟨10, 0⟩ ⟨true, true, false⟩).2 = .enomem ∧
      ¬ Undone smallHeap.timers
        (pjTimerHeapSchedule smallHeap.timers true ⟨5, 0⟩ ⟨10, 0⟩ ⟨true, true, false⟩).1 true := by
  refine ⟨rfl, fun undone => undone.idle ?_⟩
  show (1 : Int) ≤ 1
  exact Int.le_refl 1

end Pjsip.Pjlib.Timer
