import Pjsip.Base.CInt
import Pjsip.Errno
import Pjsip.Pjlib.TimeVal

/-!
# The timer heap (`pj_timer_heap_t`)

`pj/timer.c` with `PJ_TIMER_USE_COPY` on and `PJ_TIMER_USE_LINKED_LIST` off. Arrays are functions
from their places, with whatever memory held beyond their ends. A pointer into `timer_dups` is its
place there; place 0 is never used and stands for `NULL`. The lock is released while a callback
runs: until it is done any other call may come. Timers are scheduled without a group lock.
-/

namespace Pjsip.Pjlib.Timer

open Pjsip.Base

structure PjTimerEntry where
  userData : Nat
  id : Int
  cb : Option Nat
  timerId : Int
  deriving DecidableEq, Repr

/-- `pj_timer_entry_dup`: the copy of a scheduled entry of the caller. -/
structure PjTimerEntryDup (ε : Type) where
  dup : PjTimerEntry
  entry : ε
  timerValue : PjTimeVal

structure PjTimerHeap (ε : Type) where
  maxSize : Nat
  curSize : Nat
  maxEntriesPerPoll : Nat
  heap : Nat → Nat
  timerIds : Nat → Int
  timerDups : Nat → PjTimerEntryDup ε
  timerIdsFreelist : Int

/-- The heap, and the entries that the callers own. -/
structure Timers (ε : Type) where
  ht : PjTimerHeap ε
  entries : ε → PjTimerEntry

variable {ε : Type} [DecidableEq ε]

def DEFAULT_MAX_TIMED_OUT_PER_POLL : Nat := 64

def heapParent (x : Nat) : Nat := if x = 0 then 0 else (x - 1) / 2

def heapLeft (x : Nat) : Nat := x + x + 1

/-- `node->_timer_value`. -/
def PjTimerHeap.value (ht : PjTimerHeap ε) (node : Nat) : PjTimeVal := (ht.timerDups node).timerValue

/-- `GET_FIELD(node, _timer_id)`. -/
def PjTimerHeap.timerId (ht : PjTimerHeap ε) (node : Nat) : Int := (ht.timerDups node).dup.timerId

/-! ## The arrays -/

def copyNode (ht : PjTimerHeap ε) (slot movedNode : Nat) : PjTimerHeap ε :=
  { ht with
    heap := Function.update ht.heap slot movedNode
    timerIds := Function.update ht.timerIds (ht.timerId movedNode).toNat (i32 slot) }

def popFreelist (ht : PjTimerHeap ε) : PjTimerHeap ε × Int :=
  let newId := ht.timerIdsFreelist
  ({ ht with timerIdsFreelist := -ht.timerIds ht.timerIdsFreelist.toNat }, newId)

def pushFreelist (ht : PjTimerHeap ε) (oldId : Int) : PjTimerHeap ε :=
  { ht with
    timerIds := Function.update ht.timerIds oldId.toNat (-ht.timerIdsFreelist)
    timerIdsFreelist := oldId }

/-- The loop of `reheap_down`; `child` grows in each round, so `cur_size` bounds them. -/
def reheapDown : Nat → PjTimerHeap ε → Nat → Nat → Nat → PjTimerHeap ε
  | 0, ht, movedNode, slot, _ => copyNode ht slot movedNode
  | rounds + 1, ht, movedNode, slot, child =>
    if child < ht.curSize then
      -- choose the smaller of the two children
      let child :=
        if child + 1 < ht.curSize ∧
            PjTimeVal.lt (ht.value (ht.heap (child + 1))) (ht.value (ht.heap child)) then child + 1
        else child
      if PjTimeVal.lt (ht.value (ht.heap child)) (ht.value movedNode) then
        reheapDown rounds (copyNode ht slot (ht.heap child)) movedNode child (heapLeft child)
      else copyNode ht slot movedNode
    else copyNode ht slot movedNode

/-- The loop of `reheap_up`; `slot` shrinks in each round and bounds them. -/
def reheapUp : Nat → PjTimerHeap ε → Nat → Nat → Nat → PjTimerHeap ε
  | 0, ht, movedNode, slot, _ => copyNode ht slot movedNode
  | rounds + 1, ht, movedNode, slot, parent =>
    if slot > 0 then
      if PjTimeVal.lt (ht.value movedNode) (ht.value (ht.heap parent)) then
        reheapUp rounds (copyNode ht slot (ht.heap parent)) movedNode parent (heapParent parent)
      else copyNode ht slot movedNode
    else copyNode ht slot movedNode

/-- The end of `remove_node`: the last node of the heap goes to the empty slot. -/
def refill (ht : PjTimerHeap ε) (slot : Nat) : PjTimerHeap ε :=
  if slot < ht.curSize then
    let movedNode := ht.heap ht.curSize
    let ht := copyNode ht slot movedNode
    let parent := heapParent slot
    if PjTimeVal.gte (ht.value movedNode) (ht.value (ht.heap parent)) then
      reheapDown ht.curSize ht movedNode slot (heapLeft slot)
    else reheapUp slot ht movedNode slot parent
  else ht

/-- A new `_timer_id` in the entry of the caller. -/
def Timers.setTimerId (timers : Timers ε) (entry : ε) (timerId : Int) : Timers ε :=
  { timers with
    entries := Function.update timers.entries entry { timers.entries entry with timerId := timerId } }

/-- A new `id` in the entry of the caller. -/
def Timers.setId (timers : Timers ε) (entry : ε) (id : Int) : Timers ε :=
  { timers with
    entries := Function.update timers.entries entry { timers.entries entry with id := id } }

/-- A new `_timer_id` in the copy. -/
def PjTimerHeap.setTimerId (ht : PjTimerHeap ε) (node : Nat) (timerId : Int) : PjTimerHeap ε :=
  { ht with
    timerDups := Function.update ht.timerDups node
      { ht.timerDups node with dup := { (ht.timerDups node).dup with timerId := timerId } } }

/-- The beginning of `remove_node`: the node gives its id back. -/
def release (ht : PjTimerHeap ε) (removedNode : Nat) : PjTimerHeap ε :=
  let ht := pushFreelist ht (ht.timerId removedNode)
  { ht with curSize := ht.curSize - 1 }.setTimerId removedNode (-1)

/-- `remove_node`; the node that it returns is the one that was at `slot`. -/
def removeNode (timers : Timers ε) (slot : Nat) : Timers ε × Nat :=
  let removedNode := timers.ht.heap slot
  let ht := release timers.ht removedNode
  let timers := timers.setTimerId (timers.ht.timerDups removedNode).entry (-1)
  ({ timers with ht := refill ht slot }, removedNode)

/-- Which of the allocations of `grow_heap` get memory from the pool. -/
structure GrowMemory where
  newHeap : Bool
  newTimerDups : Bool
  newTimerIds : Bool
  deriving DecidableEq, Repr

def growHeap (ht : PjTimerHeap ε) (memory : GrowMemory) : PjTimerHeap ε × PjStatus :=
  let newSize := ht.maxSize * 2
  if memory.newHeap = false then (ht, .enomem)
  else if memory.newTimerDups = false then (ht, .enomem)
  else
    -- the nodes keep their places in the new array of copies
    let ht := { ht with heap := fun i => if i < ht.curSize then ht.heap i else 0 }
    if memory.newTimerIds = false then (ht, .enomem)
    else
      ({ ht with
          timerIds := fun i =>
            if ht.maxSize ≤ i ∧ i < newSize then -i32 (i + 1 : Nat) else ht.timerIds i
          maxSize := newSize }, .success)

/-- The end of `insert_node`: a copy of the entry goes into the heap. -/
def insertCopy (timers : Timers ε) (newNode : ε) (futureTime : PjTimeVal) : Timers ε :=
  let node := (timers.entries newNode).timerId.toNat
  let ht := { timers.ht with
    timerDups := Function.update timers.ht.timerDups node
      ⟨timers.entries newNode, newNode, futureTime⟩ }
  let ht := reheapUp ht.curSize ht node ht.curSize (heapParent ht.curSize)
  { timers with ht := { ht with curSize := ht.curSize + 1 } }

def insertNode (timers : Timers ε) (newNode : ε) (futureTime : PjTimeVal) (memory : GrowMemory) :
    Timers ε × PjStatus :=
  if timers.ht.curSize + 2 ≥ timers.ht.maxSize then
    let (ht, status) := growHeap timers.ht memory
    if status ≠ .success then ({ timers with ht := ht }, status)
    else (insertCopy { timers with ht := ht } newNode futureTime, .success)
  else (insertCopy timers newNode futureTime, .success)

def scheduleEntry (timers : Timers ε) (entry : ε) (futureTime : PjTimeVal) (memory : GrowMemory) :
    Timers ε × PjStatus :=
  if timers.ht.curSize < timers.ht.maxSize then
    let (ht, timerId) := popFreelist timers.ht
    insertNode ({ timers with ht := ht }.setTimerId entry timerId) entry futureTime memory
  else (timers, .raw (-1))

/-- `cancel`, with `F_DONT_CALL` as its only caller sets it. -/
def cancel (timers : Timers ε) (entry : ε) : Timers ε × Int :=
  let timerNodeSlot := timers.ht.timerIds (timers.entries entry).timerId.toNat
  if timerNodeSlot < 0 then (timers.setTimerId entry (-1), 0)
  else if entry ≠ (timers.ht.timerDups (timers.ht.heap timerNodeSlot.toNat)).entry then
    (timers.setTimerId entry (-1), 0)
  else ((removeNode timers timerNodeSlot.toNat).1, 1)

/-! ## The interface -/

/-- `pj_timer_heap_create`, when every allocation gets its memory. -/
def pjTimerHeapCreate (memory : PjTimerHeap ε) (size : Nat) : PjTimerHeap ε :=
  let size := size + 2
  { maxSize := size
    curSize := 0
    maxEntriesPerPoll := DEFAULT_MAX_TIMED_OUT_PER_POLL
    heap := fun _ => 0
    timerIds := fun i => if i < size then -i32 (i + 1 : Nat) else memory.timerIds i
    timerDups := memory.timerDups
    timerIdsFreelist := 1 }

def pjTimerHeapSetMaxTimedOutPerPoll (ht : PjTimerHeap ε) (count : Nat) : PjTimerHeap ε :=
  { ht with maxEntriesPerPoll := count }

def pjTimerEntryInit (id : Int) (userData : Nat) (cb : Nat) : PjTimerEntry :=
  { userData := userData, id := id, cb := some cb, timerId := -1 }

def pjTimerEntryRunning (entry : PjTimerEntry) : Prop := entry.timerId ≥ 1

instance (entry : PjTimerEntry) : Decidable (pjTimerEntryRunning entry) :=
  inferInstanceAs (Decidable (_ ≥ _))

/-- `pj_timer_heap_schedule`; `now` is what the clock shows. -/
def pjTimerHeapSchedule (timers : Timers ε) (entry : ε) (delay now : PjTimeVal)
    (memory : GrowMemory) : Timers ε × PjStatus :=
  if (timers.entries entry).cb = none then (timers, .einval)
  else
    let expires := now.add delay
    if pjTimerEntryRunning (timers.entries entry) then (timers, .einvalidop)
    else scheduleEntry timers entry expires memory

/-- `cancel_timer`; with `F_SET_ID` there is a new `id`. -/
def cancelTimer (timers : Timers ε) (entry : ε) (idVal : Option Int) : Timers ε × Int :=
  let timerId := (timers.entries entry).timerId
  if timerId < 1 ∨ timerId ≥ timers.ht.maxSize then (timers, 0)
  else
    let (timers, count) := cancel timers entry
    match idVal with
    | some id => (if count > 0 then timers.setId entry id else timers, count)
    | none => (timers, count)

def pjTimerHeapCancel (timers : Timers ε) (entry : ε) : Timers ε × Int :=
  cancelTimer timers entry none

def pjTimerHeapCancelIfActive (timers : Timers ε) (entry : ε) (idVal : Int) : Timers ε × Int :=
  cancelTimer timers entry (some idVal)

/-! ## Polling -/

/-- The local variables of a poll whose callback is running. -/
structure Polling where
  count : Nat
  now : PjTimeVal
  minTimeNode : PjTimeVal
  /-- whether the caller asked for `next_delay` -/
  nextDelay : Bool
  deriving DecidableEq, Repr

inductive Answer (ε : Type) where
  | status (rv : PjStatus)
  | count (count : Int)
  /-- a poll that calls back an entry, with the time that it goes by -/
  | fired (entry : ε) (now : PjTimeVal)
  /-- a poll that removed an entry which it does not call back -/
  | skipped (entry : ε)
  /-- a poll that returns; the times are the one it went by and the last one it read -/
  | returned (count : Nat) (nextDelay : Option PjTimeVal) (now last : Option PjTimeVal)
  deriving DecidableEq, Repr

structure Machine (ε : Type) where
  timers : Timers ε
  polling : Option Polling

/-- The end of `pj_timer_heap_poll`; `later` is what the clock shows there. -/
def pollEnd (timers : Timers ε) (poll : Polling) (later : PjTimeVal) : Answer ε :=
  if timers.ht.curSize ≠ 0 ∧ poll.nextDelay then
    let now := if poll.count > 0 then later else poll.now
    let nextDelay := (timers.ht.value (timers.ht.heap 0)).sub now
    let nextDelay := if nextDelay.sec < 0 ∨ nextDelay.msec < 0 then ⟨0, 0⟩ else nextDelay
    .returned poll.count (some nextDelay) (some poll.now) (some now)
  else if poll.nextDelay then
    .returned poll.count (some ⟨PJ_MAXINT32, PJ_MAXINT32⟩) (some poll.now) (some poll.now)
  else .returned poll.count none (some poll.now) (some poll.now)

/-- From the test of the loop in `pj_timer_heap_poll` to the next callback, or to the
end. -/
def pollLoop (timers : Timers ε) (poll : Polling) (later : PjTimeVal) : Machine ε × Answer ε :=
  if timers.ht.curSize ≠ 0 ∧ PjTimeVal.lte poll.minTimeNode poll.now ∧
      poll.count < timers.ht.maxEntriesPerPoll then
    let (timers, node) := removeNode timers 0
    let copy := timers.ht.timerDups node
    let entry := timers.entries copy.entry
    let valid := copy.dup.cb = entry.cb ∧ copy.dup.userData = entry.userData
    (⟨timers, some { poll with count := poll.count + 1 }⟩,
      if valid ∧ entry.cb ≠ none then .fired copy.entry poll.now else .skipped copy.entry)
  else (⟨timers, none⟩, pollEnd timers poll later)

def pjTimerHeapPoll (timers : Timers ε) (nextDelay : Bool) (now later : PjTimeVal) :
    Machine ε × Answer ε :=
  if timers.ht.curSize = 0 ∧ nextDelay then
    (⟨timers, none⟩, .returned 0 (some ⟨PJ_MAXINT32, PJ_MAXINT32⟩) none none)
  else
    let minTimeNode := if timers.ht.curSize ≠ 0 then timers.ht.value (timers.ht.heap 0) else ⟨0, 0⟩
    pollLoop timers ⟨0, now, minTimeNode, nextDelay⟩ later

/-- `pj_timer_heap_poll` goes on when its callback is done. -/
def pollOn (timers : Timers ε) (poll : Polling) (now later : PjTimeVal) : Machine ε × Answer ε :=
  let poll :=
    if timers.ht.curSize ≠ 0 then
      { poll with minTimeNode := timers.ht.value (timers.ht.heap 0), now := now }
    else poll
  pollLoop timers poll later

/-! ## One step -/

inductive Op (ε : Type) where
  | schedule (entry : ε) (delay now : PjTimeVal) (memory : GrowMemory)
  | cancel (entry : ε)
  | cancelIfActive (entry : ε) (idVal : Int)
  | poll (nextDelay : Bool) (now later : PjTimeVal)
  | callbackDone (now later : PjTimeVal)
  deriving DecidableEq, Repr

/-- One call, or the end of a callback. A poll is not begun within another. -/
def step (machine : Machine ε) : Op ε → Option (Machine ε × Answer ε)
  | .schedule entry delay now memory =>
    let (timers, status) := pjTimerHeapSchedule machine.timers entry delay now memory
    some ({ machine with timers := timers }, .status status)
  | .cancel entry =>
    let (timers, count) := pjTimerHeapCancel machine.timers entry
    some ({ machine with timers := timers }, .count count)
  | .cancelIfActive entry idVal =>
    let (timers, count) := pjTimerHeapCancelIfActive machine.timers entry idVal
    some ({ machine with timers := timers }, .count count)
  | .poll nextDelay now later =>
    match machine.polling with
    | none => some (pjTimerHeapPoll machine.timers nextDelay now later)
    | some _ => none
  | .callbackDone now later =>
    match machine.polling with
    | none => none
    | some poll => some (pollOn machine.timers poll now later)

end Pjsip.Pjlib.Timer
