import Pjsip.Base.Run
import Pjsip.Pjlib.Timer.Schedule

/-!
# What one step can do

The heap together with the entries of the callers, and every move of the machine by
what it does to the set of scheduled entries. All that is said about runs follows
from the list of moves.
-/

namespace Pjsip.Pjlib.Timer

open Pjsip.Base Pjsip.Base.IndexedHeap

variable {ε : Type}

/-- A node of the heap is a copy of the entry, and expires at `t`. -/
def Timers.Scheduled (timers : Timers ε) (e : ε) (t : PjTimeVal) : Prop :=
  ∃ b, timers.ht.Holds b ∧ (timers.ht.timerDups b).entry = e ∧ timers.ht.value b = t

/-- The heap and the entries agree. -/
structure TimersOk (timers : Timers ε) : Prop where
  heap : HeapOk timers.ht
  owner : ∀ b, timers.ht.Holds b → (timers.entries (timers.ht.timerDups b).entry).timerId = b
  running : ∀ e, 1 ≤ (timers.entries e).timerId →
    ∃ b, timers.ht.Holds b ∧ (timers.ht.timerDups b).entry = e
  valid : ∀ b, timers.ht.Holds b →
    (timers.ht.timerDups b).dup.cb = (timers.entries (timers.ht.timerDups b).entry).cb ∧
      (timers.ht.timerDups b).dup.userData =
        (timers.entries (timers.ht.timerDups b).entry).userData ∧
      (timers.entries (timers.ht.timerDups b).entry).cb ≠ none

/-- One entry more. -/
structure Adds (timers : Timers ε) (e : ε) (t : PjTimeVal) (timers' : Timers ε) : Prop where
  ok : TimersOk timers'
  fresh : ∀ t', ¬ timers.Scheduled e t'
  scheduled : ∀ e' t', timers'.Scheduled e' t' ↔ timers.Scheduled e' t' ∨ e' = e ∧ t' = t
  maxEntriesPerPoll : timers'.ht.maxEntriesPerPoll = timers.ht.maxEntriesPerPoll

/-- One entry less. -/
structure Removes (timers : Timers ε) (e : ε) (t : PjTimeVal) (timers' : Timers ε) : Prop where
  ok : TimersOk timers'
  was : timers.Scheduled e t
  scheduled : ∀ e' t', timers'.Scheduled e' t' ↔ timers.Scheduled e' t' ∧ e' ≠ e
  maxEntriesPerPoll : timers'.ht.maxEntriesPerPoll = timers.ht.maxEntriesPerPoll

section Scheduled

variable {timers : Timers ε} {e : ε} {b : Nat}

theorem TimersOk.node_unique (ok : TimersOk timers) {c : Nat} (hb : timers.ht.Holds b)
    (hc : timers.ht.Holds c) (same : (timers.ht.timerDups b).entry = (timers.ht.timerDups c).entry) :
    b = c := by
  have first := ok.owner b hb
  rw [same, ok.owner c hc] at first
  exact_mod_cast first.symm

theorem TimersOk.running_iff (ok : TimersOk timers) :
    1 ≤ (timers.entries e).timerId ↔ ∃ b, timers.ht.Holds b ∧ (timers.ht.timerDups b).entry = e := by
  refine ⟨ok.running e, ?_⟩
  rintro ⟨b, held, rfl⟩
  rw [ok.owner b held]
  exact_mod_cast (ok.heap.range b held).1

theorem TimersOk.first (ok : TimersOk timers) (more : timers.ht.curSize ≠ 0) :
    timers.Scheduled (timers.ht.timerDups (timers.ht.heap 0)).entry
        (timers.ht.value (timers.ht.heap 0)) ∧
      ∀ e t, timers.Scheduled e t → timers.ht.value (timers.ht.heap 0) ≤ t := by
  refine ⟨⟨_, ⟨0, by omega, rfl⟩, rfl, rfl⟩, ?_⟩
  rintro e t ⟨b, ⟨i, hi, rfl⟩, rfl, rfl⟩
  exact ok.heap.heap.least hi

theorem scheduled_empty (empty : timers.ht.curSize = 0) (e : ε) (t : PjTimeVal) :
    ¬ timers.Scheduled e t := by
  rintro ⟨b, ⟨i, hi, _⟩, _⟩
  omega

end Scheduled

variable [DecidableEq ε] {timers : Timers ε} {e : ε}

theorem removeNode_spec (ok : TimersOk timers) {slot : Nat} (inside : slot < timers.ht.curSize)
    (here : (timers.ht.timerDups (timers.ht.heap slot)).entry = e) :
    Removes timers e (timers.ht.value (timers.ht.heap slot)) (removeNode timers slot).1 := by
  have removed := removed_refill ok.heap inside
  have result : (removeNode timers slot).1 = { timers.setTimerId e (-1) with
      ht := refill (release timers.ht (timers.ht.heap slot)) slot } := by
    rw [← here]
    rfl
  rw [result]
  generalize refill (release timers.ht (timers.ht.heap slot)) slot = ht' at removed
  obtain ⟨heapOk, holds, maxEntries, copies⟩ := removed
  have heldS : timers.ht.Holds (timers.ht.heap slot) := ⟨slot, inside, rfl⟩
  -- the copies that stay are as they were
  have copyOf : ∀ b, b ≠ timers.ht.heap slot → ht'.timerDups b = timers.ht.timerDups b := by
    intro b away
    rw [copies]
    exact Function.update_of_ne away ..
  have entryOf : ∀ b, ht'.Holds b → timers.ht.Holds b ∧ ht'.timerDups b = timers.ht.timerDups b ∧
      (timers.ht.timerDups b).entry ≠ e := by
    intro b held
    obtain ⟨before, away⟩ := (holds b).mp held
    refine ⟨before, copyOf b away, fun same => away ?_⟩
    exact ok.node_unique before heldS (same.trans here.symm)
  have entryOther : ∀ e', e' ≠ e → (timers.setTimerId e (-1)).entries e' = timers.entries e' :=
    fun e' away => Function.update_of_ne away ..
  refine ⟨⟨heapOk, ?_, ?_, ?_⟩, ⟨_, heldS, here, rfl⟩, ?_, maxEntries⟩
  · intro b held
    obtain ⟨before, copy, other⟩ := entryOf b held
    show ((timers.setTimerId e (-1)).entries (ht'.timerDups b).entry).timerId = b
    rw [copy, entryOther _ other]
    exact ok.owner b before
  · intro e' positive
    have away : e' ≠ e := by
      rintro rfl
      have cleared : ((timers.setTimerId e' (-1)).entries e').timerId = -1 := by
        simp [Timers.setTimerId]
      have positive : 1 ≤ ((timers.setTimerId e' (-1)).entries e').timerId := positive
      omega
    have positive : 1 ≤ ((timers.setTimerId e (-1)).entries e').timerId := positive
    rw [entryOther e' away] at positive
    obtain ⟨b, held, same⟩ := ok.running e' positive
    have off : b ≠ timers.ht.heap slot := by
      rintro rfl
      exact away (same.symm.trans here)
    refine ⟨b, (holds b).mpr ⟨held, off⟩, ?_⟩
    show (ht'.timerDups b).entry = e'
    rw [copyOf b off]
    exact same
  · intro b held
    obtain ⟨before, copy, other⟩ := entryOf b held
    show (ht'.timerDups b).dup.cb = ((timers.setTimerId e (-1)).entries _).cb ∧ _
    rw [copy, entryOther _ other]
    exact ok.valid b before
  · intro e' t'
    constructor
    · rintro ⟨b, held, rfl, rfl⟩
      obtain ⟨before, copy, other⟩ := entryOf b held
      have copy' : ht'.timerDups b = timers.ht.timerDups b := copy
      refine ⟨⟨b, before, ?_, ?_⟩, ?_⟩
      · show _ = (ht'.timerDups b).entry
        rw [copy']
      · show _ = (ht'.timerDups b).timerValue
        rw [copy']
        rfl
      · show (ht'.timerDups b).entry ≠ e
        rw [copy']
        exact other
    · rintro ⟨⟨b, held, rfl, rfl⟩, away⟩
      have off : b ≠ timers.ht.heap slot := by
        rintro rfl
        exact away here
      have copy := copyOf b off
      refine ⟨b, (holds b).mpr ⟨held, off⟩, ?_, ?_⟩
      · show (ht'.timerDups b).entry = _
        rw [copy]
      · show (ht'.timerDups b).timerValue = _
        rw [copy]
        rfl

theorem inserted_adds (ok : TimersOk timers) {b : Nat} {t : PjTimeVal} {timers' : Timers ε}
    (idle : ¬ 1 ≤ (timers.entries e).timerId) (callable : (timers.entries e).cb ≠ none)
    (inserted : Inserted timers.ht b (copyOf timers e b t) timers'.ht)
    (entries : timers'.entries = (timers.setTimerId e b).entries) : Adds timers e t timers' := by
  obtain ⟨heapOk, fresh, positive, holds, maxEntries, copies⟩ := inserted
  have notOwner : ∀ c, timers.ht.Holds c → (timers.ht.timerDups c).entry ≠ e := by
    rintro c held same
    exact idle (ok.running_iff.mpr ⟨c, held, same⟩)
  have copyNew : timers'.ht.timerDups b = copyOf timers e b t := by
    rw [copies]
    exact Function.update_self ..
  have copyOld : ∀ c, timers.ht.Holds c → timers'.ht.timerDups c = timers.ht.timerDups c := by
    intro c held
    rw [copies]
    refine Function.update_of_ne ?_ ..
    rintro rfl
    exact fresh held
  have entryNew : timers'.entries e = { timers.entries e with timerId := b } := by
    rw [entries]
    exact Function.update_self ..
  have entryOld : ∀ e', e' ≠ e → timers'.entries e' = timers.entries e' := by
    intro e' away
    rw [entries]
    exact Function.update_of_ne away ..
  refine ⟨⟨heapOk, ?_, ?_, ?_⟩, ?_, ?_, maxEntries⟩
  · intro c held
    rcases (holds c).mp held with before | rfl
    · rw [copyOld c before, entryOld _ (notOwner c before)]
      exact ok.owner c before
    · rw [copyNew]
      show (timers'.entries e).timerId = c
      rw [entryNew]
  · intro e' running
    by_cases here : e' = e
    · subst here
      exact ⟨b, (holds b).mpr (.inr rfl), by rw [copyNew]; rfl⟩
    · rw [entryOld e' here] at running
      obtain ⟨c, held, same⟩ := ok.running e' running
      exact ⟨c, (holds c).mpr (.inl held), by rw [copyOld c held, same]⟩
  · intro c held
    rcases (holds c).mp held with before | rfl
    · rw [copyOld c before, entryOld _ (notOwner c before)]
      exact ok.valid c before
    · rw [copyNew]
      show (timers.entries e).cb = (timers'.entries e).cb ∧
        (timers.entries e).userData = (timers'.entries e).userData ∧ (timers'.entries e).cb ≠ none
      rw [entryNew]
      exact ⟨rfl, rfl, callable⟩
  · rintro t' ⟨c, held, same, _⟩
    exact notOwner c held same
  · intro e' t'
    constructor
    · rintro ⟨c, held, rfl, rfl⟩
      rcases (holds c).mp held with before | rfl
      · refine .inl ⟨c, before, by rw [copyOld c before], ?_⟩
        unfold PjTimerHeap.value
        rw [copyOld c before]
      · unfold PjTimerHeap.value
        rw [copyNew]
        exact .inr ⟨rfl, rfl⟩
    · rintro (⟨c, before, rfl, rfl⟩ | ⟨rfl, rfl⟩)
      · refine ⟨c, (holds c).mpr (.inl before), by rw [copyOld c before], ?_⟩
        unfold PjTimerHeap.value
        rw [copyOld c before]
      · refine ⟨b, (holds b).mpr (.inr rfl), by rw [copyNew]; rfl, ?_⟩
        unfold PjTimerHeap.value
        rw [copyNew]
        rfl

/-! ## The operations -/

/-- A schedule is attempted and the heap cannot grow. -/
def MemoryRunsOut (timers : Timers ε) : Op ε → Prop
  | .schedule entry _ _ memory =>
    (timers.entries entry).cb ≠ none ∧ ¬ pjTimerEntryRunning (timers.entries entry) ∧
      GrowthFails timers.ht memory
  | _ => False

theorem pjTimerHeapSchedule_spec (ok : TimersOk timers) (e : ε) (delay now : PjTimeVal)
    {memory : GrowMemory} (granted : ¬ MemoryRunsOut timers (.schedule e delay now memory)) :
    (∃ rv, pjTimerHeapSchedule timers e delay now memory = (timers, rv) ∧ rv ≠ .success) ∨
      ∃ timers', pjTimerHeapSchedule timers e delay now memory = (timers', .success) ∧
        Adds timers e (now.add delay) timers' := by
  unfold pjTimerHeapSchedule
  by_cases callable : (timers.entries e).cb = none
  · rw [if_pos callable]
    exact .inl ⟨_, rfl, by simp⟩
  · rw [if_neg callable]
    by_cases running : pjTimerEntryRunning (timers.entries e)
    · simp only [if_pos running]
      exact .inl ⟨_, rfl, by simp⟩
    · simp only [if_neg running]
      have grows : ¬ GrowthFails timers.ht memory := fun fails => granted ⟨callable, running, fails⟩
      obtain ⟨timers', b, done, inserted, entries⟩ :=
        scheduleEntry_spec ok.heap e (now.add delay) grows
      exact .inr ⟨timers', done, inserted_adds ok running callable inserted entries⟩

theorem TimersOk.setId (ok : TimersOk timers) (e : ε) (id : Int) : TimersOk (timers.setId e id) := by
  have same : ∀ e', ((timers.setId e id).entries e').timerId = (timers.entries e').timerId ∧
      ((timers.setId e id).entries e').cb = (timers.entries e').cb ∧
      ((timers.setId e id).entries e').userData = (timers.entries e').userData := by
    intro e'
    by_cases here : e' = e
    · subst here
      simp [Timers.setId]
    · simp [Timers.setId, here]
  refine ⟨ok.heap, fun b held => ?_, fun e' running => ?_, fun b held => ?_⟩
  · rw [(same _).1]
    exact ok.owner b held
  · rw [(same e').1] at running
    exact ok.running e' running
  · rw [(same _).2.1, (same _).2.2]
    exact ok.valid b held

theorem cancelTimer_spec (ok : TimersOk timers) (e : ε) (idVal : Option Int) :
    (∃ t timers', cancelTimer timers e idVal = (timers', 1) ∧ Removes timers e t timers') ∨
      cancelTimer timers e idVal = (timers, 0) := by
  by_cases running : 1 ≤ (timers.entries e).timerId
  · obtain ⟨b, ⟨slot, inside, rfl⟩, here⟩ := ok.running e running
    have range := ok.heap.range _ ⟨slot, inside, rfl⟩
    have id := ok.owner _ ⟨slot, inside, rfl⟩
    rw [here] at id
    have placed := ok.heap.heap.placed slot inside
    have removes := removeNode_spec ok inside here
    have cancelled : cancel timers e = ((removeNode timers slot).1, 1) := by
      unfold cancel
      simp only [id, Int.toNat_natCast, placed]
      rw [if_neg (by omega), if_neg (by simpa using here.symm)]
    unfold cancelTimer
    simp only [id, cancelled]
    rw [if_neg (by omega)]
    cases idVal with
    | none => exact .inl ⟨_, _, rfl, removes⟩
    | some newId =>
      exact .inl ⟨_, (removeNode timers slot).1.setId e newId, rfl, removes.ok.setId e newId,
        removes.was, removes.scheduled, removes.maxEntriesPerPoll⟩
  · refine .inr ?_
    unfold cancelTimer
    rw [if_pos (.inl (by omega))]

/-! ## Polling -/

theorem removeNode_copy (ok : TimersOk timers) {slot : Nat} (inside : slot < timers.ht.curSize) :
    ((removeNode timers slot).1.ht.timerDups (timers.ht.heap slot)).entry =
        (timers.ht.timerDups (timers.ht.heap slot)).entry ∧
      ((removeNode timers slot).1.ht.timerDups (timers.ht.heap slot)).dup.cb =
        ((removeNode timers slot).1.entries (timers.ht.timerDups (timers.ht.heap slot)).entry).cb ∧
      ((removeNode timers slot).1.ht.timerDups (timers.ht.heap slot)).dup.userData =
        ((removeNode timers slot).1.entries
          (timers.ht.timerDups (timers.ht.heap slot)).entry).userData ∧
      ((removeNode timers slot).1.entries
        (timers.ht.timerDups (timers.ht.heap slot)).entry).cb ≠ none := by
  have copies := (removed_refill ok.heap inside).copies
  have copy : (removeNode timers slot).1.ht.timerDups (timers.ht.heap slot) =
      { timers.ht.timerDups (timers.ht.heap slot) with
        dup := { (timers.ht.timerDups (timers.ht.heap slot)).dup with timerId := -1 } } := by
    show (refill (release timers.ht (timers.ht.heap slot)) slot).timerDups _ = _
    rw [copies]
    exact Function.update_self ..
  have entry : (removeNode timers slot).1.entries
      (timers.ht.timerDups (timers.ht.heap slot)).entry =
        { timers.entries (timers.ht.timerDups (timers.ht.heap slot)).entry with timerId := -1 } :=
    Function.update_self ..
  rw [copy, entry]
  exact ⟨rfl, ok.valid _ ⟨slot, inside, rfl⟩⟩

/-- From the test of the loop a poll fires the first entry, if that is due and the
limit is not reached, or it returns. -/
theorem pollLoop_spec (ok : TimersOk timers) {poll : Polling} (later : PjTimeVal)
    (current : timers.ht.curSize ≠ 0 → poll.minTimeNode = timers.ht.value (timers.ht.heap 0)) :
    (∃ e t timers', pollLoop timers poll later =
        (⟨timers', some { poll with count := poll.count + 1 }⟩, .fired e poll.now) ∧
      poll.count < timers.ht.maxEntriesPerPoll ∧ t ≤ poll.now ∧
      (∀ e' t', timers.Scheduled e' t' → t ≤ t') ∧ Removes timers e t timers') ∨
    pollLoop timers poll later = (⟨timers, none⟩, pollEnd timers poll later) ∧
      (poll.count < timers.ht.maxEntriesPerPoll → ∀ e t, timers.Scheduled e t → poll.now < t) := by
  unfold pollLoop
  simp only [PjTimeVal.lte_iff]
  by_cases go : timers.ht.curSize ≠ 0 ∧ poll.minTimeNode ≤ poll.now ∧
      poll.count < timers.ht.maxEntriesPerPoll
  · obtain ⟨more, due, limit⟩ := go
    have inside : 0 < timers.ht.curSize := by omega
    obtain ⟨_, least⟩ := ok.first more
    have removes := removeNode_spec ok inside rfl
    obtain ⟨entry, cb, userData, callable⟩ := removeNode_copy ok inside
    refine .inl ⟨_, _, (removeNode timers 0).1, ?_, limit, current more ▸ due, least, removes⟩
    rw [if_pos ⟨more, due, limit⟩]
    show (_, if _ then _ else _) = _
    rw [show (removeNode timers 0).2 = timers.ht.heap 0 from rfl, entry]
    rw [if_pos ⟨⟨cb, userData⟩, callable⟩]
  · rw [if_neg go]
    refine .inr ⟨rfl, fun limit e t scheduled => ?_⟩
    by_cases more : timers.ht.curSize = 0
    · exact absurd scheduled (scheduled_empty more e t)
    · obtain ⟨_, least⟩ := ok.first more
      have late : poll.now < poll.minTimeNode := not_le.mp fun due => go ⟨more, due, limit⟩
      rw [current more] at late
      exact lt_of_lt_of_le late (least e t scheduled)

/-- The operation runs the loop of a poll, which has called back `count` entries. -/
inductive Polls (machine : Machine ε) : Op ε → Nat → Prop
  | begin {nextDelay : Bool} {now later : PjTimeVal} (idle : machine.polling = none) :
      Polls machine (.poll nextDelay now later) 0
  | goOn {poll : Polling} {now later : PjTimeVal} (polling : machine.polling = some poll) :
      Polls machine (.callbackDone now later) poll.count

/-- The operation is a call that cancels the entry. -/
inductive Cancels (e : ε) : Op ε → Prop
  | cancel : Cancels e (.cancel e)
  | ifActive (idVal : Int) : Cancels e (.cancelIfActive e idVal)

/-- The moves of the machine. -/
inductive Moves (machine : Machine ε) : Op ε → Answer ε → Machine ε → Prop
  | refused {e : ε} {delay now : PjTimeVal} {memory : GrowMemory} {rv : PjStatus}
      (failed : rv ≠ .success) :
      Moves machine (.schedule e delay now memory) (.status rv) machine
  | scheduled {e : ε} {delay now : PjTimeVal} {memory : GrowMemory} {timers' : Timers ε}
      (adds : Adds machine.timers e (now.add delay) timers') :
      Moves machine (.schedule e delay now memory) (.status .success)
        { machine with timers := timers' }
  | notFound {e : ε} {op : Op ε} (cancels : Cancels e op) : Moves machine op (.count 0) machine
  | cancelled {e : ε} {op : Op ε} {t : PjTimeVal} {timers' : Timers ε} (cancels : Cancels e op)
      (removes : Removes machine.timers e t timers') :
      Moves machine op (.count 1) { machine with timers := timers' }
  | fired {op : Op ε} {count : Nat} {e : ε} {t now : PjTimeVal} {timers' : Timers ε} {poll : Polling}
      (polls : Polls machine op count) (limit : count < machine.timers.ht.maxEntriesPerPoll)
      (due : t ≤ now) (least : ∀ e' t', machine.timers.Scheduled e' t' → t ≤ t')
      (removes : Removes machine.timers e t timers') (counted : poll.count = count + 1) :
      Moves machine op (.fired e now) ⟨timers', some poll⟩
  | returned {op : Op ε} {count : Nat} {nextDelay now last : Option PjTimeVal}
      (polls : Polls machine op count)
      (rest : count < machine.timers.ht.maxEntriesPerPoll →
        ∀ e t, machine.timers.Scheduled e t → ∃ read, now = some read ∧ read < t) :
      Moves machine op (.returned count nextDelay now last) ⟨machine.timers, none⟩

theorem moves_loop {machine : Machine ε} (ok : TimersOk machine.timers) {op : Op ε} {poll : Polling}
    (polls : Polls machine op poll.count) (later : PjTimeVal)
    (current : machine.timers.ht.curSize ≠ 0 →
      poll.minTimeNode = machine.timers.ht.value (machine.timers.ht.heap 0)) :
    Moves machine op (pollLoop machine.timers poll later).2 (pollLoop machine.timers poll later).1 := by
  rcases pollLoop_spec ok later current with
    ⟨e, t, timers', fired, limit, due, least, removes⟩ | ⟨returned, rest⟩
  · rw [fired]
    exact .fired polls limit due least removes rfl
  · rw [returned]
    unfold pollEnd
    have rest' : poll.count < machine.timers.ht.maxEntriesPerPoll →
        ∀ e t, machine.timers.Scheduled e t → ∃ read, some poll.now = some read ∧ read < t :=
      fun limit e t scheduled => ⟨_, rfl, rest limit e t scheduled⟩
    split
    · exact .returned polls rest'
    · split
      · exact .returned polls rest'
      · exact .returned polls rest'

theorem step_moves {machine machine' : Machine ε} {op : Op ε} {answer : Answer ε}
    (ok : TimersOk machine.timers) (granted : ¬ MemoryRunsOut machine.timers op)
    (taken : step machine op = some (machine', answer)) : Moves machine op answer machine' := by
  cases op with
  | schedule e delay now memory =>
    rcases pjTimerHeapSchedule_spec ok e delay now granted with
      ⟨rv, refused, failed⟩ | ⟨timers', done, adds⟩
    · simp only [step, refused, Option.some.injEq, Prod.mk.injEq] at taken
      obtain ⟨rfl, rfl⟩ := taken
      exact .refused failed
    · simp only [step, done, Option.some.injEq, Prod.mk.injEq] at taken
      obtain ⟨rfl, rfl⟩ := taken
      exact .scheduled adds
  | cancel e =>
    rcases cancelTimer_spec ok e none with ⟨t, timers', done, removes⟩ | idle
    · simp only [step, pjTimerHeapCancel, done, Option.some.injEq, Prod.mk.injEq] at taken
      obtain ⟨rfl, rfl⟩ := taken
      exact .cancelled .cancel removes
    · simp only [step, pjTimerHeapCancel, idle, Option.some.injEq, Prod.mk.injEq] at taken
      obtain ⟨rfl, rfl⟩ := taken
      exact .notFound .cancel
  | cancelIfActive e idVal =>
    rcases cancelTimer_spec ok e (some idVal) with ⟨t, timers', done, removes⟩ | idle
    · simp only [step, pjTimerHeapCancelIfActive, done, Option.some.injEq, Prod.mk.injEq] at taken
      obtain ⟨rfl, rfl⟩ := taken
      exact .cancelled (.ifActive idVal) removes
    · simp only [step, pjTimerHeapCancelIfActive, idle, Option.some.injEq, Prod.mk.injEq] at taken
      obtain ⟨rfl, rfl⟩ := taken
      exact .notFound (.ifActive idVal)
  | poll nextDelay now later =>
    cases idle : machine.polling with
    | some poll =>
      simp only [step, idle] at taken
      cases taken
    | none =>
      simp only [step, idle, pjTimerHeapPoll] at taken
      split at taken
      · rename_i empty
        cases taken
        refine .returned (.begin idle) fun _ e t scheduled => ?_
        exact absurd scheduled (scheduled_empty empty.1 e t)
      · have begins : Polls machine (.poll nextDelay now later)
            (⟨0, now, if machine.timers.ht.curSize ≠ 0 then
              machine.timers.ht.value (machine.timers.ht.heap 0) else ⟨0, 0⟩,
              nextDelay⟩ : Polling).count := .begin idle
        have loop := moves_loop ok begins later fun more => if_pos more
        rw [Option.some.inj taken] at loop
        exact loop
  | callbackDone now later =>
    cases polling : machine.polling with
    | none =>
      simp only [step, polling] at taken
      cases taken
    | some poll =>
      simp only [step, polling, pollOn] at taken
      have going : Polls machine (.callbackDone now later) poll.count := .goOn polling
      split at taken
      · have going' : Polls machine (.callbackDone now later) ({ poll with
            minTimeNode := machine.timers.ht.value (machine.timers.ht.heap 0)
            now := now } : Polling).count := going
        have loop := moves_loop ok going' later fun _ => rfl
        rw [Option.some.inj taken] at loop
        exact loop
      · rename_i empty
        have loop := moves_loop ok going later fun more => absurd more empty
        rw [Option.some.inj taken] at loop
        exact loop

end Pjsip.Pjlib.Timer

/-!
# Integrity of the timer heap

The heap order, the index of the ids, the free list and the entries agree in every
state of a run, those in which a callback is running included, as long as the heap
gets memory whenever it has to grow. A failed growth keeps the id it was for.
-/

namespace Pjsip.Pjlib.Timer

open Pjsip.Base Pjsip.Base.IndexedHeap Pjsip.Base.FreeList

variable {ε : Type}

/-- The three arrays and the entries agree. -/
structure Integrity (timers : Timers ε) : Prop where
  minHeap : ∀ i, 0 < i → i < timers.ht.curSize →
    PjTimeVal.lte (timers.ht.value (timers.ht.heap (heapParent i)))
      (timers.ht.value (timers.ht.heap i))
  index : ∀ i < timers.ht.curSize,
    timers.ht.timerIds (timers.ht.timerId (timers.ht.heap i)).toNat = i
  freelist : ∃ free : List Nat,
    Chain timers.ht.timerIds timers.ht.maxSize timers.ht.timerIdsFreelist free ∧ free.Nodup ∧
      ∀ id, id ∈ free ↔ 1 ≤ id ∧ id < timers.ht.maxSize ∧
        ∀ i < timers.ht.curSize, timers.ht.timerId (timers.ht.heap i) ≠ id
  running : ∀ e, 1 ≤ (timers.entries e).timerId ↔
    ∃ i < timers.ht.curSize, (timers.ht.timerDups (timers.ht.heap i)).entry = e

/-- A heap just created, with a limit for its polls and entries just initialised. -/
def created (memory : PjTimerHeap ε) (size limit : Nat) (init : ε → Int × Nat × Nat) : Machine ε :=
  { timers :=
      { ht := pjTimerHeapSetMaxTimedOutPerPoll (pjTimerHeapCreate memory size) limit
        entries := fun e => pjTimerEntryInit (init e).1 (init e).2.1 (init e).2.2 }
    polling := none }

def MachineOk (machine : Machine ε) : Prop := TimersOk machine.timers

section Invariant

variable {timers : Timers ε} {machine machine' : Machine ε}

theorem TimersOk.integrity (ok : TimersOk timers) : Integrity timers := by
  have idOf : ∀ i < timers.ht.curSize, timers.ht.timerId (timers.ht.heap i) = timers.ht.heap i :=
    fun i hi => ok.heap.named _ ⟨i, hi, rfl⟩
  refine ⟨fun i positive hi => ?_, fun i hi => ?_, ?_, fun e => ?_⟩
  · rw [PjTimeVal.lte_iff, heapParent_eq]
    exact ok.heap.heap.ordered i positive hi
  · rw [idOf i hi]
    exact ok.heap.heap.placed i hi
  · obtain ⟨free, ⟨chain, nodup, mem⟩, _⟩ := ok.heap.free
    refine ⟨free, chain, nodup, fun id => (mem id).trans ?_⟩
    constructor
    · rintro ⟨low, high, notHeld, _⟩
      refine ⟨low, high, fun i hi same => notHeld ⟨i, hi, ?_⟩⟩
      rw [idOf i hi] at same
      exact_mod_cast same
    · rintro ⟨low, high, other⟩
      refine ⟨low, high, ?_, not_false⟩
      rintro ⟨i, hi, rfl⟩
      exact other i hi (idOf i hi)
  · rw [ok.running_iff]
    constructor
    · rintro ⟨b, ⟨i, hi, rfl⟩, same⟩
      exact ⟨i, hi, same⟩
    · rintro ⟨i, hi, same⟩
      exact ⟨_, ⟨i, hi, rfl⟩, same⟩

theorem timersOk_created (memory : PjTimerHeap ε) {size : Nat} (limit : Nat)
    (init : ε → Int × Nat × Nat) (fits : size + 2 < 2 ^ 31) :
    TimersOk (created memory size limit init).timers := by
  have empty : ∀ b, ¬ (created memory size limit init).timers.ht.Holds b := by
    rintro b ⟨i, hi, _⟩
    exact absurd hi (Nat.not_lt_zero i)
  have linked : ∀ i, 1 ≤ i → i < 1 + (size + 1) →
      (if i < size + 2 then -i32 (i + 1 : Nat) else memory.timerIds i) = -(i + 1 : Nat) := by
    intro i low high
    rw [if_pos (by omega), i32_of_bounds (by omega) (by omega)]
  have chain := chain_range linked
  refine ⟨⟨⟨fun i _ hi => absurd hi (Nat.not_lt_zero i), fun i hi => absurd hi (Nat.not_lt_zero i)⟩,
    fun b held => absurd held (empty b), fun b held => absurd held (empty b),
    ⟨List.range' 1 (size + 1), ⟨?_, List.nodup_range', fun b => ?_⟩, ?_⟩, ?_, fits⟩,
    fun b held => absurd held (empty b), fun e running => ?_, fun b held => absurd held (empty b)⟩
  · rw [show 1 + (size + 1) = size + 2 by omega] at chain
    exact chain
  · rw [List.mem_range'_1]
    have unheld := empty b
    show 1 ≤ b ∧ b < 1 + (size + 1) ↔ 1 ≤ b ∧ b < size + 2 ∧ _ ∧ ¬ False
    constructor
    · rintro ⟨low, high⟩
      exact ⟨low, by omega, unheld, not_false⟩
    · rintro ⟨low, high, _⟩
      exact ⟨low, by omega⟩
  · rw [List.length_range']
    rfl
  · exact Nat.le_add_left 2 size
  · have idle : (1 : Int) ≤ -1 := running
    omega

theorem Moves.machineOk {op : Op ε} {answer : Answer ε} (ok : MachineOk machine)
    (moves : Moves machine op answer machine') : MachineOk machine' := by
  cases moves with
  | refused => exact ok
  | scheduled adds => exact adds.ok
  | notFound => exact ok
  | cancelled _ removes => exact removes.ok
  | fired _ _ _ _ removes => exact removes.ok
  | returned => exact ok

end Invariant

variable [DecidableEq ε]

/-- Integrity in every state of a run in which the heap can grow when it has to. -/
theorem timer_integrity (memory : PjTimerHeap ε) {size : Nat} (limit : Nat)
    (init : ε → Int × Nat × Nat) (fits : size + 2 < 2 ^ 31) {tr : List (Op ε × Answer ε)}
    {machine : Machine ε} (run : Run step (created memory size limit init) tr machine)
    (granted : Along step (fun m op => ¬ MemoryRunsOut m.timers op)
      (created memory size limit init) (tr.map Prod.fst)) : Integrity machine.timers := by
  have ok : MachineOk machine :=
    run.invariant_along (fun _ _ _ _ ok grants taken => (step_moves ok grants taken).machineOk ok)
      granted (timersOk_created memory limit init fits)
  exact TimersOk.integrity ok

/-- Memory for a heap, with whatever it held. -/
def usedMemory : PjTimerHeap Bool :=
  { maxSize := 9
    curSize := 9
    maxEntriesPerPoll := 9
    heap := fun _ => 9
    timerIds := fun _ => 9
    timerDups := fun _ => ⟨⟨9, 9, none, 9⟩, true, ⟨9, 9⟩⟩
    timerIdsFreelist := 9 }

/-- A heap for no entry at all, which grows at once. -/
def smallHeap : Machine Bool := created usedMemory 0 64 fun _ => (0, 0, 0)

/-- Two entries, for which the heap grows twice, and a poll that calls one of them. -/
def grownRun : List (Op Bool × Answer Bool) :=
  [(.schedule true ⟨5, 0⟩ ⟨10, 0⟩ ⟨true, true, true⟩, .status .success),
    (.schedule false ⟨3, 0⟩ ⟨10, 500⟩ ⟨true, true, true⟩, .status .success),
    (.poll true ⟨14, 0⟩ ⟨14, 0⟩, .fired false ⟨14, 0⟩)]

theorem grownRun_trace : trace step smallHeap (grownRun.map Prod.fst) = some grownRun := by
  decide +kernel

theorem timer_integrity_grown :
    ∃ machine, Run step smallHeap grownRun machine ∧ Integrity machine.timers := by
  obtain ⟨machine, -, run⟩ := Run.of_trace grownRun_trace
  refine ⟨machine, run, timer_integrity usedMemory 64 (fun _ => (0, 0, 0)) (by decide) run ?_⟩
  refine .cons (fun fails => fails.2.2.2 ⟨rfl, by decide⟩) rfl ?_
  refine .cons (fun fails => fails.2.2.2 ⟨rfl, by decide⟩) rfl ?_
  exact .cons (fun fails => fails) rfl trivial

/-- Without memory for the growth the entry passes for running and its id is lost. -/
theorem timer_integrity_fails : ∃ machine, Run step smallHeap
        [(.schedule true ⟨5, 0⟩ ⟨10, 0⟩ ⟨false, true, true⟩, .status .enomem)] machine ∧
      ¬ Integrity machine.timers := by
  refine ⟨_, .cons rfl (.nil _), fun integrity => ?_⟩
  obtain ⟨i, hi, _⟩ := (integrity.running true).mp (show (1 : Int) ≤ 1 by decide)
  exact absurd hi (Nat.not_lt_zero i)

end Pjsip.Pjlib.Timer
