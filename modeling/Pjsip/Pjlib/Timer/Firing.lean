import Pjsip.Pjlib.Timer.Moves

/-!
# When timers fire

A run is told by its labels. The schedulings in it that have not ended are the
entries in the heap, and from that every other fact about firing follows.
-/

namespace Pjsip.Pjlib.Timer

open Pjsip.Base

variable {ε : Type}

/-! ## What the labels say -/

/-- The entry is scheduled to expire at `t`. -/
def Schedules (label : Op ε × Answer ε) (e : ε) (t : PjTimeVal) : Prop :=
  ∃ delay now memory, label = (.schedule e delay now memory, .status .success) ∧ t = now.add delay

/-- A poll that goes by the time `now` calls the entry back. -/
def Fires (label : Op ε × Answer ε) (e : ε) (now : PjTimeVal) : Prop := label.2 = .fired e now

/-- The entry is called back, or a cancel of it returns 1. -/
def Ends (label : Op ε × Answer ε) (e : ε) : Prop :=
  (∃ now, Fires label e now) ∨ Cancels e label.1 ∧ label.2 = .count 1

/-- The scheduling at `i` ends at `j`: the entry is not scheduled again in between. -/
def EndOf (tr : List (Op ε × Answer ε)) (i j : Nat) (e : ε) (t : PjTimeVal) : Prop :=
  ∃ first last, tr[i]? = some first ∧ tr[j]? = some last ∧ i < j ∧ Schedules first e t ∧
    Ends last e ∧ ∀ (k : Nat) label t', i < k → k < j → tr[k]? = some label → ¬ Schedules label e t'

/-- The entry has been scheduled, and nothing has ended that yet. -/
def Pending (tr : List (Op ε × Answer ε)) (e : ε) (t : PjTimeVal) : Prop :=
  ∃ (i : Nat) (label : Op ε × Answer ε), tr[i]? = some label ∧ Schedules label e t ∧
    ∀ (k : Nat) label', i < k → tr[k]? = some label' → ¬ Ends label' e ∧ ∀ t', ¬ Schedules label' e t'

def callbacks : List (Op ε × Answer ε) → Nat
  | [] => 0
  | (_, .fired _ _) :: rest => callbacks rest + 1
  | _ :: rest => callbacks rest

/-- The call of a poll. -/
def BeginsPoll (label : Op ε × Answer ε) : Prop :=
  ∃ nextDelay now later, label.1 = .poll nextDelay now later

/-- What a run promises to those who schedule entries. -/
structure FiringContract [DecidableEq ε] (start : Machine ε) (tr : List (Op ε × Answer ε)) :
    Prop where
  /-- A scheduling ends once at most. -/
  once : ∀ i j j' e t t', EndOf tr i j e t → EndOf tr i j' e t' → j = j'
  /-- Whatever ends is a scheduling, and no callback comes before its time. -/
  inTime : ∀ j label e, tr[j]? = some label → Ends label e →
    ∃ i t, EndOf tr i j e t ∧ ∀ now, Fires label e now → t ≤ now
  /-- The entry called back is the one in the heap that expires first. -/
  least : ∀ pre label post e now, tr = pre ++ label :: post → Fires label e now →
    ∃ machine t, Run step start pre machine ∧ machine.timers.Scheduled e t ∧
      ∀ e' t', machine.timers.Scheduled e' t' → t ≤ t'
  /-- A poll makes no more callbacks than it may. -/
  limit : ∀ pre poll post, tr = pre ++ poll ++ post → (∀ label ∈ poll.tail, ¬ BeginsPoll label) →
    callbacks poll ≤ start.timers.ht.maxEntriesPerPoll
  /-- A poll that returns below its limit leaves nothing that was due when its loop
  last read the clock. -/
  rest : ∀ pre label post count nextDelay now last, tr = pre ++ label :: post →
    label.2 = .returned count nextDelay now last → count < start.timers.ht.maxEntriesPerPoll →
    ∃ machine, Run step start (pre ++ [label]) machine ∧
      ∀ e t, machine.timers.Scheduled e t → ∃ read, now = some read ∧ read < t

/-! ## The labels of the moves -/

section Labels

variable {machine machine' : Machine ε} {op : Op ε} {answer : Answer ε}

theorem Cancels.unique {e e' : ε} (first : Cancels e op) (second : Cancels e' op) : e = e' := by
  cases first <;> cases second <;> rfl

/-- A label that schedules nothing and ends nothing. -/
def Quiet (label : Op ε × Answer ε) : Prop :=
  ∀ e, ¬ Ends label e ∧ ∀ t, ¬ Schedules label e t

theorem quiet_of_answer (poll : ∀ e now, answer ≠ .fired e now) (cancel : answer ≠ .count 1)
    (schedule : answer ≠ .status .success) : Quiet (op, answer) := by
  refine fun e => ⟨?_, ?_⟩
  · rintro (⟨now, fires⟩ | ⟨_, count⟩)
    · exact poll e now fires
    · exact cancel count
  · rintro t ⟨delay, now, memory, same, _⟩
    exact schedule (congrArg Prod.snd same)

theorem Moves.scheduled_iff (moves : Moves machine op answer machine') (e : ε) (t : PjTimeVal) :
    machine'.timers.Scheduled e t ↔ Schedules (op, answer) e t ∨
      machine.timers.Scheduled e t ∧ ¬ Ends (op, answer) e ∧ ∀ t', ¬ Schedules (op, answer) e t' := by
  have quiet : Quiet (op, answer) → machine'.timers = machine.timers →
      (machine'.timers.Scheduled e t ↔ Schedules (op, answer) e t ∨
        machine.timers.Scheduled e t ∧ ¬ Ends (op, answer) e ∧
          ∀ t', ¬ Schedules (op, answer) e t') := by
    intro quiet same
    rw [same]
    have here := quiet e
    tauto
  have ending : ∀ e' t₁, (∀ e'' t', ¬ Schedules (op, answer) e'' t') →
      (∀ e'', Ends (op, answer) e'' ↔ e'' = e') → Removes machine.timers e' t₁ machine'.timers →
      (machine'.timers.Scheduled e t ↔ Schedules (op, answer) e t ∨
        machine.timers.Scheduled e t ∧ ¬ Ends (op, answer) e ∧
          ∀ t', ¬ Schedules (op, answer) e t') := by
    intro e' t₁ silent ends removes
    have silentHere := silent e
    rw [removes.scheduled e t, ends e]
    tauto
  cases moves with
  | refused failed =>
    refine quiet (quiet_of_answer (by simp) (by simp) ?_) rfl
    simpa using failed
  | @scheduled entry delay now memory timers' adds =>
    have schedules : ∀ e' t', Schedules (.schedule entry delay now memory, .status .success) e' t' ↔
        e' = entry ∧ t' = now.add delay := by
      intro e' t'
      constructor
      · rintro ⟨delay', now', memory', same, rfl⟩
        cases same
        exact ⟨rfl, rfl⟩
      · rintro ⟨rfl, rfl⟩
        exact ⟨delay, now, memory, rfl, rfl⟩
    have silent : ¬ Ends (Op.schedule entry delay now memory, Answer.status .success) e := by
      rintro (⟨_, fires⟩ | ⟨cancels, _⟩)
      · cases fires
      · cases cancels
    rw [adds.scheduled e t, schedules e t]
    constructor
    · rintro (before | here)
      · by_cases same : e = entry
        · subst same
          exact absurd before (adds.fresh t)
        · exact .inr ⟨before, silent, fun t' here => same ((schedules e t').mp here).1⟩
      · exact .inl here
    · rintro (here | ⟨before, _⟩)
      · exact .inr here
      · exact .inl before
  | notFound cancels => exact quiet (quiet_of_answer (by simp) (by simp) (by simp)) rfl
  | @cancelled entry op t₁ timers' cancels removes =>
    refine ending entry t₁ ?_ (fun e'' => ?_) removes
    · rintro e'' t' ⟨_, _, _, same, _⟩
      cases congrArg Prod.snd same
    · constructor
      · rintro (⟨_, fires⟩ | ⟨cancels', _⟩)
        · cases fires
        · exact cancels'.unique cancels
      · rintro rfl
        exact .inr ⟨cancels, rfl⟩
  | @fired op count entry t₁ now timers' poll polls _ _ _ removes _ =>
    refine ending entry t₁ ?_ (fun e'' => ?_) removes
    · rintro e'' t' ⟨_, _, _, same, _⟩
      cases congrArg Prod.snd same
    · constructor
      · rintro (⟨_, fires⟩ | ⟨_, count⟩)
        · cases fires
          rfl
        · cases count
      · rintro rfl
        exact .inl ⟨now, rfl⟩
  | returned => exact quiet (quiet_of_answer (by simp) (by simp) (by simp)) rfl

theorem pending_snoc (tr : List (Op ε × Answer ε)) (label : Op ε × Answer ε) (e : ε)
    (t : PjTimeVal) : Pending (tr ++ [label]) e t ↔ Schedules label e t ∨
      Pending tr e t ∧ ¬ Ends label e ∧ ∀ t', ¬ Schedules label e t' := by
  constructor
  · rintro ⟨i, first, here, schedules, later⟩
    rcases Nat.lt_trichotomy i tr.length with inside | last | outside
    · rw [List.getElem?_append_left inside] at here
      refine .inr ⟨⟨i, first, here, schedules, fun k label' above there => ?_⟩, ?_⟩
      · refine later k label' above ?_
        rw [List.getElem?_append_left (List.getElem?_eq_some_iff.mp there).1]
        exact there
      · exact later tr.length label inside (by simp)
    · subst last
      rw [List.getElem?_append_right (Nat.le_refl _)] at here
      simp only [Nat.sub_self, List.getElem?_cons_zero, Option.some.injEq] at here
      subst here
      exact .inl schedules
    · have bound := (List.getElem?_eq_some_iff.mp here).1
      simp only [List.length_append, List.length_cons, List.length_nil] at bound
      omega
  · rintro (schedules | ⟨⟨i, first, here, schedules, later⟩, quiet⟩)
    · refine ⟨tr.length, label, by simp, schedules, fun k label' above there => ?_⟩
      have bound := (List.getElem?_eq_some_iff.mp there).1
      simp only [List.length_append, List.length_cons, List.length_nil] at bound
      omega
    · have inside := (List.getElem?_eq_some_iff.mp here).1
      refine ⟨i, first, by rw [List.getElem?_append_left inside]; exact here, schedules, ?_⟩
      intro k label' above there
      by_cases old : k < tr.length
      · rw [List.getElem?_append_left old] at there
        exact later k label' above there
      · have bound := (List.getElem?_eq_some_iff.mp there).1
        simp only [List.length_append, List.length_cons, List.length_nil] at bound
        obtain rfl : k = tr.length := by omega
        simp only [List.getElem?_concat_length, Option.some.injEq] at there
        subst there
        exact quiet

theorem Moves.maxEntriesPerPoll (moves : Moves machine op answer machine') :
    machine'.timers.ht.maxEntriesPerPoll = machine.timers.ht.maxEntriesPerPoll := by
  cases moves with
  | refused => rfl
  | scheduled adds => exact adds.maxEntriesPerPoll
  | notFound => rfl
  | cancelled _ removes => exact removes.maxEntriesPerPoll
  | fired _ _ _ _ removes => exact removes.maxEntriesPerPoll
  | returned => rfl

/-- What ends was scheduled; what fires was due, and nothing expires before it. -/
theorem Moves.ended (moves : Moves machine op answer machine') {e : ε} (ends : Ends (op, answer) e) :
    ∃ t, machine.timers.Scheduled e t ∧ ∀ now, Fires (op, answer) e now →
      t ≤ now ∧ ∀ e' t', machine.timers.Scheduled e' t' → t ≤ t' := by
  cases moves with
  | refused | scheduled =>
    rcases ends with ⟨_, fires⟩ | ⟨cancels, _⟩
    · cases fires
    · cases cancels
  | notFound | returned =>
    rcases ends with ⟨_, fires⟩ | ⟨_, count⟩
    · cases fires
    · cases count
  | cancelled cancels removes =>
    rcases ends with ⟨_, fires⟩ | ⟨cancels', _⟩
    · cases fires
    · obtain rfl := cancels.unique cancels'
      exact ⟨_, removes.was, fun now fires => by cases fires⟩
  | fired _ _ due least removes _ =>
    rcases ends with ⟨_, fires⟩ | ⟨_, count⟩
    · cases fires
      refine ⟨_, removes.was, fun now fires => ?_⟩
      cases fires
      exact ⟨due, least⟩
    · cases count

end Labels

/-! ## Runs -/

section Runs

variable {start machine machine' : Machine ε} {tr : List (Op ε × Answer ε)}

def Granted (machine : Machine ε) (op : Op ε) : Prop := ¬ MemoryRunsOut machine.timers op

/-- The state after a run, by its labels. -/
structure Tracked (limit : Nat) (tr : List (Op ε × Answer ε)) (machine : Machine ε) : Prop where
  ok : MachineOk machine
  pending : ∀ e t, Pending tr e t ↔ machine.timers.Scheduled e t
  most : machine.timers.ht.maxEntriesPerPoll = limit
  count : ∀ poll, machine.polling = some poll → poll.count ≤ limit

theorem tracked_created (memory : PjTimerHeap ε) {size : Nat} (limit : Nat)
    (init : ε → Int × Nat × Nat) (fits : size + 2 < 2 ^ 31) :
    Tracked limit [] (created memory size limit init) := by
  refine ⟨timersOk_created memory limit init fits, fun e t => ?_, rfl, fun poll same => ?_⟩
  · constructor
    · rintro ⟨i, label, here, _⟩
      cases here
    · intro scheduled
      exact absurd scheduled (scheduled_empty rfl e t)
  · cases same

variable {j limit : Nat} {label : Op ε × Answer ε}

theorem Pending.endOf {e : ε} {t : PjTimeVal}
    (pending : Pending (tr.take j) e t) (here : tr[j]? = some label) (ends : Ends label e) :
    ∃ i, EndOf tr i j e t ∧ ∀ k label', i < k → k < j → tr[k]? = some label' → ¬ Ends label' e := by
  obtain ⟨i, first, there, schedules, quiet⟩ := pending
  rw [List.getElem?_take] at there
  split at there
  · rename_i before
    have quiet' : ∀ (k : Nat) label', i < k → k < j → tr[k]? = some label' →
        ¬ Ends label' e ∧ ∀ t', ¬ Schedules label' e t' := by
      intro k label' above below within
      exact quiet k label' above (by rw [List.getElem?_take, if_pos below]; exact within)
    exact ⟨i, ⟨first, label, there, here, before, schedules, ends,
      fun k label' t' above below within => (quiet' k label' above below within).2 t'⟩,
      fun k label' above below within => (quiet' k label' above below within).1⟩
  · cases there

variable [DecidableEq ε]

theorem tracked_step {op : Op ε} {answer : Answer ε}
    (tracked : Tracked limit tr machine) (granted : Granted machine op)
    (taken : step machine op = some (machine', answer)) :
    Tracked limit (tr ++ [(op, answer)]) machine' := by
  obtain ⟨ok, pending, limitEq, count⟩ := tracked
  have moves := step_moves ok granted taken
  refine ⟨moves.machineOk ok, fun e t => ?_, moves.maxEntriesPerPoll.trans limitEq, ?_⟩
  · rw [pending_snoc, moves.scheduled_iff, pending]
  · cases moves with
    | refused | scheduled | notFound | cancelled => exact count
    | fired polls below _ _ _ counted =>
      intro poll' same
      cases same
      omega
    | returned =>
      intro poll' same
      cases same

theorem run_visit {pre post : List (Op ε × Answer ε)}
    (begun : Tracked limit [] start) (run : Run step start (pre ++ label :: post) machine)
    (granted : Along step Granted start ((pre ++ label :: post).map Prod.fst)) :
    ∃ before after, Run step start pre before ∧ Tracked limit pre before ∧
      Moves before label.1 label.2 after ∧ Run step start (pre ++ [label]) after := by
  obtain ⟨before, after, first, allowed, taken, grants, _⟩ := run.visit granted
  have tracked : Tracked limit pre before :=
    first.traced_along (fun _ _ _ _ _ tracked grants taken => tracked_step tracked grants taken)
      allowed begun
  exact ⟨before, after, first, tracked, step_moves tracked.ok grants taken, first.snoc taken⟩

theorem ends_pending (begun : Tracked limit [] start) (run : Run step start tr machine)
    (granted : Along step Granted start (tr.map Prod.fst))
    (here : tr[j]? = some label) {e : ε} (ends : Ends label e) :
    ∃ t, Pending (tr.take j) e t ∧ ∀ now, Fires label e now → t ≤ now := by
  obtain ⟨inside, same⟩ := List.getElem?_eq_some_iff.mp here
  have parts : tr = tr.take j ++ label :: tr.drop (j + 1) := by
    rw [← same, List.getElem_cons_drop, List.take_append_drop]
  rw [parts] at run granted
  obtain ⟨before, after, _, tracked, moves, _⟩ := run_visit begun run granted
  obtain ⟨t, scheduled, fires⟩ := moves.ended ends
  exact ⟨t, (tracked.pending e t).mpr scheduled, fun now fired => (fires now fired).1⟩

/-- A scheduling that ended at `j` is not the one that ends at a later `j'`. -/
theorem endOf_le (begun : Tracked limit [] start) (run : Run step start tr machine)
    (granted : Along step Granted start (tr.map Prod.fst)) {i j' : Nat} {e : ε} {t t' : PjTimeVal}
    (first : EndOf tr i j e t) (second : EndOf tr i j' e t') : j' ≤ j := by
  by_contra later
  obtain ⟨label, last, hereI, hereJ, before, schedules, ends, _⟩ := first
  obtain ⟨_, last', _, hereJ', before', _, ends', between⟩ := second
  obtain ⟨_, pending, _⟩ := ends_pending begun run granted hereJ' ends'
  obtain ⟨i', ⟨first', _, hereI', _, below, schedules', _, between'⟩, quiet⟩ :=
    pending.endOf hereJ' ends'
  -- the scheduling pending at `j'` is the one at `i`
  rcases Nat.lt_trichotomy i i' with less | same | greater
  · exact between i' first' _ less below hereI' schedules'
  · exact quiet j last (by omega) (by omega) hereJ ends
  · exact between' i label _ greater before' hereI schedules

/-- Between two calls of a poll there are no more callbacks than the first may make. -/
theorem callbacks_le {tr' : List (Op ε × Answer ε)}
    (tracked : Tracked limit tr machine) (run : Run step machine tr' machine')
    (granted : Along step Granted machine (tr'.map Prod.fst))
    (within : ∀ label ∈ tr', ¬ BeginsPoll label) :
    (machine.polling = none → callbacks tr' = 0) ∧
      ∀ poll, machine.polling = some poll → callbacks tr' + poll.count ≤ limit := by
  induction run generalizing tr with
  | nil s => exact ⟨fun _ => rfl, fun poll same => by simpa [callbacks] using tracked.count poll same⟩
  | @cons s s₁ s₂ op answer rest taken _ ih =>
    have tracked' := tracked_step tracked granted.1 taken
    obtain ⟨idle, going⟩ := ih tracked' (granted.2 s₁ answer taken)
      fun label mem => within label (by simp [mem])
    have notBegin := within (op, answer) (by simp)
    cases step_moves tracked.ok granted.1 taken with
    | refused | scheduled | notFound | cancelled => exact ⟨idle, going⟩
    | fired polls below _ _ _ counted =>
      cases polls with
      | begin => exact absurd ⟨_, _, _, rfl⟩ notBegin
      | goOn polling =>
        have onwards := going _ rfl
        refine ⟨fun idle => absurd (idle.symm.trans polling) (by simp), fun poll' same => ?_⟩
        rw [polling] at same
        cases same
        simp only [callbacks]
        omega
    | returned polls _ =>
      cases polls with
      | begin => exact absurd ⟨_, _, _, rfl⟩ notBegin
      | goOn polling =>
        have noCallbacks := idle rfl
        refine ⟨fun _ => noCallbacks, fun poll' same => ?_⟩
        have count := tracked.count poll' same
        simp only [callbacks, noCallbacks]
        omega

theorem poll_limit {pre poll post : List (Op ε × Answer ε)}
    (begun : Tracked limit [] start) (run : Run step start (pre ++ poll ++ post) machine)
    (granted : Along step Granted start ((pre ++ poll ++ post).map Prod.fst))
    (within : ∀ label ∈ poll.tail, ¬ BeginsPoll label) : callbacks poll ≤ limit := by
  cases poll with
  | nil => exact Nat.zero_le _
  | cons label rest =>
    rw [List.append_assoc, List.cons_append] at run granted
    obtain ⟨before, after, first, allowed, taken, grants, later⟩ := run.visit granted
    have tracked : Tracked limit pre before :=
      first.traced_along (fun _ _ _ _ _ tracked grants taken => tracked_step tracked grants taken)
        allowed begun
    have tracked' := tracked_step tracked grants taken
    obtain ⟨middle, onwards, _⟩ := later.split
    have granted' : Along step Granted after ((rest ++ post).map Prod.fst) := by
      rw [List.map_append, List.map_cons] at granted
      exact (granted.after first).2 after label.2 taken
    rw [List.map_append] at granted'
    obtain ⟨idle, going⟩ := callbacks_le tracked' onwards granted'.before within
    have upper : callbacks rest ≤ limit := by
      cases polling : after.polling with
      | none => simp [idle polling]
      | some poll =>
        have most := going poll polling
        omega
    have moves := step_moves tracked.ok grants taken
    obtain ⟨op, answer⟩ := label
    cases moves with
    | refused | scheduled | notFound | cancelled | returned => exact upper
    | fired _ _ _ _ _ counted =>
      have most := going _ rfl
      show callbacks rest + 1 ≤ limit
      omega

/-- The firing contract of a heap that gets memory whenever it has to grow. -/
theorem timer_firing (memory : PjTimerHeap ε) {size : Nat} (limit : Nat)
    (init : ε → Int × Nat × Nat) (fits : size + 2 < 2 ^ 31)
    (run : Run step (created memory size limit init) tr machine)
    (granted : Along step Granted (created memory size limit init) (tr.map Prod.fst)) :
    FiringContract (created memory size limit init) tr := by
  have begun := tracked_created memory limit init fits
  refine ⟨?_, ?_, ?_, ?_, ?_⟩
  · intro i j j' e t t' first second
    have below := endOf_le begun run granted first second
    have above := endOf_le begun run granted second first
    omega
  · intro j label e here ends
    obtain ⟨t, pending, due⟩ := ends_pending begun run granted here ends
    obtain ⟨i, endOf, _⟩ := pending.endOf here ends
    exact ⟨i, t, endOf, due⟩
  · rintro pre label post e now rfl fires
    obtain ⟨before, after, first, tracked, moves, _⟩ := run_visit begun run granted
    obtain ⟨t, scheduled, least⟩ := moves.ended (.inl ⟨now, fires⟩)
    exact ⟨before, t, first, scheduled, (least now fires).2⟩
  · rintro pre poll post rfl within
    exact poll_limit begun run granted within
  · rintro pre ⟨op, answer⟩ post count nextDelay now last rfl returned below
    obtain ⟨before, after, first, tracked, moves, upTo⟩ := run_visit begun run granted
    cases returned
    cases moves with
    | returned polls rest =>
      refine ⟨_, upTo, rest ?_⟩
      rw [tracked.most]
      exact below

theorem timer_firing_grown : FiringContract smallHeap grownRun := by
  obtain ⟨machine, -, run⟩ := Run.of_trace grownRun_trace
  refine timer_firing usedMemory 64 (fun _ => (0, 0, 0)) (by decide) run ?_
  refine .cons (fun fails => fails.2.2.2 ⟨rfl, by decide⟩) rfl ?_
  refine .cons (fun fails => fails.2.2.2 ⟨rfl, by decide⟩) rfl ?_
  exact .cons (fun fails => fails) rfl trivial

/-- What an operation reads of the clock, in its order. -/
def readings : Op ε → List PjTimeVal
  | .schedule _ _ now _ => [now]
  | .poll _ now later | .callbackDone now later => [now, later]
  | .cancel _ | .cancelIfActive _ _ => []

/-- A poll whose loop ends at 12 s, and which then reads 20 s for `next_delay`. -/
def lateRun : List (Op Bool × Answer Bool) :=
  [(.schedule true ⟨1, 0⟩ ⟨10, 0⟩ ⟨true, true, true⟩, .status .success),
    (.schedule false ⟨5, 0⟩ ⟨10, 0⟩ ⟨true, true, true⟩, .status .success),
    (.poll true ⟨12, 0⟩ ⟨12, 0⟩, .fired true ⟨12, 0⟩),
    (.callbackDone ⟨12, 0⟩ ⟨20, 0⟩, .returned 1 (some ⟨0, 0⟩) (some ⟨12, 0⟩) (some ⟨20, 0⟩))]

/-- What expires between the last reading of the loop and that for `next_delay` stays. -/
theorem timer_firing_late : ((lateRun.map Prod.fst).flatMap readings).Pairwise PjTimeVal.lte ∧
      ∃ machine, Run step smallHeap lateRun machine ∧ 1 < machine.timers.ht.maxEntriesPerPoll ∧
        machine.timers.Scheduled false ⟨15, 0⟩ ∧ PjTimeVal.lte ⟨15, 0⟩ ⟨20, 0⟩ := by
  refine ⟨by decide, _, .cons rfl (.cons rfl (.cons rfl (.cons rfl (.nil _)))), ?_, ?_, by decide⟩
  · decide
  · exact ⟨2, ⟨0, by decide, rfl⟩, rfl, rfl⟩

end Runs

end Pjsip.Pjlib.Timer
