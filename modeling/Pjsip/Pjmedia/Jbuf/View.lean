import Pjsip.Pjmedia.Jbuf.Step

/-!
# The frame list as a map from sequence numbers

`held fl seq` is what the frame list holds under the number `seq`: the map is
what the jitter buffer is for, the ring is how it is kept. The lemmas say what
each frame-list operation does to the map.
-/

namespace Pjsip.Pjmedia.Jbuf

open Pjsip.Base Pjsip.Pjlib

/-- An occupied slot: a frame to play, or one that the playout skips. -/
structure Cell where
  discarded : Bool
  bytes : List UInt8
  len : Nat
  bitInfo : UInt32
  ts : UInt32
  deriving DecidableEq

/-- The slot of a frame just stored. -/
def Cell.ofFrame (frame : Frame) : Cell :=
  { discarded := false
    bytes := frame.bytes
    len := frame.bytes.length
    bitInfo := frame.bitInfo
    ts := frame.ts }

/-- The slot `pos` as it is to be played. -/
def JbFramelist.cell (fl : JbFramelist) (pos : Nat) : Option Cell :=
  if fl.frameType pos = .missing then none
  else some
    { discarded := fl.frameType pos != .normal
      bytes := (fl.content pos).take (fl.contentLen pos)
      len := fl.contentLen pos
      bitInfo := fl.bitInfo pos
      ts := fl.ts pos }

/-- What the list holds under the number `seq`. -/
def JbFramelist.held (fl : JbFramelist) (seq : Int) : Option Cell :=
  if fl.origin ≤ seq ∧ seq < fl.origin + fl.size then fl.cell (fl.slotOf seq) else none

variable {fl : JbFramelist}

theorem slotOf_place (fl : JbFramelist) (i : Nat) : fl.slotOf (fl.origin + i) = fl.place i := by
  unfold JbFramelist.slotOf JbFramelist.place Ring.slot
  congr 3
  omega

theorem held_place {i : Nat} (hi : i < fl.size) : fl.held (fl.origin + i) = fl.cell (fl.place i) := by
  rw [JbFramelist.held, if_pos (by omega), slotOf_place]

variable {seq index : Int}

theorem held_outside (out : seq < fl.origin ∨ fl.origin + fl.size ≤ seq) :
    fl.held seq = none :=
  if_neg (by omega)

theorem exists_place (low : fl.origin ≤ seq) (high : seq < fl.origin + fl.size) :
    ∃ i < fl.size, seq = fl.origin + i :=
  ⟨(seq - fl.origin).toNat, by omega, by omega⟩

theorem held_congr {fl' : JbFramelist} (low : fl'.origin ≤ seq ↔ fl.origin ≤ seq)
    (high : seq < fl'.origin + fl'.size ↔ seq < fl.origin + fl.size)
    (same : fl.origin ≤ seq → seq < fl.origin + fl.size →
      fl'.cell (fl'.slotOf seq) = fl.cell (fl.slotOf seq)) : fl'.held seq = fl.held seq := by
  unfold JbFramelist.held
  by_cases inside : fl.origin ≤ seq ∧ seq < fl.origin + fl.size
  · rw [if_pos inside, if_pos ⟨low.mpr inside.1, high.mpr inside.2⟩, same inside.1 inside.2]
  · rw [if_neg inside, if_neg (by rw [low, high]; exact inside)]

/-! ## Removing from the head -/

theorem removeSteps_cells (ok : FlShape fl) {count i : Nat}
    (inside : i < (removeSteps fl count).size) :
    (removeSteps fl count).cell ((removeSteps fl count).place i) =
      fl.cell (fl.place (count + i)) := by
  have inside : i < fl.size - count := inside
  have hsize := ok.size_le
  have kept := removeSteps_cell ok (show count ≤ fl.size by omega)
    (show count + i < fl.maxCount by omega)
  rw [if_neg (by omega), if_neg (by omega)] at kept
  rw [removeSteps_place]
  unfold JbFramelist.cell
  rw [kept.1, kept.2]
  rfl

theorem held_removeSteps (ok : FlShape fl) (last : fl.origin + fl.size < 2 ^ 31) {count : Nat}
    (hc : count ≤ fl.size) (seq : Int) :
    (removeSteps fl count).held seq = if seq < fl.origin + count then none else fl.held seq := by
  have originEq := removeSteps_origin ok last hc
  have sizeEq : (removeSteps fl count).size = fl.size - count := rfl
  have hsize := ok.size_le
  split
  · exact held_outside (.inl (by omega))
  · rename_i past
    by_cases high : seq < fl.origin + fl.size
    · obtain ⟨i, hi, rfl⟩ := exists_place (show fl.origin ≤ seq by omega) high
      have inside : i - count < (removeSteps fl count).size := by omega
      have here := held_place inside
      rw [show (removeSteps fl count).origin + ((i - count : Nat) : Int) = fl.origin + i by omega,
        removeSteps_cells ok inside, Nat.add_sub_cancel' (by omega)] at here
      rw [here, held_place hi]
    · rw [held_outside (.inr (by omega)), held_outside (.inr (by omega))]

theorem removeHead_numbers (ok : FlShape fl) (last : fl.origin + fl.size < 2 ^ 31) (count : Nat) :
    (jbFramelistRemoveHead fl count).1.origin = fl.origin + min count fl.size ∧
      (jbFramelistRemoveHead fl count).1.origin + (jbFramelistRemoveHead fl count).1.size =
        fl.origin + fl.size := by
  have low := ok.origin_int.1
  have moved : i32 (fl.origin + min count fl.size) = fl.origin + min count fl.size :=
    i32_of_bounds (by omega) (by omega)
  rw [removeHead_origin ok.origin_int, moved, removeHead_size]
  exact ⟨rfl, by omega⟩

theorem held_removeHead (ok : FlShape fl) (last : fl.origin + fl.size < 2 ^ 31) (count : Nat)
    (seq : Int) :
    (jbFramelistRemoveHead fl count).1.held seq =
      if seq < (jbFramelistRemoveHead fl count).1.origin then none else fl.held seq := by
  rw [(removeHead_numbers ok last count).1, removeHead_eq]
  split
  · rename_i hempty
    rw [hempty]
    split
    · rename_i below
      exact held_outside (.inl (by simpa using below))
    · rfl
  · exact held_removeSteps ok last (Nat.min_le_right _ _) seq

theorem Trimmed.held {fl' : JbFramelist} (trimmed : Trimmed fl fl') (ok : FlShape fl)
    (last : fl.origin + fl.size < 2 ^ 31) :
    fl.origin ≤ fl'.origin ∧ fl'.origin + fl'.size < 2 ^ 31 ∧
      ∀ seq, fl'.held seq = if seq < fl'.origin then none else fl.held seq := by
  induction trimmed with
  | here fl =>
    refine ⟨le_refl _, last, fun seq => ?_⟩
    split
    · exact held_outside (.inl (by omega))
    · rfl
  | @more fl fl' count _ ih =>
    obtain ⟨moved, same⟩ := removeHead_numbers ok last count
    obtain ⟨low, last', rest⟩ := ih (removeHead_shape ok count) (same ▸ last)
    refine ⟨by omega, last', fun seq => ?_⟩
    rw [rest seq, held_removeHead ok last]
    split_ifs <;> first | rfl | omega

/-! ## The head handed over -/

theorem takeHead_origin (ok : FlShape fl) (last : fl.origin + fl.size < 2 ^ 31)
    (nonempty : 0 < fl.size) (prevDiscarded : Bool) (size : Option Nat) :
    (takeHead fl prevDiscarded size).1.origin = fl.origin + 1 := by
  have low := ok.origin_int.1
  exact i32_of_bounds (by omega) (by omega)

theorem held_takeHead (ok : FlShape fl) (last : fl.origin + fl.size < 2 ^ 31)
    (nonempty : 0 < fl.size) (prevDiscarded : Bool) (size : Option Nat) (seq : Int) :
    (takeHead fl prevDiscarded size).1.held seq =
      if seq < fl.origin + 1 then none else fl.held seq := by
  have hsize := ok.size_le
  have originEq := takeHead_origin ok last nonempty prevDiscarded size
  have sizeEq : (takeHead fl prevDiscarded size).1.size = fl.size - 1 := rfl
  split
  · exact held_outside (.inl (by omega))
  · rename_i past
    by_cases high : seq < fl.origin + fl.size
    · obtain ⟨i, hi, rfl⟩ := exists_place (show fl.origin ≤ seq by omega) high
      have place : (takeHead fl prevDiscarded size).1.place (i - 1) = fl.place i := by
        have advanced := Ring.slot_advance fl.maxCount fl.head 1 (i - 1)
        rwa [Nat.add_sub_cancel' (by omega)] at advanced
      have inside : i - 1 < (takeHead fl prevDiscarded size).1.size := by omega
      have here := held_place inside
      rw [show (takeHead fl prevDiscarded size).1.origin + ((i - 1 : Nat) : Int) = fl.origin + i by
        omega, place] at here
      have other : fl.place i ≠ fl.head := by
        intro same
        have first : fl.place 0 = fl.head := Ring.slot_zero ok.head_lt
        have := Ring.slot_inj (show i < fl.maxCount by omega) ok.pos (same.trans first.symm)
        omega
      rw [here, held_place hi]
      unfold JbFramelist.cell
      simp only [takeHead, Function.update_of_ne other]
    · rw [held_outside (.inr (by omega)), held_outside (.inr (by omega))]

/-- A head answered as `NORMAL` is the frame held under the origin, cut to the
caller's buffer. -/
theorem takeHead_out (ok : FlShape fl) (nonempty : 0 < fl.size) {prevDiscarded : Bool}
    {size : Option Nat} (normal : (takeHead fl prevDiscarded size).2.type = .normal) :
    ∃ cell, fl.held fl.origin = some cell ∧ cell.discarded = false ∧
      (takeHead fl prevDiscarded size).2 =
        { type := .normal
          frame := some (cell.bytes.take (size.getD cell.len))
          size := some (min (size.getD cell.len) cell.len)
          bitInfo := some cell.bitInfo
          ts := some cell.ts
          seq := some fl.origin } := by
  have first : fl.place 0 = fl.head := Ring.slot_zero ok.head_lt
  have here := held_place nonempty
  rw [first, show fl.origin + ((0 : Nat) : Int) = fl.origin by omega] at here
  cases prevDiscarded with
  | true => exact absurd normal (show FrameType.missing ≠ .normal by decide)
  | false =>
    have typeEq : fl.frameType fl.head = .normal := normal
    have occupied : ¬ fl.frameType fl.head = .missing := by simp [typeEq]
    rw [JbFramelist.cell, if_neg occupied] at here
    refine ⟨_, here, by simp [typeEq], ?_⟩
    simp only [takeHead, Bool.false_eq_true, if_false, typeEq, List.take_take]

/-! ## Storing and discarding -/

theorem held_storeAt {distance : Nat} (ready : Ready fl index distance) (spans : Spans fl index)
    (frame : Frame) (seq : Int) :
    (storeAt fl index distance frame .normal).1.held seq =
      if seq = index then some (Cell.ofFrame frame) else fl.held seq := by
  have ok := ready.shape
  have hsize := ok.size_le
  have hd := ready.distance_lt
  have indexEq := ready.exact spans
  have free : ¬ fl.frameType ((fl.head + distance) % fl.maxCount) ≠ .missing :=
    not_not.mpr ready.free
  generalize hstored : (storeAt fl index distance frame .normal).1 = stored
  have originEq : stored.origin = fl.origin := by
    rw [← hstored]
    simp only [storeAt, if_neg free]
  have sizeEq : stored.size = if fl.size ≤ distance then distance + 1 else fl.size := by
    rw [← hstored]
    simp only [storeAt, if_neg free, ready.room spans]
  have placeEq : stored.place = fl.place := by
    rw [← hstored]
    simp only [storeAt, if_neg free]
    rfl
  have stays : ∀ pos, pos ≠ fl.place distance → stored.cell pos = fl.cell pos := by
    intro pos other
    have other : pos ≠ (fl.head + distance) % fl.maxCount := other
    rw [← hstored]
    unfold JbFramelist.cell
    simp only [storeAt, if_neg free, if_true, Function.update_of_ne other]
  have lands : stored.cell (fl.place distance) = some (Cell.ofFrame frame) := by
    rw [← hstored]
    unfold JbFramelist.cell JbFramelist.place Ring.slot
    simp [storeAt, if_neg free, Cell.ofFrame, memcpy]
  by_cases below : seq < fl.origin
  · rw [held_outside (.inl (by omega)), if_neg (by omega), held_outside (.inl below)]
  by_cases high : seq < fl.origin + stored.size
  · obtain ⟨i, hi, rfl⟩ : ∃ i < stored.size, seq = fl.origin + i :=
      ⟨(seq - fl.origin).toNat, by omega, by omega⟩
    rw [← originEq, held_place hi, originEq, placeEq]
    by_cases here : i = distance
    · subst here
      rw [lands, if_pos indexEq]
    · have inRing : i < fl.maxCount := by
        rw [sizeEq] at hi
        split at hi <;> omega
      have other : fl.place i ≠ fl.place distance := fun same => here (Ring.slot_inj inRing hd same)
      rw [stays _ other, if_neg (by omega)]
      by_cases inside : i < fl.size
      · rw [held_place inside]
      · -- a place between the old window and the frame stays empty
        rw [held_outside (.inr (by omega)), JbFramelist.cell,
          if_pos (ok.missing_of_le (by omega) inRing)]
  · have past : fl.size ≤ stored.size ∧ distance < stored.size := by
      rw [sizeEq]
      split <;> omega
    rw [held_outside (.inr (by omega)), if_neg (by omega), held_outside (.inr (by omega))]

theorem held_discard (ok : FlShape fl)
    (inside : fl.origin ≤ index ∧ index < i32 (fl.origin + i32 fl.size)) (seq : Int) :
    (seq = index →
      ∀ cell, (jbFramelistDiscard fl index).1.held seq = some cell → cell.discarded = true) ∧
    (seq ≠ index → (jbFramelistDiscard fl index).1.held seq = fl.held seq) := by
  have hsize := ok.size_le
  have high := ok.end_le
  have discarded : (jbFramelistDiscard fl index).1 =
      { fl with
        frameType := Function.update fl.frameType (fl.slotOf index) .discarded
        discardedNum := fl.discardedNum + 1 } := by
    simp only [jbFramelistDiscard, if_pos inside, JbFramelist.slotOf]
  rw [discarded]
  constructor
  · rintro rfl cell here
    rw [JbFramelist.held, if_pos ⟨inside.1, inside.2.trans_le high⟩] at here
    unfold JbFramelist.cell JbFramelist.slotOf at here
    simp only [Function.update_self, reduceCtorEq, if_false, Option.some.injEq] at here
    rw [← here]
    rfl
  · intro other
    refine held_congr (Iff.refl _) (Iff.refl _) fun low high => ?_
    have away : fl.slotOf seq ≠ fl.slotOf index := by
      intro same
      have := Ring.slot_inj (show (seq - fl.origin).toNat < fl.maxCount by omega)
        (show (index - fl.origin).toNat < fl.maxCount by omega) same
      omega
    show JbFramelist.cell _ (fl.slotOf seq) = _
    unfold JbFramelist.cell
    simp only [Function.update_of_ne away]

/-! ## Moving the origin -/

theorem held_withOrigin (fl : JbFramelist) (origin seq : Int) :
    ({ fl with origin := origin } : JbFramelist).held seq =
      fl.held (seq + (fl.origin - origin)) := by
  have shifted : seq + (fl.origin - origin) - fl.origin = seq - origin := by omega
  unfold JbFramelist.held JbFramelist.slotOf
  rw [shifted]
  by_cases inside : origin ≤ seq ∧ seq < origin + fl.size
  · rw [if_pos inside, if_pos (by omega)]
    rfl
  · rw [if_neg inside, if_neg (by omega)]

theorem held_empty (hempty : fl.size = 0) (seq : Int) : fl.held seq = none :=
  if_neg (by omega)

/-- A put of `index` that gives the frames held other numbers, or drops them: a
sequence restart or a jump too far. -/
def Renumbers (fl : JbFramelist) (index : Int) : Prop :=
  MAX_MISORDER ≤ fl.origin - index ∨
    fl.size ≠ 0 ∧ MAX_DROPOUT < index - fl.origin ∧ fl.maxCount ≤ index - fl.origin

instance (fl : JbFramelist) (index : Int) : Decidable (Renumbers fl index) :=
  inferInstanceAs (Decidable (_ ∨ _))

theorem Rebased.held {base : JbFramelist} (how : Rebased fl index base) (range : InRange fl index)
    (same : ¬ Renumbers fl index) :
    fl.origin ≤ base.origin ∧ ∀ seq, base.held seq = fl.held seq := by
  have ahead := i32_self range.ahead
  have behind := i32_self range.behind
  cases how with
  | inPlace => exact ⟨le_refl _, fun _ => rfl⟩
  | empty hempty later =>
    rw [ahead] at later
    exact ⟨Int.sub_nonneg.mp later,
      fun seq => by rw [held_withOrigin, held_empty hempty, held_empty hempty]⟩
  | restart far => exact absurd (.inl (behind ▸ far)) same
  | jumpBack far => exact absurd (.inl (behind ▸ far)) same
  | jumpAhead occupied far full =>
    rw [ahead] at far full
    exact absurd (.inr ⟨occupied, far, full⟩) same
  | full far => exact absurd (.inl (behind ▸ far)) same

theorem Rebased.shifted {base : JbFramelist} (how : Rebased fl index base) :
    ∃ shift : Int, ∀ seq cell, base.held seq = some cell → fl.held (seq + shift) = some cell := by
  have nothing : ∀ {base : JbFramelist}, base.size = 0 →
      ∀ seq cell, base.held seq = some cell → fl.held (seq + 0) = some cell := by
    intro base hempty seq cell here
    rw [held_empty hempty] at here
    exact absurd here (by simp)
  cases how with
  | inPlace => exact ⟨0, fun seq cell here => by rwa [Int.add_zero]⟩
  | empty hempty => exact ⟨0, nothing hempty⟩
  | restart =>
    refine ⟨fl.origin - i32 (index - fl.size), fun seq cell here => ?_⟩
    rwa [held_withOrigin] at here
  | jumpBack => exact ⟨0, nothing rfl⟩
  | jumpAhead => exact ⟨0, nothing rfl⟩
  | full => exact ⟨0, nothing rfl⟩

theorem Evicted.held {base ready : JbFramelist} (how : Evicted base index ready)
    (ok : FlShape base) (spans : Spans base index) :
    base.origin ≤ ready.origin ∧
      ∀ seq, ready.held seq = if seq < ready.origin then none else base.held seq := by
  have apart := i32_self spans.apart
  cases how with
  | nothing =>
    refine ⟨le_refl _, fun seq => ?_⟩
    split
    · exact held_outside (.inl (by omega))
    · rfl
  | some _ below _ =>
    have origin := removeSteps_origin ok spans.last below.le
    refine ⟨by omega, fun seq => ?_⟩
    rw [held_removeSteps ok spans.last below.le, origin]
  | all _ ahead =>
    have hempty : (removeSteps base base.size).size = 0 := Nat.sub_self _
    refine ⟨by simp only; omega, fun seq => ?_⟩
    rw [held_withOrigin, held_empty hempty]
    split
    · rfl
    · rename_i past
      have past : index ≤ seq := Int.not_lt.mp past
      exact (held_outside (.inr (by omega))).symm

end Pjsip.Pjmedia.Jbuf
