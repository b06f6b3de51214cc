import Pjsip.Pjmedia.Jbuf.Model
import Pjsip.Pjmedia.Jbuf.Window

/-!
# What a put does to the frame list

`jb_framelist_put_at` refuses the frame, or moves the origin and stores the
frame in the window at its distance from it. The eviction loop of
`pjmedia_jbuf_put_frame3` runs at most one round.
-/

namespace Pjsip.Pjmedia.Jbuf

open Pjsip.Base Pjsip.Pjlib

/-- The frame lists in which `jb_framelist_put_at` looks for the slot of
`index`: in place, after the origin of an empty list moved, after a sequence
restart, or after a far jump. -/
inductive Rebased (fl : JbFramelist) (index : Int) : JbFramelist → Prop
  | inPlace : fl.size ≠ 0 → 0 ≤ i32 (index - fl.origin) → Rebased fl index fl
  | empty : fl.size = 0 → 0 ≤ i32 (index - fl.origin) →
      Rebased fl index { fl with origin := index }
  | restart : MAX_MISORDER ≤ i32 (fl.origin - index) →
      Rebased fl index { fl with origin := i32 (index - fl.size) }
  | jumpBack : MAX_MISORDER ≤ i32 (fl.origin - index) →
      Rebased fl index { jbFramelistReset fl with origin := index }
  | jumpAhead : fl.size ≠ 0 → MAX_DROPOUT < i32 (index - fl.origin) →
      fl.maxCount ≤ i32 (index - fl.origin) →
      Rebased fl index { jbFramelistReset fl with origin := index }
  | full : MAX_MISORDER ≤ i32 (fl.origin - index) → MAX_DROPOUT < fl.size →
      Rebased fl index { jbFramelistReset fl with origin := index }

section Rebase

variable {fl base : JbFramelist} {index : Int}

theorem Rebased.maxCount (how : Rebased fl index base) : base.maxCount = fl.maxCount := by
  cases how <;> rfl

theorem Rebased.frameSize (how : Rebased fl index base) : base.frameSize = fl.frameSize := by
  cases how <;> rfl

theorem Rebased.size_le (how : Rebased fl index base) : base.size ≤ fl.size := by
  cases how <;> first | exact le_refl _ | exact Nat.zero_le _

theorem Rebased.shape (how : Rebased fl index base) (ok : FlShape fl) (int : IsInt index) :
    FlShape base := by
  have cleared := reset_shape ok.pos ok.maxCount_int
  cases how with
  | inPlace => exact ok
  | empty => exact ok.withOrigin int
  | restart => exact ok.withOrigin (i32_range _)
  | jumpBack => exact cleared.withOrigin int
  | jumpAhead => exact cleared.withOrigin int
  | full => exact cleared.withOrigin int

theorem Rebased.counted (how : Rebased fl index base)
    (counted : fl.discardedNum = fl.windowDiscarded) :
    base.discardedNum = base.windowDiscarded := by
  cases how with
  | inPlace => exact counted
  | empty => exact counted
  | restart => exact counted
  | jumpBack => rfl
  | jumpAhead => rfl
  | full => rfl

/-- A frame refused as too late. -/
def TooLate (fl : JbFramelist) (index : Int) : Prop :=
  i32 (index - fl.origin) < 0 ∧ i32 (fl.origin - index) < MAX_MISORDER

theorem rebase_spec (ok : FlShape fl) (int : IsInt index) (inTime : ¬ TooLate fl index) :
    Rebased fl index (rebase fl index).1 ∧
      (0 ≤ (rebase fl index).2 ∧ (rebase fl index).2 < 2 ^ 31) ∧
      i32 ((rebase fl index).1.origin + (rebase fl index).2) = index ∧
      ((rebase fl index).1.size = 0 → (rebase fl index).2 = 0) ∧
      ((rebase fl index).2 = i32 (index - fl.origin) ∧ (rebase fl index).1 = fl ∧ fl.size ≠ 0 ∨
        (rebase fl index).1.size = 0 ∧ (rebase fl index).2 = 0 ∨
        (rebase fl index).2 = fl.size ∧ MAX_MISORDER ≤ i32 (fl.origin - index)) := by
  have start : i32 (index + 0) = index := by rw [Int.add_zero, i32_self int]
  have zero : (0 : Int) ≤ 0 ∧ (0 : Int) < 2 ^ 31 := by decide
  unfold TooLate at inTime
  unfold rebase
  by_cases behind : i32 (index - fl.origin) < 0
  · have far : MAX_MISORDER ≤ i32 (fl.origin - index) := by omega
    simp only [if_pos behind]
    split
    · by_cases hempty : fl.size = 0
      · have same : ({ fl with origin := index } : JbFramelist) =
            { fl with origin := i32 (index - fl.size) } := by simp [hempty, i32_self int]
        simp only [if_pos hempty]
        exact ⟨same ▸ .restart far, zero, start, by simp, by simp [hempty]⟩
      · have fits : (fl.size : Int) < 2 ^ 31 := by
          have := ok.size_le
          have := ok.maxCount_int
          omega
        simp only [if_neg hempty, ok.size_int]
        exact ⟨.restart far, ⟨Int.natCast_nonneg _, fits⟩, i32_sub_add int _,
          fun h => absurd h hempty, by simp [far]⟩
    · have hreset : (jbFramelistReset fl).size = 0 := rfl
      exact ⟨.jumpBack far, zero, start, by simp, by simp [hreset]⟩
  · have ahead : 0 ≤ i32 (index - fl.origin) := by omega
    simp only [if_neg behind]
    by_cases hempty : fl.size = 0
    · simp only [if_pos hempty]
      exact ⟨.empty hempty ahead, zero, start, by simp, by simp [hempty]⟩
    · have back : i32 (fl.origin + i32 (index - fl.origin)) = index := by
        rw [Int.add_comm, i32_sub_add int]
      simp only [if_neg hempty]
      exact ⟨.inPlace hempty ahead, ⟨ahead, (i32_range _).2⟩, back, fun h => absurd h hempty,
        by simp [hempty]⟩

end Rebase

/-- The list in which the frame `index` can be stored: its place is an empty
slot of the ring, and place and number agree. -/
structure Ready (fl : JbFramelist) (index : Int) (distance : Nat) : Prop where
  shape : FlShape fl
  distance_lt : distance < fl.maxCount
  index_eq : i32 (fl.origin + distance) = index
  first : fl.size = 0 → distance = 0
  free : fl.frameType (fl.place distance) = .missing

section PutAt

variable {fl : JbFramelist} {index : Int} {distance : Nat} {frame : Frame} {frameType : FrameType}

theorem storeAt_free (ready : Ready fl index distance) :
    (storeAt fl index distance frame frameType).2 = .success := by
  have free : ¬ fl.frameType ((fl.head + distance) % fl.maxCount) ≠ .missing :=
    not_not.mpr ready.free
  simp only [storeAt, if_neg free]

theorem storeAt_occupied (occupied : fl.frameType (fl.place distance) ≠ .missing) :
    storeAt fl index distance frame frameType = (fl, .eexists) := by
  have occupied : fl.frameType ((fl.head + distance) % fl.maxCount) ≠ .missing := occupied
  simp only [storeAt, if_pos occupied]

theorem Ready.of_past (ok : FlShape fl) (past : fl.size ≤ distance) (inRing : distance < fl.maxCount)
    (indexEq : i32 (fl.origin + distance) = index) (first : fl.size = 0 → distance = 0) :
    Ready fl index distance :=
  ⟨ok, inRing, indexEq, first, ok.missing_of_le past inRing⟩

/-- The outcomes of `jb_framelist_put_at` for a frame that fits a slot: refused
without a trace, too far ahead of a full buffer, or stored. -/
theorem putAt_cases (ok : FlShape fl) (int : IsInt index) (frame : Frame) (frameType : FrameType) :
    (∃ status, status ≠ .success ∧ status ≠ .etoomany ∧
      jbFramelistPutAt fl index frame frameType = (fl, status)) ∨
    (∃ base, Rebased fl index base ∧ base.size ≠ 0 ∧ base.maxCount ≤ i32 (index - base.origin) ∧
      i32 (index - base.origin) ≤ MAX_DROPOUT ∧
      jbFramelistPutAt fl index frame frameType = (base, .etoomany)) ∨
    (∃ base distance, Rebased fl index base ∧ Ready base index distance ∧
      jbFramelistPutAt fl index frame frameType =
        ((storeAt base index distance frame frameType).1, .success)) := by
  unfold jbFramelistPutAt
  split
  · exact .inl ⟨.einval, by decide, by decide, rfl⟩
  split
  · exact .inl ⟨.etoosmall, by decide, by decide, rfl⟩
  rename_i inTime
  obtain ⟨how, ⟨nonneg, high⟩, indexEq, emptied, origin⟩ := rebase_spec ok int inTime
  have okBase := how.shape ok int
  have hpos := ok.pos
  have start : i32 (index + (0 : Nat)) = index := by rw [Nat.cast_zero, Int.add_zero, i32_self int]
  have maxEq := how.maxCount
  generalize rebase fl index = rebased at *
  obtain ⟨base, distance⟩ := rebased
  simp only at *
  rw [okBase.count_int]
  have apart : i32 (index - base.origin) = distance := i32_sub_of_add indexEq ⟨by omega, high⟩
  split
  · have occupied : base.size ≠ 0 := by
      intro hempty
      have := emptied hempty
      omega
    split
    · -- the far jump: the frame is stored in the buffer just reset
      have jumped : Rebased fl index { jbFramelistReset base with origin := index } := by
        rcases origin with ⟨distEq, rfl, hsize⟩ | ⟨hempty, _⟩ | ⟨distEq, back⟩
        · exact .jumpAhead hsize (by omega) (by omega)
        · exact absurd hempty occupied
        · have sameReset : ({ jbFramelistReset base with origin := index } : JbFramelist) =
              { jbFramelistReset fl with origin := index } := by
            cases how with
            | inPlace => rfl
            | empty => rfl
            | restart => rfl
            | jumpBack => exact absurd rfl occupied
            | jumpAhead => exact absurd rfl occupied
            | full => exact absurd rfl occupied
          rw [sameReset]
          exact .full back (by omega)
      have ready : Ready { jbFramelistReset base with origin := index } index 0 :=
        .of_past (jumped.shape ok int) (le_refl 0) (hpos.trans_eq maxEq.symm) start fun _ => rfl
      refine .inr (.inr ⟨_, 0, jumped, ready, ?_⟩)
      exact Prod.ext rfl (storeAt_free ready)
    · exact .inr (.inl ⟨base, how, occupied, by omega, by omega, rfl⟩)
  · have placed : i32 (base.origin + (distance.toNat : Int)) = index := by
      rwa [Int.toNat_of_nonneg nonneg]
    have inRing : distance.toNat < base.maxCount := by omega
    by_cases free : base.frameType (base.place distance.toNat) = .missing
    · have ready : Ready base index distance.toNat :=
        ⟨okBase, inRing, placed, fun h => by rw [emptied h]; rfl, free⟩
      exact .inr (.inr ⟨base, _, how, ready, Prod.ext rfl (storeAt_free ready)⟩)
    · -- only a list that was not rebased can hold the slot already
      have inside : distance.toNat < base.size := by
        by_contra past
        exact free (okBase.missing_of_le (by omega) inRing)
      have shrunk := how.size_le
      rcases origin with ⟨_, rfl, _⟩ | ⟨hempty, _⟩ | ⟨distEq, _⟩
      · exact .inl ⟨.eexists, by decide, by decide, storeAt_occupied free⟩
      · omega
      · omega

theorem putAt_past (ok : FlShape fl) (int : IsInt index) (fits : frame.bytes.length ≤ fl.frameSize)
    (occupied : fl.size ≠ 0) (past : fl.size ≤ i32 (index - fl.origin))
    (inRing : i32 (index - fl.origin) < fl.maxCount) :
    ∃ distance, Ready fl index distance ∧ jbFramelistPutAt fl index frame frameType =
      ((storeAt fl index distance frame frameType).1, .success) := by
  have ahead : ¬ i32 (index - fl.origin) < 0 := by omega
  have placed : i32 (fl.origin + ((i32 (index - fl.origin)).toNat : Int)) = index := by
    rw [Int.toNat_of_nonneg (by omega), Int.add_comm, i32_sub_add int]
  have ready : Ready fl index (i32 (index - fl.origin)).toNat :=
    .of_past ok (by omega) (by omega) placed fun h => absurd h occupied
  have inTime : ¬ (i32 (index - fl.origin) < 0 ∧ i32 (fl.origin - index) < MAX_MISORDER) :=
    fun late => ahead late.1
  have inPlace : rebase fl index = (fl, i32 (index - fl.origin)) := by
    simp only [rebase, if_neg ahead, if_neg occupied]
  have near : ¬ i32 (index - fl.origin) ≥ fl.maxCount := by omega
  refine ⟨_, ready, ?_⟩
  simp only [jbFramelistPutAt, if_neg (Nat.not_lt.mpr fits), if_neg inTime, inPlace, ok.count_int,
    if_neg near]
  exact Prod.ext rfl (storeAt_free ready)

theorem putAt_empty (ok : FlShape fl) (int : IsInt index)
    (fits : frame.bytes.length ≤ fl.frameSize) (hempty : fl.size = 0)
    (ahead : 0 ≤ i32 (index - fl.origin)) :
    Ready { fl with origin := index } index 0 ∧ jbFramelistPutAt fl index frame frameType =
      ((storeAt { fl with origin := index } index 0 frame frameType).1, .success) := by
  have hpos := ok.pos
  have start : i32 (index + (0 : Nat)) = index := by rw [Nat.cast_zero, Int.add_zero, i32_self int]
  have ready : Ready { fl with origin := index } index 0 :=
    .of_past (ok.withOrigin int) (Nat.le_zero.mpr hempty) hpos start fun _ => rfl
  have inTime : ¬ (i32 (index - fl.origin) < 0 ∧ i32 (fl.origin - index) < MAX_MISORDER) := by omega
  have moved : rebase fl index = ({ fl with origin := index }, 0) := by
    simp only [rebase, if_neg (show ¬ i32 (index - fl.origin) < 0 by omega), if_pos hempty]
  have near : ¬ (0 : Int) ≥ fl.maxCount := by omega
  refine ⟨ready, ?_⟩
  simp only [jbFramelistPutAt, if_neg (Nat.not_lt.mpr fits), if_neg inTime, moved, ok.count_int,
    if_neg near]
  exact Prod.ext rfl (storeAt_free ready)

end PutAt

section Eviction

variable {base ready : JbFramelist} {index : Int}

@[simp] theorem storeAt_maxCount (fl : JbFramelist) (index : Int) (distance : Nat) (frame : Frame)
    (frameType : FrameType) :
    (storeAt fl index distance frame frameType).1.maxCount = fl.maxCount := by
  unfold storeAt
  simp only
  split <;> rfl

@[simp] theorem storeAt_frameSize (fl : JbFramelist) (index : Int) (distance : Nat) (frame : Frame)
    (frameType : FrameType) :
    (storeAt fl index distance frame frameType).1.frameSize = fl.frameSize := by
  unfold storeAt
  simp only
  split <;> rfl

@[simp] theorem storeAt_discardedNum (fl : JbFramelist) (index : Int) (distance : Nat)
    (frame : Frame) (frameType : FrameType) :
    (storeAt fl index distance frame frameType).1.discardedNum = fl.discardedNum := by
  unfold storeAt
  simp only
  split <;> rfl

/-- What the eviction loop makes of a full list before the frame goes in. -/
inductive Evicted (base : JbFramelist) (index : Int) : JbFramelist → Prop
  | nothing : Evicted base index base
  | some {count : Nat} : 0 < count → count < base.size → count ≤ i32 (index - base.origin) →
      Evicted base index (removeSteps base count)
  | all : 0 < base.size → base.size ≤ i32 (index - base.origin) →
      Evicted base index { removeSteps base base.size with origin := index }

theorem Evicted.maxCount (how : Evicted base index ready) : ready.maxCount = base.maxCount := by
  cases how <;> rfl

theorem Evicted.frameSize (how : Evicted base index ready) : ready.frameSize = base.frameSize := by
  cases how <;> rfl

theorem Evicted.counted (how : Evicted base index ready) (ok : FlShape base)
    (counted : base.discardedNum = base.windowDiscarded) :
    ready.discardedNum = ready.windowDiscarded := by
  cases how with
  | nothing => exact counted
  | some _ below _ => exact removeSteps_counted ok below.le counted
  | all => exact removeSteps_counted ok (le_refl _) counted

theorem evictDistance_eq (ok : FlShape base) (full : base.maxCount ≤ i32 (index - base.origin))
    (near : i32 (index - base.origin) ≤ MAX_DROPOUT) :
    evictDistance index base.origin base.maxCount = i32 (index - base.origin) - base.maxCount + 1 ∧
      u32 (evictDistance index base.origin base.maxCount) =
        (i32 (index - base.origin) - base.maxCount + 1).toNat := by
  have near : i32 (index - base.origin) ≤ 3000 := near
  have inner : i32 (i32 (index - base.origin) - base.maxCount) =
      i32 (index - base.origin) - base.maxCount := i32_of_bounds (by omega) (by omega)
  have exact : evictDistance index base.origin base.maxCount =
      i32 (index - base.origin) - base.maxCount + 1 := by
    rw [evictDistance, ok.count_int, inner, i32_of_bounds (by omega) (by omega)]
  exact ⟨exact, by rw [exact, u32_of_bounds (by omega) (by omega)]⟩

theorem removeSteps_apart (base : JbFramelist) {count : Nat}
    (le : count ≤ i32 (index - base.origin)) :
    i32 (index - (removeSteps base count).origin) = i32 (index - base.origin) - count :=
  i32_nearer le

theorem evict_round {frame : Frame} (frameType : FrameType) (ok : FlShape base) (int : IsInt index)
    (fits : frame.bytes.length ≤ base.frameSize) (occupied : base.size ≠ 0)
    (full : base.maxCount ≤ i32 (index - base.origin))
    (near : i32 (index - base.origin) ≤ MAX_DROPOUT) :
    ∃ ready distance, Evicted base index ready ∧ Ready ready index distance ∧ jbFramelistPutAt
          (jbFramelistRemoveHead base (u32 (evictDistance index base.origin base.maxCount))).1
          index frame frameType =
        ((storeAt ready index distance frame frameType).1, .success) := by
  have hsize := ok.size_le
  have hpos := ok.pos
  have count := (evictDistance_eq ok full near).2
  generalize hcount : (i32 (index - base.origin) - base.maxCount + 1).toNat = n at count
  rw [count, removeHead_eq]
  by_cases part : n < base.size
  · rw [Nat.min_eq_left part.le, if_neg (by omega)]
    have apart := removeSteps_apart base (show n ≤ i32 (index - base.origin) by omega)
    have occupied : (removeSteps base n).size ≠ 0 := by
      simp only [removeSteps]
      omega
    have past : (removeSteps base n).size ≤ i32 (index - (removeSteps base n).origin) := by
      rw [apart]
      simp only [removeSteps]
      omega
    have inRing : i32 (index - (removeSteps base n).origin) < (removeSteps base n).maxCount := by
      rw [apart]
      simp only [removeSteps]
      omega
    obtain ⟨distance, ready, stored⟩ :=
      putAt_past (removeSteps_shape ok part.le) int fits occupied past inRing
    exact ⟨_, distance, .some (by omega) part (by omega), ready, stored⟩
  · rw [Nat.min_eq_right (Nat.not_lt.mp part), if_neg (by omega)]
    have hempty : (removeSteps base base.size).size = 0 := by simp [removeSteps]
    have ahead : 0 ≤ i32 (index - (removeSteps base base.size).origin) := by
      rw [removeSteps_apart base (by omega)]
      omega
    obtain ⟨ready, stored⟩ := putAt_empty (removeSteps_shape ok (le_refl _)) int fits hempty ahead
    exact ⟨_, 0, .all (by omega) (by omega), ready, stored⟩

end Eviction

/-! ## Numbers that do not overflow -/

/-- No sum of numbers overflows in a put of `index`. -/
structure InRange (fl : JbFramelist) (index : Int) : Prop where
  int : IsInt index
  next : index + 1 < 2 ^ 31
  last : fl.origin + fl.size < 2 ^ 31
  ahead : IsInt (index - fl.origin)
  behind : IsInt (fl.origin - index)
  restart : IsInt (index - fl.size)

instance (fl : JbFramelist) (index : Int) : Decidable (InRange fl index) :=
  decidable_of_iff (IsInt index ∧ index + 1 < 2 ^ 31 ∧ fl.origin + fl.size < 2 ^ 31 ∧
      IsInt (index - fl.origin) ∧ IsInt (fl.origin - index) ∧ IsInt (index - fl.size))
    ⟨fun ⟨int, next, last, ahead, behind, restart⟩ => ⟨int, next, last, ahead, behind, restart⟩,
      fun range => ⟨range.int, range.next, range.last, range.ahead, range.behind, range.restart⟩⟩

/-- The numbers of the window, and how far `index` is from the first, are of type `int`. -/
structure Spans (fl : JbFramelist) (index : Int) : Prop where
  last : fl.origin + fl.size < 2 ^ 31
  apart : IsInt (index - fl.origin)

section Spans

variable {fl base ready : JbFramelist} {index : Int} {distance : Nat}

theorem Spans.of_empty (int : IsInt index) (hempty : fl.size = 0) (first : fl.origin = index) :
    Spans fl index := by
  obtain ⟨_, high⟩ := int
  refine ⟨by omega, ?_⟩
  rw [first, Int.sub_self]
  decide

theorem Rebased.spans (how : Rebased fl index base) (ok : FlShape fl) (range : InRange fl index) :
    Spans base index := by
  cases how with
  | inPlace => exact ⟨range.last, range.ahead⟩
  | empty hempty => exact .of_empty range.int hempty rfl
  | restart =>
    have hsize := ok.size_le
    have hcount := ok.maxCount_int
    have next := range.next
    have origin : i32 (index - fl.size) = index - fl.size := i32_self range.restart
    constructor
    · simp only [origin]
      omega
    · simp only [origin]
      exact ⟨by omega, by omega⟩
  | jumpBack | jumpAhead | full => exact .of_empty range.int rfl rfl

theorem removeSteps_origin (ok : FlShape fl) (last : fl.origin + fl.size < 2 ^ 31) {count : Nat}
    (le : count ≤ fl.size) : (removeSteps fl count).origin = fl.origin + count := by
  have low := ok.origin_int.1
  exact i32_of_bounds (by omega) (by omega)

theorem Evicted.spans (how : Evicted base index ready) (ok : FlShape base) (int : IsInt index)
    (spans : Spans base index) : Spans ready index := by
  obtain ⟨last, apart⟩ := spans
  cases how with
  | nothing => exact ⟨last, apart⟩
  | @some count _ below le =>
    have origin := removeSteps_origin ok last below.le
    have size : (removeSteps base count).size = base.size - count := rfl
    rw [i32_self apart] at le
    have high := apart.2
    constructor
    · rw [origin, size]
      omega
    · rw [origin]
      exact ⟨by omega, by omega⟩
  | all => exact .of_empty int (Nat.sub_self _) rfl

theorem Ready.exact (ready : Ready fl index distance) (spans : Spans fl index) :
    fl.origin + distance = index := by
  have inRing := ready.distance_lt
  have hcount := ready.shape.maxCount_int
  have apart := i32_sub_of_add ready.index_eq ⟨by omega, by omega⟩
  rw [i32_self spans.apart] at apart
  omega

theorem Ready.room (ready : Ready fl index distance) (spans : Spans fl index) :
    i32 (fl.origin + i32 fl.size) ≤ index ↔ fl.size ≤ distance := by
  have exact := ready.exact spans
  have low := ready.shape.origin_int.1
  have last := spans.last
  rw [ready.shape.size_int, i32_of_bounds (by omega) (by omega)]
  omega

end Spans

/-- The outcomes of storing a frame: refused with the list untouched, or put
into an empty slot of the rebased and, where it was full, evicted list. -/
inductive Stored (fl : JbFramelist) (index : Int) (frame : Frame) : JbFramelist → PjStatus → Prop
  | refused {status : PjStatus} : status ≠ .success → Stored fl index frame fl status
  | accepted {base ready : JbFramelist} {distance : Nat} : Rebased fl index base →
      Evicted base index ready → Ready ready index distance →
      Stored fl index frame (storeAt ready index distance frame .normal).1 .success

variable {status : PjStatus}

theorem Stored.maxCount {fl fl' : JbFramelist} {index : Int} {frame : Frame}
    (stored : Stored fl index frame fl' status) : fl'.maxCount = fl.maxCount := by
  cases stored with
  | refused => rfl
  | accepted how evicted _ => rw [storeAt_maxCount, evicted.maxCount, how.maxCount]

theorem Stored.frameSize {fl fl' : JbFramelist} {index : Int} {frame : Frame}
    (stored : Stored fl index frame fl' status) : fl'.frameSize = fl.frameSize := by
  cases stored with
  | refused => rfl
  | accepted how evicted _ => rw [storeAt_frameSize, evicted.frameSize, how.frameSize]

theorem Stored.shape {fl fl' : JbFramelist} {index : Int} {frame : Frame}
    (stored : Stored fl index frame fl' status) (ok : FlShape fl) (range : InRange fl index) :
    FlShape fl' := by
  cases stored with
  | refused => exact ok
  | accepted how evicted ready =>
    have spans := evicted.spans (how.shape ok range.int) range.int (how.spans ok range)
    exact storeAt_shape ready.shape _ ready.distance_lt _ _ (ready.room spans)

theorem Stored.last {fl fl' : JbFramelist} {index : Int} {frame : Frame}
    (stored : Stored fl index frame fl' status) (ok : FlShape fl) (range : InRange fl index) :
    fl'.origin + fl'.size < 2 ^ 31 := by
  cases stored with
  | refused => exact range.last
  | accepted how evicted ready =>
    have spans := evicted.spans (how.shape ok range.int) range.int (how.spans ok range)
    have exact := ready.exact spans
    have last := spans.last
    have next := range.next
    unfold storeAt
    simp only
    split
    · exact last
    · simp only
      split <;> omega

theorem Stored.counted {fl fl' : JbFramelist} {index : Int} {frame : Frame}
    (stored : Stored fl index frame fl' status) (ok : FlShape fl) (range : InRange fl index)
    (counted : fl.discardedNum = fl.windowDiscarded) :
    fl'.discardedNum = fl'.windowDiscarded := by
  cases stored with
  | refused => exact counted
  | accepted how evicted ready =>
    have okBase := how.shape ok range.int
    have spans := evicted.spans okBase range.int (how.spans ok range)
    rw [storeAt_windowDiscarded ready.shape _ ready.distance_lt _ (ready.room spans),
      storeAt_discardedNum]
    exact evicted.counted okBase (how.counted counted)

theorem evictLoop_done (seq : Int) (frame : Frame) (fuel : Nat) (jb : PjmediaJbuf)
    (ended : status ≠ .etoomany) :
    evictLoop seq frame fuel jb status = some (jb, status) := by
  unfold evictLoop
  rw [if_neg ended]

/-- `storeFrame` ends, and changes the frame list and the discard statistics only. -/
theorem storeFrame_spec {jb : PjmediaJbuf} (ok : FlShape jb.jbFramelist)
    (sameMax : jb.jbMaxCount = jb.jbFramelist.maxCount)
    (sameSize : jb.jbFrameSize = jb.jbFramelist.frameSize) {seq : Int} (int : IsInt seq)
    (frame : Frame) :
    ∃ fl discard status,
      storeFrame jb seq frame = some ({ jb with jbFramelist := fl, jbDiscard := discard }, status) ∧
        Stored jb.jbFramelist seq (truncate jb.jbFrameSize frame) fl status := by
  have fits : (truncate jb.jbFrameSize frame).bytes.length ≤ jb.jbFramelist.frameSize := by
    rw [← sameSize]
    exact List.length_take_le _ _
  have ended : PjStatus.success ≠ .etoomany := by decide
  unfold storeFrame
  simp only
  rcases putAt_cases ok int (truncate jb.jbFrameSize frame) .normal with
      ⟨status, failed, notFull, outcome⟩ | ⟨base, how, occupied, full, near, outcome⟩ |
        ⟨base, distance, how, ready, outcome⟩
  · refine ⟨jb.jbFramelist, jb.jbDiscard, status, ?_, .refused failed⟩
    simp only [outcome, evictLoop_done _ _ _ _ notFull]
  · obtain ⟨ready, distance, evicted, slot, stored⟩ :=
      evict_round .normal (how.shape ok int) int (fits.trans_eq how.frameSize.symm) occupied full
        near
    rw [how.maxCount, ← sameMax] at stored
    refine ⟨_, jb.jbDiscard + (jbFramelistRemoveHead base
      (u32 (evictDistance seq base.origin jb.jbMaxCount))).2, .success, ?_,
        .accepted how evicted slot⟩
    rw [outcome]
    unfold evictLoop
    simp only [if_true, stored]
    rw [evictLoop_done _ _ _ _ ended]
  · refine ⟨_, jb.jbDiscard, .success, ?_, .accepted how .nothing ready⟩
    rw [outcome]
    exact evictLoop_done _ _ _ _ ended

end Pjsip.Pjmedia.Jbuf
