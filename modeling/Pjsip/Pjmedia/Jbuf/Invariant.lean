import Pjsip.Base.Run
import Pjsip.Pjmedia.Jbuf.Step

/-!
# The representation invariant of the jitter buffer

Every operation keeps the shape of the window, unless a sum of sequence numbers
overflows. The discard counter stays exact as long as the progressive algorithm does
not fall on a slot that is discarded already: `jb_framelist_discard` counts such a
slot once more.
-/

namespace Pjsip.Pjmedia.Jbuf

open Pjsip.Base Pjsip.Pjlib

/-- What the frame list is to satisfy between two API calls. -/
structure RepInv (fl : JbFramelist) : Prop extends FlShape fl where
  counted : fl.discardedNum = fl.windowDiscarded
  effective : fl.discardedNum ≤ fl.size

variable {fl fl' : JbFramelist}

theorem RepInv.of_counted (ok : FlShape fl)
    (counted : fl.discardedNum = fl.windowDiscarded) : RepInv fl := by
  refine ⟨ok, counted, ?_⟩
  have := kept_add_headDiscarded fl fl.size
  have : fl.windowDiscarded = fl.headDiscarded fl.size := rfl
  omega

structure Consistent (jb : PjmediaJbuf) : Prop where
  rep : RepInv jb.jbFramelist
  sizes : SameSizes jb

variable {jb jb' : PjmediaJbuf}

theorem Consistent.with_list (inv : Consistent jb)
    (rep : RepInv jb'.jbFramelist) (max : jb'.jbMaxCount = jb.jbMaxCount)
    (size : jb'.jbFrameSize = jb.jbFrameSize)
    (flMax : jb'.jbFramelist.maxCount = jb.jbFramelist.maxCount)
    (flSize : jb'.jbFramelist.frameSize = jb.jbFramelist.frameSize) : Consistent jb' :=
  ⟨rep, by rw [max, flMax, inv.sizes.maxCount], by rw [size, flSize, inv.sizes.frameSize]⟩

theorem Consistent.with_framelist (inv : Consistent jb)
    (rep : RepInv fl) (max : fl.maxCount = jb.jbFramelist.maxCount)
    (size : fl.frameSize = jb.jbFramelist.frameSize) :
    Consistent { jb with jbFramelist := fl } :=
  inv.with_list rep rfl rfl max size

/-! ## The discard algorithms -/

theorem SameBuffer.consistent (same : SameBuffer jb jb') (inv : Consistent jb) : Consistent jb' :=
  inv.with_list (same.framelist ▸ inv.rep) same.maxCount same.frameSize
    (by rw [same.framelist]) (by rw [same.framelist])

/-- The progressive algorithm is about to discard a slot once more. -/
def DiscardsAgain (jb : PjmediaJbuf) : Prop :=
  Discards jb ∧
    jb.jbFramelist.frameType (jb.jbFramelist.slotOf (discardSeq (scheduleDiscard jb))) = .discarded

theorem Discards.inside (inv : Consistent jb) (due : Discards jb)
    (last : jb.jbFramelist.origin + jb.jbFramelist.size < 2 ^ 31) :
    jb.jbFramelist.origin ≤ discardSeq (scheduleDiscard jb) ∧
      discardSeq (scheduleDiscard jb) <
        i32 (jb.jbFramelist.origin + i32 jb.jbFramelist.size) := by
  obtain ⟨_, _, _, above, passed⟩ := due
  have low := inv.rep.origin_int.1
  have sized : jbFramelistEffSize jb.jbFramelist ≤ jb.jbFramelist.size := by
    have := inv.rep.effective
    unfold jbFramelistEffSize u32
    omega
  have sameList : (scheduleDiscard jb).jbFramelist = jb.jbFramelist := rfl
  unfold lastSeq at passed
  unfold discardSeq
  have lastEq : i32 (jb.jbFramelist.origin + jb.jbFramelist.size - 1) =
      jb.jbFramelist.origin + jb.jbFramelist.size - 1 := i32_of_bounds (by omega) (by omega)
  have endEq : i32 (jb.jbFramelist.origin + jb.jbFramelist.size) =
      jb.jbFramelist.origin + jb.jbFramelist.size := i32_of_bounds (by omega) (by omega)
  rw [lastEq] at passed
  rw [sameList, inv.rep.size_int, endEq]
  omega

theorem Trimmed.rep (trimmed : Trimmed fl fl') (rep : RepInv fl) : RepInv fl' :=
  .of_counted (trimmed.shape rep.toFlShape) (trimmed.counted rep.toFlShape rep.counted)

/-- The invariant survives the discard algorithm exactly when no slot is
discarded once more. -/
theorem runDiscardAlgo_consistent (inv : Consistent jb)
    (last : Discards jb → jb.jbFramelist.origin + jb.jbFramelist.size < 2 ^ 31) :
    Consistent (runDiscardAlgo jb) ↔ ¬ DiscardsAgain jb := by
  have ok := inv.rep.toFlShape
  by_cases due : Discards jb
  · have inside := due.inside inv (last due)
    have counter : (runDiscardAlgo jb).jbFramelist.discardedNum =
        jb.jbFramelist.windowDiscarded + 1 := by
      rw [runDiscardAlgo_due due, ← inv.rep.counted]
      simp only [jbFramelistDiscard, if_pos inside]
    have window := discard_windowDiscarded ok inside
    have listEq : (runDiscardAlgo jb).jbFramelist =
        (jbFramelistDiscard jb.jbFramelist (discardSeq (scheduleDiscard jb))).1 := by
      rw [runDiscardAlgo_due due]
    rw [← listEq] at window
    constructor
    · rintro kept ⟨_, again⟩
      rw [if_pos again] at window
      have := kept.rep.counted
      omega
    · intro fresh
      rw [if_neg (fun again => fresh ⟨due, again⟩)] at window
      have shape : FlShape (runDiscardAlgo jb).jbFramelist := listEq ▸ discard_shape ok _
      refine inv.with_list (.of_counted shape (counter.trans window.symm)) ?_ ?_ ?_ ?_
      · rw [runDiscardAlgo_due due]; rfl
      · rw [runDiscardAlgo_due due]; rfl
      · rw [listEq, discard_maxCount]
      · rw [listEq, discard_frameSize]
  · obtain ⟨trimmed, max, size⟩ := runDiscardAlgo_trims due
    constructor
    · exact fun _ again => due again.1
    · intro _
      exact inv.with_list (trimmed.rep inv.rep) max size trimmed.maxCount trimmed.frameSize

/-! ## One step -/

/-- No put that `op` stands for makes the progressive algorithm discard a slot
once more. -/
def FreshDiscard (jb : PjmediaJbuf) : Op → Prop
  | .putFrame3 seq frame =>
    ∀ jb', storeFrame jb seq frame = some (jb', .success) → ¬ DiscardsAgain (beforeDiscard jb jb')
  | _ => True

theorem Stored.rep {index : Int} {frame : Frame} {status : PjStatus}
    (stored : Stored fl index frame fl' status) (rep : RepInv fl) (range : InRange fl index) :
    RepInv fl' :=
  .of_counted (stored.shape rep.toFlShape range) (stored.counted rep.toFlShape range rep.counted)

theorem Fetched.rep {size : Option Nat} {out : FrameOut}
    (fetched : Fetched fl size fl' out) (rep : RepInv fl) : RepInv fl' := by
  cases fetched with
  | nothing trimmed => exact trimmed.rep rep
  | head prevDiscarded trimmed kept nonempty =>
    have before := trimmed.rep rep
    have window := takeHead_windowDiscarded before.toFlShape nonempty kept prevDiscarded size
    refine .of_counted (takeHead_shape before.toFlShape nonempty _ _) ?_
    rw [window]
    exact before.counted

/-- Nothing is divided by zero in a call. -/
def NoZeroDivision (jb : PjmediaJbuf) : Op → Prop
  | .getFrame3 _ => ¬ Undelayed jb
  | .setPtime2 ptime _ => ptime ≠ 0
  | _ => True

def Defined (jb : PjmediaJbuf) (op : Op) : Prop := NoOverflow jb op ∧ NoZeroDivision jb op

theorem step_returns (inv : Consistent jb) {op : Op} (defined : Defined jb op) :
    ∃ jb' ans, step jb op = some (jb', ans) := by
  have ok := inv.rep.toFlShape
  obtain ⟨numbers, divides⟩ := defined
  cases op with
  | putFrame3 seq frame =>
    simp only [NoOverflow] at numbers
    obtain ⟨fl, discard, status, ran, _⟩ :=
      storeFrame_spec ok inv.sizes.maxCount inv.sizes.frameSize numbers.int frame
    simp only [step, pjmediaJbufPutFrame3, ran]
    split <;> exact ⟨_, _, rfl⟩
  | getFrame3 size =>
    rcases fetchFrame_spec ok size with ⟨-, zero⟩ | ⟨jb₁, out, ran, _⟩
    · exact absurd zero divides
    · simp only [step, pjmediaJbufGetFrame3, ran]
      exact ⟨_, _, rfl⟩
  | peekFrame offset =>
    obtain ⟨out, ran⟩ := peek_returns ok.toInRing inv.rep.counted offset
    simp only [step, pjmediaJbufPeekFrame, ran]
    cases out <;> exact ⟨_, _, rfl⟩
  | removeFrame frameCnt =>
    obtain ⟨fl, count, ran, _⟩ := remove_spec jb frameCnt
    simp only [step, ran]
    exact ⟨_, _, rfl⟩
  | reset => exact ⟨_, _, rfl⟩
  | setPtime2 ptime ptimeDenum =>
    simp only [NoZeroDivision] at divides
    simp only [step, pjmediaJbufSetPtime2, if_neg divides]
    exact ⟨_, _, rfl⟩
  | setFixed prefetch => exact ⟨_, _, rfl⟩
  | setAdaptive prefetch minPrefetch maxPrefetch => exact ⟨_, _, rfl⟩
  | setDiscard algo => exact ⟨_, _, rfl⟩

theorem create_consistent (pool : JbFramelist) (frameSize ptime : Nat) {maxCount : Nat}
    (hmax : 1 ≤ maxCount) (int : maxCount < 2 ^ 31) :
    Consistent (pjmediaJbufCreate pool frameSize ptime maxCount) :=
  ⟨.of_counted (reset_shape hmax int) rfl, rfl, rfl⟩

theorem reset_consistent (inv : Consistent jb) : Consistent (pjmediaJbufReset jb) :=
  inv.with_list (.of_counted (reset_shape inv.rep.pos inv.rep.maxCount_int) rfl) rfl rfl rfl rfl

/-- What one step preserves: the invariant, exactly when no slot is discarded
once more. -/
theorem Effect.consistent_iff {op : Op} {ans : Answer}
    (effect : Effect jb op jb' ans) (inv : Consistent jb) : Consistent jb' ↔ FreshDiscard jb op := by
  have always : ∀ {op}, FreshDiscard jb op → Consistent jb' → (Consistent jb' ↔ FreshDiscard jb op) :=
    fun fresh kept => ⟨fun _ => fresh, fun _ => kept⟩
  cases effect with
  | refused notStored same =>
    exact always (fun _ accepted => absurd accepted (notStored _)) (same.consistent inv)
  | stored range ran outcome same =>
    have before : Consistent (beforeDiscard jb _) := same.consistent
      (inv.with_framelist (outcome.rep inv.rep range) outcome.maxCount outcome.frameSize)
    have last := outcome.last inv.rep.toFlShape range
    rw [runDiscardAlgo_consistent before fun _ => by rw [same.framelist]; exact last]
    constructor
    · intro fresh jb₁ ran₁
      rw [ran] at ran₁
      cases ran₁
      exact fresh
    · intro fresh
      exact fresh _ ran
  | fetched _ fetched same notDue =>
    have before := same.consistent
      (inv.with_framelist (fetched.rep inv.rep) fetched.maxCount fetched.frameSize)
    have after := (runDiscardAlgo_consistent before fun due => absurd due notDue).mpr
      fun again => notDue again.1
    exact always trivial after
  | peeked => exact always trivial inv
  | removed _ trimmed =>
    exact always trivial
      (inv.with_framelist (trimmed.rep inv.rep) trimmed.maxCount trimmed.frameSize)
  | reset => exact always trivial (reset_consistent inv)
  | setPtime2 same => exact always trivial (same.consistent inv)
  | setFixed same => exact always trivial (same.consistent inv)
  | setAdaptive same => exact always trivial (same.consistent inv)
  | setDiscard => exact always trivial (inv.with_list inv.rep rfl rfl rfl rfl)

/-- A whole run keeps the representation invariant exactly when none of its puts
discards a slot once more. -/
theorem repInv_throughout_iff (inv : Consistent jb) {ops : List Op}
    (defined : Along step Defined jb ops) :
    Throughout step (fun jb => RepInv jb.jbFramelist) jb ops ↔ Along step FreshDiscard jb ops := by
  refine defined.throughout_iff_breaks (fun jb (inv : Consistent jb) => inv.rep) ?_ ?_ inv
  · intro jb op before defined fresh
    obtain ⟨jb', ans, taken⟩ := step_returns before defined
    have effect := step_effect before.rep.toFlShape before.sizes defined.1 taken
    exact ⟨jb', ans, taken, (effect.consistent_iff before).mpr fresh⟩
  · intro jb op jb' ans before defined stale taken rep
    have effect := step_effect before.rep.toFlShape before.sizes defined.1 taken
    exact stale ((effect.consistent_iff before).mp ⟨rep, effect.sizes before.sizes⟩)

/-- In every run of a new jitter buffer without overflow and division by zero the
representation invariant holds throughout exactly when no put makes the progressive
algorithm discard a slot once more. -/
theorem jbuf_repInv_iff (pool : JbFramelist) (frameSize ptime : Nat) {maxCount : Nat}
    (hmax : 1 ≤ maxCount) (int : maxCount < 2 ^ 31) {ops : List Op}
    (defined : Along step Defined (pjmediaJbufCreate pool frameSize ptime maxCount) ops) :
    Throughout step (fun jb => RepInv jb.jbFramelist)
        (pjmediaJbufCreate pool frameSize ptime maxCount) ops ↔
      Along step FreshDiscard (pjmediaJbufCreate pool frameSize ptime maxCount) ops :=
  repInv_throughout_iff (create_consistent pool frameSize ptime hmax int) defined

instance (jb : PjmediaJbuf) : (op : Op) → Decidable (NoZeroDivision jb op)
  | .getFrame3 _ => inferInstanceAs (Decidable ¬ (_ ∧ _))
  | .setPtime2 _ _ => inferInstanceAs (Decidable (_ ≠ _))
  | .putFrame3 _ _ | .peekFrame _ | .removeFrame _ | .reset | .setFixed _ | .setAdaptive _ _ _
  | .setDiscard _ => .isTrue trivial

instance (jb : PjmediaJbuf) (op : Op) : Decidable (Defined jb op) :=
  inferInstanceAs (Decidable (_ ∧ _))

instance (jb : PjmediaJbuf) : Decidable (DiscardsAgain jb) :=
  inferInstanceAs (Decidable ((_ ∧ _ ∧ _ ∧ _ ∧ _) ∧ _))

instance (jb : PjmediaJbuf) : (op : Op) → Decidable (FreshDiscard jb op)
  | .putFrame3 seq frame =>
    decidable_of_iff (∀ next ∈ storeFrame jb seq frame, next.2 = .success →
        ¬ DiscardsAgain (beforeDiscard jb next.1))
      ⟨fun fresh jb' stored => fresh (jb', .success) stored rfl,
        fun fresh next stored success => fresh next.1 (success ▸ stored)⟩
  | .getFrame3 _ | .peekFrame _ | .removeFrame _ | .reset | .setPtime2 _ _ | .setFixed _
  | .setAdaptive _ _ _ | .setDiscard _ => .isTrue trivial

/-- One byte, `n`, as the frame numbered `n`. -/
def putByte (n : Nat) : Op :=
  .putFrame3 n { bytes := [UInt8.ofNat n], bitInfo := 0, ts := UInt32.ofNat n }

/-- With frames of 250 ms the distance between discards is zero, and frame 17 is
discarded when it arrives and again when frame 16 does. -/
def discardTwice : List Op :=
  [.setAdaptive 0 0 0, putByte 0, putByte 1, .getFrame3 none, putByte 2, .getFrame3 none,
    putByte 3, .getFrame3 none, putByte 4, .getFrame3 none, putByte 5, .getFrame3 none,
    putByte 17, putByte 16]

/-- Frame 17 is discarded; with the algorithm off, frame 18 comes behind it. -/
def behindDiscarded : List Op :=
  discardTwice.dropLast ++ [.setDiscard .none, putByte 18]

theorem jbuf_repInv_iff_behindDiscarded :
    Throughout step (fun jb => RepInv jb.jbFramelist) (pjmediaJbufCreate clearedPool 1 250 20)
      behindDiscarded :=
  (jbuf_repInv_iff clearedPool 1 250 (by decide) (by decide) (by decide +kernel)).2
    (by decide +kernel)

theorem discardTwice_counts : (exec step (pjmediaJbufCreate clearedPool 1 250 20) discardTwice).map
        (fun jb => (jb.jbFramelist.discardedNum, jb.jbFramelist.windowDiscarded)) =
      some (2, 1) := by
  decide +kernel

theorem jbuf_repInv_fails : ¬ Throughout step (fun jb => RepInv jb.jbFramelist)
      (pjmediaJbufCreate clearedPool 1 250 20) discardTwice := by
  intro holds
  obtain ⟨jb, last, rep⟩ := holds.last
  have counts := discardTwice_counts
  rw [last, Option.map_some, Option.some.injEq, Prod.mk.injEq] at counts
  have := rep.counted
  omega

end Pjsip.Pjmedia.Jbuf
