import Pjsip.Pjmedia.Jbuf.Model
import Pjsip.Pjmedia.Jbuf.Window

/-!
# What a get, a peek and a removal do to the frame list

The first two trim the list at its head; a get then hands over a head that is not
discarded. The loops of the three end.
-/

namespace Pjsip.Pjmedia.Jbuf

open Pjsip.Base

variable {fl : JbFramelist}

/-- A list after any number of removals from the head. -/
inductive Trimmed : JbFramelist → JbFramelist → Prop
  | here (fl : JbFramelist) : Trimmed fl fl
  | more {fl fl' : JbFramelist} (count : Nat) :
      Trimmed (jbFramelistRemoveHead fl count).1 fl' → Trimmed fl fl'

theorem Trimmed.maxCount {fl fl' : JbFramelist} (trimmed : Trimmed fl fl') :
    fl'.maxCount = fl.maxCount := by
  induction trimmed with
  | here => rfl
  | more count _ ih => rw [ih, removeHead_maxCount]

theorem Trimmed.frameSize {fl fl' : JbFramelist} (trimmed : Trimmed fl fl') :
    fl'.frameSize = fl.frameSize := by
  induction trimmed with
  | here => rfl
  | more count _ ih => rw [ih, removeHead_frameSize]

theorem Trimmed.inRing {fl fl' : JbFramelist} (trimmed : Trimmed fl fl') (ring : InRing fl) :
    InRing fl' := by
  induction trimmed with
  | here => exact ring
  | more count _ ih => exact ih (removeHead_inRing ring count)

theorem Trimmed.shape {fl fl' : JbFramelist} (trimmed : Trimmed fl fl') (ok : FlShape fl) :
    FlShape fl' := by
  induction trimmed with
  | here => exact ok
  | more count _ ih => exact ih (removeHead_shape ok count)

theorem Trimmed.counted {fl fl' : JbFramelist} (trimmed : Trimmed fl fl') (ok : FlShape fl)
    (counted : fl.discardedNum = fl.windowDiscarded) :
    fl'.discardedNum = fl'.windowDiscarded := by
  induction trimmed with
  | here => exact counted
  | more count _ ih => exact ih (removeHead_shape ok count) (removeHead_counted ok counted count)

/-- The loop over discarded heads ends: an empty window has no discarded head. -/
theorem skipDiscarded_spec (ok : FlShape fl) {fuel : Nat} (enough : fl.size ≤ fuel)
    (prevDiscarded : Bool) :
    ∃ fl' prevDiscarded', skipDiscarded fuel fl prevDiscarded = some (fl', prevDiscarded') ∧
      Trimmed fl fl' ∧ fl'.frameType fl'.head ≠ .discarded := by
  induction fuel generalizing fl prevDiscarded with
  | zero =>
    have missing : fl.frameType fl.head = .missing := by
      have out := ok.missing_of_le (show fl.size ≤ 0 from enough) ok.pos
      rwa [JbFramelist.place, Ring.slot_zero ok.head_lt] at out
    have kept : ¬ fl.frameType fl.head = .discarded := by simp [missing]
    refine ⟨fl, prevDiscarded, ?_, .here fl, kept⟩
    unfold skipDiscarded
    rw [if_neg kept]
  | succ fuel ih =>
    unfold skipDiscarded
    split
    · have shorter : (jbFramelistRemoveHead fl 1).1.size ≤ fuel := by
        rw [removeHead_size]
        omega
      obtain ⟨fl', prev', ran, trimmed, kept⟩ := ih (removeHead_shape ok 1) shorter true
      exact ⟨fl', prev', ran, .more 1 trimmed, kept⟩
    · rename_i kept
      exact ⟨fl, prevDiscarded, rfl, .here fl, kept⟩

theorem get_cases (ok : FlShape fl) (size : Option Nat) :
    ∃ fl', Trimmed fl fl' ∧ (jbFramelistGet fl size = some (fl', none) ∨
      ∃ prevDiscarded, fl'.frameType fl'.head ≠ .discarded ∧ 0 < fl'.size ∧
        jbFramelistGet fl size = some
          ((takeHead fl' prevDiscarded size).1, some (takeHead fl' prevDiscarded size).2)) := by
  by_cases hempty : fl.size = 0
  · exact ⟨fl, .here fl, .inl (by rw [jbFramelistGet, if_pos hempty])⟩
  obtain ⟨fl', prev', ran, trimmed, kept⟩ := skipDiscarded_spec ok (Nat.le_succ fl.size) false
  refine ⟨fl', trimmed, ?_⟩
  by_cases left : fl'.size = 0
  · left
    simp only [jbFramelistGet, if_neg hempty, ran, if_pos left]
  · right
    refine ⟨prev', kept, Nat.pos_of_ne_zero left, ?_⟩
    simp only [jbFramelistGet, if_neg hempty, ran, if_neg left]

/-- The loop that makes up for discarded frames ends: the discard counter falls
in each round. -/
theorem removeMore_spec {fuel lastDiscardNum : Nat} (enough : lastDiscardNum < fuel)
    (fl : JbFramelist) (count : Nat) :
    ∃ fl' count', removeMore fuel fl lastDiscardNum count = some (fl', count') ∧
      Trimmed fl fl' := by
  induction fuel generalizing fl lastDiscardNum count with
  | zero => exact absurd enough (Nat.not_lt_zero _)
  | succ fuel ih =>
    unfold removeMore
    split
    · rename_i fell
      obtain ⟨fl', count', ran, trimmed⟩ := ih (show fl.discardedNum < fuel by omega)
        (jbFramelistRemoveHead fl (lastDiscardNum - fl.discardedNum)).1 _
      exact ⟨fl', count', ran, .more _ trimmed⟩
    · exact ⟨fl, count, rfl, .here fl⟩

theorem remove_spec (jb : PjmediaJbuf) (frameCnt : Nat) :
    ∃ fl count, pjmediaJbufRemoveFrame jb frameCnt = some ({ jb with jbFramelist := fl }, count) ∧
      Trimmed jb.jbFramelist fl := by
  obtain ⟨fl, count, ran, trimmed⟩ := removeMore_spec (Nat.lt_succ_self jb.jbFramelist.discardedNum)
    (jbFramelistRemoveHead jb.jbFramelist frameCnt).1 (jbFramelistRemoveHead jb.jbFramelist frameCnt).2
  refine ⟨fl, count, ?_, .more frameCnt trimmed⟩
  simp only [pjmediaJbufRemoveFrame, ran]

/-! ## Peeking -/

/-- The frames among the first `n` places that a peek does not skip. -/
def JbFramelist.kept (fl : JbFramelist) (n : Nat) : Nat :=
  (List.range n).countP (fun i => fl.frameType (fl.place i) ≠ .discarded)

theorem kept_add_headDiscarded (fl : JbFramelist) (n : Nat) :
    fl.kept n + fl.headDiscarded n = n := by
  have parts : (List.range n).length = _ :=
    List.length_eq_countP_add_countP fun i => decide (fl.frameType (fl.place i) = .discarded)
  unfold JbFramelist.kept JbFramelist.headDiscarded
  simp only [List.length_range, decide_eq_true_eq, ne_eq] at parts ⊢
  omega

theorem kept_succ (fl : JbFramelist) (n : Nat) :
    fl.kept (n + 1) = fl.kept n + if fl.frameType (fl.place n) ≠ .discarded then 1 else 0 := by
  unfold JbFramelist.kept
  rw [List.range_succ, List.countP_append, List.countP_singleton]
  simp only [decide_eq_true_eq]

theorem kept_mono (fl : JbFramelist) : Monotone fl.kept :=
  monotone_nat_of_le_succ fun n => by
    rw [kept_succ]
    exact Nat.le_add_right _ _

theorem peekPos_spec {fuel i idx : Nat} (enough : fl.size ≤ i + fuel)
    (found : fl.kept i + idx < fl.kept fl.size) :
    ∃ d < fl.size, fl.frameType (fl.place d) ≠ .discarded ∧ fl.kept d = fl.kept i + idx ∧
      peekPos fl fuel (fl.place i) idx = some (fl.place d) := by
  have inside : i < fl.size := by
    by_contra past
    have := kept_mono fl (Nat.le_of_not_lt past)
    omega
  induction fuel generalizing i idx with
  | zero => omega
  | succ fuel ih =>
    have next : (fl.place i + 1) % fl.maxCount = fl.place (i + 1) := by
      unfold JbFramelist.place Ring.slot
      rw [Nat.mod_add_mod, Nat.add_assoc]
    have count := kept_succ fl i
    unfold peekPos
    split
    · rename_i here
      exact ⟨i, inside, here.1, by omega, rfl⟩
    · rename_i goOn
      rw [next]
      have rest : fl.kept (i + 1)
          + (if fl.frameType (fl.place i) ≠ .discarded then idx - 1 else idx)
            = fl.kept i + idx := by
        split_ifs at count ⊢ with kept
        · have : idx ≠ 0 := fun first => goOn ⟨kept, first⟩
          omega
        · omega
      have later : i + 1 < fl.size := by
        by_contra past
        have := kept_mono fl (Nat.le_of_not_lt past)
        omega
      rw [← rest] at found ⊢
      exact ih (by omega) found later

theorem peek_found (ring : InRing fl) {offset : Nat} (below : offset < jbFramelistEffSize fl)
    (found : offset < fl.kept fl.size) :
    ∃ d < fl.size, fl.frameType (fl.place d) ≠ .discarded ∧ fl.kept d = offset ∧
      jbFramelistPeek fl offset = some (some
        { type := fl.frameType (fl.place d)
          frame := some (fl.content (fl.place d))
          size := some (fl.contentLen (fl.place d))
          bitInfo := some (fl.bitInfo (fl.place d))
          ts := some (fl.ts (fl.place d))
          seq := some (i32 (fl.origin + offset)) }) := by
  have turn : fl.size ≤ 0 + (offset + 1) * fl.maxCount := by
    calc
      fl.size ≤ fl.maxCount := ring.size_le
      _ ≤ (offset + 1) * fl.maxCount := Nat.le_mul_of_pos_left _ (Nat.succ_pos _)
      _ = 0 + (offset + 1) * fl.maxCount := (Nat.zero_add _).symm
  have start : fl.kept 0 = 0 := rfl
  obtain ⟨d, inside, kept, count, scanned⟩ :=
    peekPos_spec turn (show fl.kept 0 + offset < fl.kept fl.size by omega)
  rw [JbFramelist.place, Ring.slot_zero ring.head_lt] at scanned
  refine ⟨d, inside, kept, by omega, ?_⟩
  rw [jbFramelistPeek, if_neg (Nat.not_le.2 below), scanned]

theorem peek_returns (ring : InRing fl) (counted : fl.discardedNum = fl.windowDiscarded)
    (offset : Nat) : ∃ out, jbFramelistPeek fl offset = some out := by
  unfold jbFramelistPeek
  split
  · exact ⟨none, rfl⟩
  · rename_i inside
    have effective : jbFramelistEffSize fl ≤ fl.kept fl.size := by
      have := kept_add_headDiscarded fl fl.size
      have : fl.windowDiscarded = fl.headDiscarded fl.size := rfl
      unfold jbFramelistEffSize u32
      omega
    have below : offset < jbFramelistEffSize fl := Nat.lt_of_not_le inside
    obtain ⟨d, -, -, -, peeked⟩ := peek_found ring below (below.trans_le effective)
    rw [jbFramelistPeek, if_neg inside] at peeked
    exact ⟨_, peeked⟩

end Pjsip.Pjmedia.Jbuf
