import Mathlib.Data.Nat.Find
import Pjsip.Pjmedia.Jbuf.Invariant
import Pjsip.Pjmedia.Jbuf.View

/-!
# Frames and places

A peek and a removal count frames, the window counts places, and the two part where a discarded
slot stands between frames. A peek answers with the number of the wrong place there; a removal
goes on until it has its frames; the eviction of a put counts places only.
-/

namespace Pjsip.Pjmedia.Jbuf

open Pjsip.Base Pjsip.Pjlib

variable {fl fl' : JbFramelist}

/-! ## Peeking -/

/-- A peek at `offset` answers with the slot that has `offset` frames before it, and with the
number that the slot has. -/
def PeekAgrees (jb : PjmediaJbuf) (offset : Nat) : Prop :=
  let fl := jb.jbFramelist
  ∃ d < fl.size, fl.frameType (fl.place d) ≠ .discarded ∧ fl.kept d = offset ∧
    pjmediaJbufPeekFrame jb offset = some
      { type := if fl.frameType (fl.place d) = .normal then .normal else .missing
        frame := some (fl.content (fl.place d))
        size := some (fl.contentLen (fl.place d))
        bitInfo := some (fl.bitInfo (fl.place d))
        ts := some (fl.ts (fl.place d))
        seq := some (i32 (fl.origin + d)) }

/-- No discarded slot stands at or before place `offset`. -/
def ClearTo (fl : JbFramelist) (offset : Nat) : Prop :=
  ∀ i ≤ offset, i < fl.size ∧ fl.frameType (fl.place i) ≠ .discarded

variable {offset : Nat}

theorem ClearTo.kept (clear : ClearTo fl offset) {n : Nat} (le : n ≤ offset + 1) :
    fl.kept n = n := by
  induction n with
  | zero => rfl
  | succ n ih => rw [kept_succ, if_pos (clear n (by omega)).2, ih (by omega)]

variable {jb : PjmediaJbuf}

theorem peek_seq {out : FrameOut}
    (below : offset < jbFramelistEffSize jb.jbFramelist)
    (peeked : pjmediaJbufPeekFrame jb offset = some out) :
    out.seq = some (i32 (jb.jbFramelist.origin + offset)) := by
  rw [pjmediaJbufPeekFrame, jbFramelistPeek, if_neg (Nat.not_le.2 below)] at peeked
  split at peeked
  · cases peeked
  · rename_i found
    split at found <;> cases found
  · rename_i found
    cases peeked
    split at found <;> cases found
    rfl

theorem peekAgrees_iff (ring : InRing jb.jbFramelist)
    (below : offset < jbFramelistEffSize jb.jbFramelist) :
    PeekAgrees jb offset ↔ ClearTo jb.jbFramelist offset := by
  constructor
  · rintro ⟨d, inside, kept, count, peeked⟩ i le
    have seq := peek_seq below peeked
    simp only [Option.some.injEq] at seq
    have here : d = offset := by
      have size := ring.size_le
      have count := ring.maxCount_lt
      unfold jbFramelistEffSize u32 at below
      rw [i32_eq (jb.jbFramelist.origin + d), i32_eq (jb.jbFramelist.origin + offset)] at seq
      omega
    refine ⟨by omega, ?_⟩
    -- a discarded slot before place `d` would leave fewer than `d` frames there
    intro discarded
    have other : i ≠ d := by
      rintro rfl
      exact kept discarded
    have first := kept_succ jb.jbFramelist i
    rw [if_neg (not_not.2 discarded)] at first
    have upTo := kept_add_headDiscarded jb.jbFramelist i
    have rest : jb.jbFramelist.kept d ≤ jb.jbFramelist.kept (i + 1) + (d - (i + 1)) := by
      have whole := kept_add_headDiscarded jb.jbFramelist d
      have part := kept_add_headDiscarded jb.jbFramelist (i + 1)
      have more : jb.jbFramelist.headDiscarded (i + 1) ≤ jb.jbFramelist.headDiscarded d :=
        (List.range_sublist.2 (by omega)).countP_le
      omega
    omega
  · intro clear
    have inside := (clear offset (le_refl _)).1
    have found : offset < jb.jbFramelist.kept jb.jbFramelist.size := by
      have mono := kept_mono jb.jbFramelist (show offset + 1 ≤ jb.jbFramelist.size from inside)
      rw [clear.kept (le_refl _)] at mono
      exact mono
    obtain ⟨d, within, kept, count, peeked⟩ := peek_found ring below found
    have here : d = offset := by
      rcases Nat.lt_trichotomy d offset with less | same | more
      · rw [clear.kept (by omega)] at count
        exact count
      · exact same
      · have mono := kept_mono jb.jbFramelist (show offset + 1 ≤ d from more)
        rw [clear.kept (le_refl _)] at mono
        omega
    refine ⟨d, within, kept, count, ?_⟩
    rw [pjmediaJbufPeekFrame, peeked, here]

theorem reached_inRing (pool : JbFramelist) (frameSize ptime : Nat) {maxCount : Nat}
    (hmax : 1 ≤ maxCount) (unsigned : maxCount < 2 ^ 32) {tr : List (Op × Answer)}
    (run : Run step (pjmediaJbufCreate pool frameSize ptime maxCount) tr jb) :
    InRing jb.jbFramelist := by
  have start : InRing (pjmediaJbufCreate pool frameSize ptime maxCount).jbFramelist := by
    have pooled : 1 ≤ { pool with frameSize := frameSize, maxCount := maxCount }.maxCount := hmax
    have cleared := reset_inRing pooled unsigned
    exact reset_inRing cleared.pos cleared.maxCount_lt
  exact run.invariant (fun _ _ _ _ ring taken => step_inRing ring taken) start

/-- In every state that a new jitter buffer comes to, a peek below the effective size agrees with
the slots exactly where no discarded slot stands at or before its offset. -/
theorem jbuf_peek_iff (pool : JbFramelist) (frameSize ptime : Nat) {maxCount : Nat}
    (hmax : 1 ≤ maxCount) (unsigned : maxCount < 2 ^ 32) {tr : List (Op × Answer)}
    {jb : PjmediaJbuf} (run : Run step (pjmediaJbufCreate pool frameSize ptime maxCount) tr jb)
    (below : offset < jbFramelistEffSize jb.jbFramelist) :
    PeekAgrees jb offset ↔ ClearTo jb.jbFramelist offset :=
  peekAgrees_iff (reached_inRing pool frameSize ptime hmax unsigned run) below

instance (fl : JbFramelist) (offset : Nat) : Decidable (ClearTo fl offset) :=
  decidable_of_iff (∀ i < offset + 1, i < fl.size ∧ fl.frameType (fl.place i) ≠ .discarded) <| by
    simp only [Nat.lt_succ_iff, ClearTo]

/-- Before the discarded slot a peek agrees, here at offset 11. -/
theorem jbuf_peek_twelfth : ∃ jb tr,
    Run step (pjmediaJbufCreate clearedPool 1 250 20) tr jb ∧ PeekAgrees jb 11 := by
  have last : (exec step (pjmediaJbufCreate clearedPool 1 250 20) behindDiscarded).map
      (fun jb => decide (11 < jbFramelistEffSize jb.jbFramelist ∧ ClearTo jb.jbFramelist 11))
        = some true := by
    decide +kernel
  obtain ⟨jb, ran, holds⟩ := Option.map_eq_some_iff.1 last
  obtain ⟨below, clear⟩ := of_decide_eq_true holds
  obtain ⟨tr, -, run⟩ := Run.of_exec ran
  exact ⟨jb, tr, run,
    (jbuf_peek_iff clearedPool 1 250 (by decide) (by decide) run below).2 clear⟩

/-- A peek at offset 12 is to find frame 18, and answers with the number 17. -/
theorem jbuf_peek_fails : ∃ jb tr, Run step (pjmediaJbufCreate clearedPool 1 250 20) tr jb
      ∧ 12 < jbFramelistEffSize jb.jbFramelist ∧ ¬ PeekAgrees jb 12 := by
  have last : (exec step (pjmediaJbufCreate clearedPool 1 250 20) behindDiscarded).map
      (fun jb => (jbFramelistEffSize jb.jbFramelist,
        jb.jbFramelist.frameType (jb.jbFramelist.place 12))) = some (13, .discarded) := by
    decide +kernel
  obtain ⟨jb, ran, counts⟩ := Option.map_eq_some_iff.1 last
  obtain ⟨size, type⟩ := Prod.mk.inj counts
  obtain ⟨tr, -, run⟩ := Run.of_exec ran
  have ring := reached_inRing clearedPool 1 250 (by decide) (by decide) run
  refine ⟨jb, tr, run, by omega, fun agrees => ?_⟩
  exact ((peekAgrees_iff ring (by omega)).1 agrees 12 (le_refl _)).2 type

/-! ## Removing -/

theorem Trimmed.snoc (trimmed : Trimmed fl fl') (count : Nat) :
    Trimmed fl (jbFramelistRemoveHead fl' count).1 := by
  induction trimmed with
  | here fl => exact .more count (.here _)
  | more first _ ih => exact .more first ih

/-- `fl'` is `fl` without its first `r` places. -/
structure Behind (fl : JbFramelist) (r : Nat) (fl' : JbFramelist) : Prop where
  trimmed : Trimmed fl fl'
  within : r ≤ fl.size
  size : fl'.size = fl.size - r
  origin : fl'.origin = i32 (fl.origin + r)
  cells : ∀ i < fl'.size, fl'.cell (fl'.place i) = fl.cell (fl.place (r + i))
  discardedNum : fl'.discardedNum = fl.discardedNum - fl.headDiscarded r
  discarded : ∀ k, r + k ≤ fl.size →
    fl.headDiscarded (r + k) = fl.headDiscarded r + fl'.headDiscarded k

theorem Behind.here (int : IsInt fl.origin) : Behind fl 0 fl := by
  refine ⟨.here fl, Nat.zero_le _, rfl, ?_, fun i _ => by rw [Nat.zero_add], rfl, fun k _ => ?_⟩
  · rw [Nat.cast_zero, Int.add_zero, i32_self int]
  · rw [Nat.zero_add]
    exact (Nat.zero_add _).symm

theorem Behind.remove {r : Nat} (ok : FlShape fl) (behind : Behind fl r fl') (count : Nat) :
    Behind fl (r + min count fl'.size) (jbFramelistRemoveHead fl' count).1
      ∧ (jbFramelistRemoveHead fl' count).2 = min count fl'.size := by
  have ok' := behind.trimmed.shape ok
  have within := behind.within
  have size := behind.size
  have origin := behind.origin
  generalize taken : min count fl'.size = n
  have fits : n ≤ fl'.size := by omega
  have removed : (jbFramelistRemoveHead fl' count).1 =
      if n = 0 then fl' else removeSteps fl' n := by
    rw [removeHead_eq, taken]
    split <;> rfl
  constructor
  · refine ⟨behind.trimmed.snoc count, by omega, ?_, ?_, ?_, ?_, ?_⟩
    · rw [removeHead_size]
      omega
    · rw [removeHead_origin ok'.origin_int, taken, origin, i32_add, Int.add_assoc, Nat.cast_add]
    · intro i inside
      rw [removed] at inside ⊢
      by_cases nothing : n = 0
      · rw [if_pos nothing] at inside ⊢
        rw [nothing]
        exact behind.cells i inside
      · rw [if_neg nothing] at inside ⊢
        have left : i < fl'.size - n := inside
        rw [removeSteps_cells ok' inside, behind.cells (n + i) (by omega), Nat.add_assoc]
    · have part := behind.discarded n (by omega)
      rw [removed]
      split
      · rename_i nothing
        rw [nothing]
        exact behind.discardedNum
      · rw [removeSteps_discardedNum ok' fits, behind.discardedNum, part, Nat.sub_sub]
    · intro k inside
      rw [removed]
      split
      · rename_i nothing
        rw [nothing]
        exact behind.discarded k (by omega)
      · rw [Nat.add_assoc, behind.discarded (n + k) (by omega), behind.discarded n (by omega),
          headDiscarded_split ok' (by omega), Nat.add_assoc]
  · rw [removeHead_eq, taken]
    split
    · rename_i nothing
      exact nothing.symm
    · rfl

theorem headDiscarded_mono (fl : JbFramelist) : Monotone fl.headDiscarded :=
  fun _ _ le => (List.range_sublist.2 le).countP_le

/-- The loop that makes up for discarded frames. Before a round, `r` places have been removed, and
`r₀` before the last removal; what is asked for is `n` frames, with the discarded ones that have
been met. -/
theorem removeMore_kept (ok : FlShape fl) (counted : fl.discardedNum = fl.windowDiscarded)
    {n fuel r₀ r : Nat} (enough : fl.discardedNum - fl.headDiscarded r₀ < fuel)
    (behind : Behind fl r fl') (le : r₀ ≤ r) (asked : r = min fl.size (n + fl.headDiscarded r₀))
    (fewer : ∀ q < r, fl.kept q < n) :
    ∃ fl'' r', removeMore fuel fl' (fl.discardedNum - fl.headDiscarded r₀)
          (r - fl.headDiscarded r₀) = some (fl'', fl.kept r')
      ∧ Behind fl r' fl'' ∧ r' = min fl.size (n + fl.headDiscarded r')
      ∧ ∀ q < r', fl.kept q < n := by
  induction fuel generalizing fl' r₀ r with
  | zero => exact absurd enough (Nat.not_lt_zero _)
  | succ fuel ih =>
    have met := headDiscarded_mono fl le
    have all : fl.headDiscarded r ≤ fl.discardedNum := by
      rw [counted]
      exact headDiscarded_mono fl behind.within
    have here := kept_add_headDiscarded fl r
    have num := behind.discardedNum
    unfold removeMore
    split
    · rename_i fell
      obtain ⟨next, removed⟩ := behind.remove ok
        (fl.discardedNum - fl.headDiscarded r₀ - fl'.discardedNum)
      have more : fl.discardedNum - fl.headDiscarded r₀ - fl'.discardedNum
          = fl.headDiscarded r - fl.headDiscarded r₀ := by omega
      have left := behind.size
      have within := behind.within
      rw [more] at next removed ⊢
      have count : r - fl.headDiscarded r₀ - (fl.headDiscarded r - fl.headDiscarded r₀)
          + (jbFramelistRemoveHead fl' (fl.headDiscarded r - fl.headDiscarded r₀)).2
            = r + min (fl.headDiscarded r - fl.headDiscarded r₀) fl'.size
              - fl.headDiscarded r := by
        rw [removed]
        omega
      simp only
      rw [count, num]
      refine ih (by omega) next (Nat.le_add_right _ _) (by omega) fun q below => ?_
      by_cases old : q < r
      · exact fewer q old
      · have upTo := kept_add_headDiscarded fl q
        have := headDiscarded_mono fl (Nat.le_of_not_lt old)
        omega
    · have same : fl.headDiscarded r = fl.headDiscarded r₀ := by omega
      refine ⟨fl', r, ?_, behind, by rw [same]; exact asked, fewer⟩
      rw [← same, Nat.sub_eq_of_eq_add here.symm]

/-- The shortest prefix of the window with `n` frames. -/
structure Shortest (fl : JbFramelist) (n p : Nat) : Prop where
  kept : fl.kept p = n
  fewer : ∀ q < p, fl.kept q < n

theorem exists_shortest (fl : JbFramelist) (r : Nat) : ∃ p ≤ r, Shortest fl (fl.kept r) p
      ∧ ∀ i, p ≤ i → i < r → fl.frameType (fl.place i) = .discarded := by
  have reached : ∃ p, fl.kept p = fl.kept r := ⟨r, rfl⟩
  refine ⟨Nat.find reached, Nat.find_min' reached rfl, ⟨Nat.find_spec reached, ?_⟩, ?_⟩
  · intro q below
    have le := kept_mono fl below.le
    rw [Nat.find_spec reached] at le
    exact lt_of_le_of_ne le (Nat.find_min reached below)
  · intro i behind below
    by_contra frame
    have low := kept_mono fl behind
    have high := kept_mono fl (show i + 1 ≤ r from below)
    have here := kept_succ fl i
    rw [if_pos frame] at here
    rw [Nat.find_spec reached] at low
    omega

/-- `pjmedia_jbuf_remove_frame` answers how many frames it has removed, which are as many as there
are of those asked for. The window loses the shortest prefix with these frames; where more frames
are asked for than there are, the discarded slots behind the last of them go too. -/
theorem removeFrame_shortest {jb : PjmediaJbuf} (rep : RepInv jb.jbFramelist) (frameCnt : Nat) :
    let fl := jb.jbFramelist
    let frames := min frameCnt (fl.size - fl.discardedNum)
    ∃ (fl' : JbFramelist) (removed p : Nat),
      pjmediaJbufRemoveFrame jb frameCnt = some ({ jb with jbFramelist := fl' }, frames)
      ∧ RepInv fl' ∧ fl'.origin = i32 (fl.origin + removed) ∧ fl'.size = fl.size - removed
      ∧ (∀ i < fl'.size, fl'.cell (fl'.place i) = fl.cell (fl.place (removed + i)))
      ∧ Shortest fl frames p ∧ p ≤ removed
      ∧ (∀ i, p ≤ i → i < removed → fl.frameType (fl.place i) = .discarded)
      ∧ (frameCnt ≤ fl.size - fl.discardedNum → removed = p)
      ∧ (fl.size - fl.discardedNum < frameCnt → removed = fl.size) := by
  intro fl frames
  have ok : FlShape fl := rep.toFlShape
  have counted : fl.discardedNum = fl.windowDiscarded := rep.counted
  have start : fl.headDiscarded 0 = 0 := rfl
  have whole : fl.kept fl.size + fl.discardedNum = fl.size := by
    rw [counted]
    exact kept_add_headDiscarded fl fl.size
  obtain ⟨first, answer⟩ := (Behind.here ok.origin_int).remove ok frameCnt
  rw [Nat.zero_add] at first
  have enough : fl.discardedNum - fl.headDiscarded 0 < fl.discardedNum + 1 := by omega
  have few : ∀ q < min frameCnt fl.size, fl.kept q < frameCnt := by
    intro q below
    have := kept_add_headDiscarded fl q
    omega
  obtain ⟨fl', r, ran, behind, asked, fewer⟩ := removeMore_kept ok counted enough first
    (Nat.zero_le _) (by rw [start, Nat.add_zero, Nat.min_comm]) few
  have here := kept_add_headDiscarded fl r
  have mono := kept_mono fl behind.within
  have all : fl.kept r = frames := by
    by_cases emptied : r = fl.size
    · rw [emptied] at here asked ⊢
      omega
    · omega
  obtain ⟨p, le, shortest, passed⟩ := exists_shortest fl r
  refine ⟨fl', r, p, ?_, behind.trimmed.rep rep, behind.origin, behind.size, behind.cells,
    all ▸ shortest, le, passed, ?_, by omega⟩
  · have ran : removeMore (fl.discardedNum + 1) (jbFramelistRemoveHead fl frameCnt).1
        fl.discardedNum (jbFramelistRemoveHead fl frameCnt).2 = some (fl', fl.kept r) := by
      rw [start, Nat.sub_zero, Nat.sub_zero, ← answer] at ran
      exact ran
    rw [← all]
    simp only [pjmediaJbufRemoveFrame, show jb.jbFramelist = fl from rfl, ran]
  · intro enough
    by_contra other
    have few := fewer p (by omega)
    have same := shortest.kept
    omega

theorem behindDiscarded_rep : ∃ jb,
    exec step (pjmediaJbufCreate clearedPool 1 250 20) behindDiscarded = some jb ∧
      Consistent jb := by
  have start := create_consistent clearedPool 1 250 (show 1 ≤ 20 by decide) (by decide)
  have defined : Along step Defined (pjmediaJbufCreate clearedPool 1 250 20) behindDiscarded := by
    decide +kernel
  have holds := (repInv_throughout_iff start defined).2 (by decide +kernel)
  obtain ⟨jb, ran, rep⟩ := holds.last
  have sizes : (exec step (pjmediaJbufCreate clearedPool 1 250 20) behindDiscarded).map
      (fun jb => (jb.jbMaxCount, jb.jbFramelist.maxCount, jb.jbFrameSize,
        jb.jbFramelist.frameSize)) = some (20, 20, 1, 1) := by
    decide +kernel
  rw [ran, Option.map_some, Option.some.injEq, Prod.mk.injEq, Prod.mk.injEq, Prod.mk.injEq] at sizes
  obtain ⟨max, flMax, size, flSize⟩ := sizes
  exact ⟨jb, ran, rep, max.trans flMax.symm, size.trans flSize.symm⟩

/-- The thirteenth frame is numbered 18 and stands behind the slot of frame 17: fourteen places
go. -/
theorem removeFrame_shortest_behindDiscarded : ∃ jb fl' removed p,
    exec step (pjmediaJbufCreate clearedPool 1 250 20) behindDiscarded = some jb ∧
      pjmediaJbufRemoveFrame jb 13 = some ({ jb with jbFramelist := fl' }, 13) ∧
      fl'.size = jb.jbFramelist.size - removed ∧ Shortest jb.jbFramelist 13 p ∧ removed = p := by
  obtain ⟨jb, ran, inv⟩ := behindDiscarded_rep
  have counts : (exec step (pjmediaJbufCreate clearedPool 1 250 20) behindDiscarded).map
      (fun jb => jb.jbFramelist.size - jb.jbFramelist.discardedNum) = some 13 := by
    decide +kernel
  rw [ran, Option.map_some, Option.some.injEq] at counts
  obtain ⟨fl', removed, p, answered, -, -, size, -, shortest, -, -, exact, -⟩ :=
    removeFrame_shortest inv.rep 13
  rw [counts] at answered shortest exact
  exact ⟨jb, fl', removed, p, ran, answered, size, shortest, exact (le_refl _)⟩

/-! ## Evicting -/

theorem putAt_full {base : JbFramelist} {index : Int} {frame : Frame} {frameType : FrameType}
    (ok : FlShape base) (fits : frame.bytes.length ≤ base.frameSize) (occupied : base.size ≠ 0)
    (full : base.maxCount ≤ i32 (index - base.origin))
    (near : i32 (index - base.origin) ≤ MAX_DROPOUT) :
    jbFramelistPutAt base index frame frameType = (base, .etoomany) := by
  have ahead : ¬ i32 (index - base.origin) < 0 := by omega
  have inTime : ¬ (i32 (index - base.origin) < 0 ∧ i32 (base.origin - index) < MAX_MISORDER) :=
    fun late => ahead late.1
  have inPlace : rebase base index = (base, i32 (index - base.origin)) := by
    simp only [rebase, if_neg ahead, if_neg occupied]
  have tooFar : i32 (index - base.origin) ≥ base.maxCount := full
  simp only [jbFramelistPutAt, if_neg (Nat.not_lt.2 fits), if_neg inTime, inPlace, ok.count_int,
    if_pos tooFar, if_neg (Int.not_lt.2 near)]

/-- What the eviction loop does to a list that was too full for `stored`, the frame as it is to be
stored: it removes slots from the head once, no more than it takes for the frame to fit. -/
structure Evicts (jb : PjmediaJbuf) (seq : Int) (frame stored : Frame) (base : JbFramelist) :
    Prop where
  distance : 0 < evictDistance seq base.origin jb.jbMaxCount
  once : ∃ fl' removed,
    jbFramelistRemoveHead base (u32 (evictDistance seq base.origin jb.jbMaxCount)) = (fl', removed)
      ∧ storeFrame jb seq frame = some ({ jb with
          jbFramelist := (jbFramelistPutAt fl' seq stored .normal).1
          jbDiscard := jb.jbDiscard + removed }, .success)
      ∧ ∀ k < removed, (jbFramelistPutAt (jbFramelistRemoveHead base k).1 seq stored .normal).2
          = .etoomany

theorem evicts {base : JbFramelist} {seq : Int} {frame : Frame}
    (ok : FlShape base) (int : IsInt seq) (max : jb.jbMaxCount = base.maxCount)
    (size : jb.jbFrameSize = base.frameSize) (occupied : base.size ≠ 0)
    (full : base.maxCount ≤ i32 (seq - base.origin))
    (near : i32 (seq - base.origin) ≤ MAX_DROPOUT)
    (first : jbFramelistPutAt jb.jbFramelist seq (truncate jb.jbFrameSize frame) .normal
      = (base, .etoomany)) :
    Evicts jb seq frame (truncate jb.jbFrameSize frame) base := by
  have fits : (truncate jb.jbFrameSize frame).bytes.length ≤ base.frameSize := by
    rw [← size]
    exact List.length_take_le _ _
  obtain ⟨ready, distance, evicted, slot, stored⟩ :=
    evict_round .normal ok int fits occupied full near
  obtain ⟨exact, count⟩ := evictDistance_eq ok full near
  rw [← max] at stored exact count
  refine ⟨by omega, (jbFramelistRemoveHead base _).1, (jbFramelistRemoveHead base _).2, rfl, ?_, ?_⟩
  · unfold storeFrame
    simp only [first]
    unfold evictLoop
    simp only [if_true, stored]
    exact evictLoop_done _ _ _ _ (show PjStatus.success ≠ .etoomany by decide)
  · intro k fewer
    have less : k < Nat.min (i32 (seq - base.origin) - jb.jbMaxCount + 1).toNat base.size := by
      rw [removeHead_eq, count] at fewer
      split at fewer
      · exact absurd fewer (Nat.not_lt_zero _)
      · exact fewer
    have less : k < (i32 (seq - base.origin) - jb.jbMaxCount + 1).toNat ∧ k < base.size :=
      lt_min_iff.mp less
    -- with fewer slots removed the frame is still a whole ring ahead of the origin
    have apart : i32 (seq - (jbFramelistRemoveHead base k).1.origin)
        = i32 (seq - base.origin) - k := by
      rw [removeHead_origin ok.origin_int, Nat.min_eq_left less.2.le]
      exact i32_nearer (by omega)
    have left := removeHead_size base k
    rw [putAt_full (removeHead_shape ok k) (by rwa [removeHead_frameSize]) (by omega)
      (by rw [apart, removeHead_maxCount]; omega) (by rw [apart]; omega)]

/-- The frame has a slot whose number is `seq`; unless that is negative, the slot is one of the
window. -/
def StoredAs (fl : JbFramelist) (seq : Int) (frame : Frame) : Prop :=
  ∃ d : Nat, i32 (fl.origin + d) = seq ∧ fl.cell (fl.place d) = some (Cell.ofFrame frame)
    ∧ (0 ≤ seq → d < fl.size)

theorem storeAt_stored {distance : Nat} {seq : Int} (ready : Ready fl seq distance)
    (frame : Frame) : StoredAs (storeAt fl seq distance frame .normal).1 seq frame := by
  have ok := ready.shape
  have free : ¬ fl.frameType ((fl.head + distance) % fl.maxCount) ≠ .missing :=
    not_not.mpr ready.free
  have number := ready.index_eq
  refine ⟨distance, ?_, ?_, fun natural => ?_⟩
  · simp only [storeAt, if_neg free]
    exact number
  · unfold JbFramelist.cell JbFramelist.place Ring.slot
    simp [storeAt, if_neg free, Cell.ofFrame, memcpy]
  · have near := ready.distance_lt
    have count := ok.maxCount_int
    obtain ⟨low, high⟩ := ok.origin_int
    rw [i32_eq] at number
    simp only [storeAt, if_neg free, ok.size_int, i32_eq (fl.origin + fl.size)]
    split
    · exact Nat.lt_succ_self distance
    · omega

/-- Storing a frame. The loop runs at most one round, and the frame is then in the list; a frame
that is reported as discarded leaves the list as it was. -/
theorem putFrame3_evicts {jb : PjmediaJbuf} (inv : Consistent jb) {seq : Int} (int : IsInt seq)
    (frame : Frame) :
    let stored := truncate jb.jbFrameSize frame
    let first := jbFramelistPutAt jb.jbFramelist seq stored .normal
    (first.2 ≠ .etoomany →
        storeFrame jb seq frame = some ({ jb with jbFramelist := first.1 }, first.2))
      ∧ (first.2 = .etoomany → Evicts jb seq frame stored first.1)
      ∧ (∀ jb', storeFrame jb seq frame = some (jb', .success) →
        StoredAs jb'.jbFramelist seq stored)
      ∧ ∀ jb', pjmediaJbufPutFrame3 jb seq frame = some (jb', true) →
        jb'.jbFramelist = jb.jbFramelist := by
  intro stored first
  have ok := inv.rep.toFlShape
  obtain ⟨fl, discard, status, ran, outcome⟩ :=
    storeFrame_spec ok inv.sizes.maxCount inv.sizes.frameSize int frame
  refine ⟨?_, ?_, ?_, ?_⟩
  · intro room
    unfold storeFrame
    exact evictLoop_done _ _ _ _ room
  · intro tooMany
    rcases putAt_cases ok int stored .normal with ⟨status, -, other, eq⟩ |
        ⟨base, how, occupied, full, near, eq⟩ | ⟨base, distance, -, -, eq⟩
    · have same : first.2 = status := by rw [show first = _ from eq]
      exact absurd (same.symm.trans tooMany) other
    · rw [show first = _ from eq]
      exact evicts (how.shape ok int) int (inv.sizes.maxCount.trans how.maxCount.symm)
        (inv.sizes.frameSize.trans how.frameSize.symm) occupied full near eq
    · have same : first.2 = .success := by rw [show first = _ from eq]
      exact absurd (same.symm.trans tooMany) (by decide)
  · intro jb' success
    rw [ran] at success
    cases success
    cases outcome with
    | refused other => exact absurd rfl other
    | accepted _ _ ready => exact storeAt_stored ready _
  · intro jb' put
    simp only [pjmediaJbufPutFrame3, ran] at put
    split at put
    · simp at put
    · rename_i failed
      cases put
      cases outcome with
      | refused => rfl
      | accepted => exact absurd rfl failed

/-- Frame 26 comes when places 5 to 18 of 20 are used: the first two places go. Frame 18 comes
once more, and is refused. -/
theorem putFrame3_evicts_behindDiscarded : ∃ jb base,
    exec step (pjmediaJbufCreate clearedPool 1 250 20) behindDiscarded = some jb ∧
      Evicts jb 26 ⟨[26], 0, 0⟩ ⟨[26], 0, 0⟩ base ∧
      ∃ jb', pjmediaJbufPutFrame3 jb 18 ⟨[18], 0, 18⟩ = some (jb', true) ∧
        jb'.jbFramelist = jb.jbFramelist := by
  obtain ⟨jb, ran, inv⟩ := behindDiscarded_rep
  have answers : (exec step (pjmediaJbufCreate clearedPool 1 250 20) behindDiscarded).map
      (fun jb => (truncate jb.jbFrameSize ⟨[26], 0, 0⟩,
        (jbFramelistPutAt jb.jbFramelist 26 ⟨[26], 0, 0⟩ .normal).2,
        (pjmediaJbufPutFrame3 jb 18 ⟨[18], 0, 18⟩).map Prod.snd)) =
      some (⟨[26], 0, 0⟩, .etoomany, some true) := by
    decide +kernel
  rw [ran, Option.map_some, Option.some.injEq, Prod.mk.injEq, Prod.mk.injEq] at answers
  obtain ⟨cut, full, again⟩ := answers
  obtain ⟨-, evicted, -, -⟩ := putFrame3_evicts inv (show IsInt 26 by decide) ⟨[26], 0, 0⟩
  obtain ⟨-, -, -, unchanged⟩ := putFrame3_evicts inv (show IsInt 18 by decide) ⟨[18], 0, 18⟩
  rw [cut] at evicted
  obtain ⟨⟨jb', flag⟩, put, rfl⟩ := Option.map_eq_some_iff.1 again
  exact ⟨jb, _, ran, evicted full, jb', put, unchanged jb' put⟩

end Pjsip.Pjmedia.Jbuf
