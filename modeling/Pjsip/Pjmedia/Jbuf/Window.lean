import Mathlib.Tactic.Cases
import Pjsip.Pjmedia.Jbuf.FrameList

/-!
# The window of the frame list

`InRing` is what every operation keeps: the head and the size are in range. `FlShape`
is kept as long as no number overflows, whatever the discard counter says: the slots
outside the window are cleared. The lemmas say what each frame-list operation does to
the window, place by place.
-/

namespace Pjsip.Pjmedia.Jbuf

open Pjsip.Base Pjsip.Pjlib

/-- The slot of place `i` of the window. -/
def JbFramelist.place (fl : JbFramelist) (i : Nat) : Nat := Ring.slot fl.maxCount fl.head i

/-- The slots that the window covers. -/
def JbFramelist.InWindow (fl : JbFramelist) (pos : Nat) : Prop :=
  Ring.Window fl.maxCount fl.head fl.size pos

/-- The slots of the window typed `DISCARDED`. -/
def JbFramelist.windowDiscarded (fl : JbFramelist) : Nat :=
  (List.range fl.size).countP (fun i => fl.frameType (fl.place i) = .discarded)

structure InRing (fl : JbFramelist) : Prop where
  head_lt : fl.head < fl.maxCount
  size_le : fl.size ≤ fl.maxCount
  maxCount_lt : fl.maxCount < 2 ^ 32

structure FlShape (fl : JbFramelist) : Prop extends InRing fl where
  maxCount_int : fl.maxCount < 2 ^ 31
  origin_int : IsInt fl.origin
  outside : ∀ pos < fl.maxCount, ¬ fl.InWindow pos →
    fl.frameType pos = .missing ∧ fl.contentLen pos = 0

variable {fl : JbFramelist}

theorem InRing.pos (ring : InRing fl) : 0 < fl.maxCount := Nat.zero_lt_of_lt ring.head_lt

theorem FlShape.count_int (ok : FlShape fl) : i32 fl.maxCount = fl.maxCount := by
  have := ok.maxCount_int
  exact i32_of_bounds (by omega) (by omega)

theorem FlShape.size_int (ok : FlShape fl) : i32 fl.size = fl.size := by
  have := ok.size_le
  have := ok.maxCount_int
  exact i32_of_bounds (by omega) (by omega)

theorem FlShape.place_lt (ok : FlShape fl) (i : Nat) : fl.place i < fl.maxCount :=
  Ring.slot_lt ok.pos fl.head i

theorem FlShape.inWindow_place (ok : FlShape fl) {i : Nat} (hi : i < fl.maxCount) :
    fl.InWindow (fl.place i) ↔ i < fl.size :=
  Ring.window_slot_iff ok.size_le hi

theorem FlShape.missing_of_le (ok : FlShape fl) {i : Nat} (past : fl.size ≤ i)
    (hi : i < fl.maxCount) : fl.frameType (fl.place i) = .missing :=
  (ok.outside _ (ok.place_lt i) (fun inside => by
    have := (ok.inWindow_place hi).mp inside
    omega)).1

theorem FlShape.of_places (ring : InRing fl) (maxCount_int : fl.maxCount < 2 ^ 31)
    (origin_int : IsInt fl.origin) (cleared : ∀ i, fl.size ≤ i → i < fl.maxCount →
      fl.frameType (fl.place i) = .missing ∧ fl.contentLen (fl.place i) = 0) : FlShape fl := by
  refine ⟨ring, maxCount_int, origin_int, fun pos hp out => ?_⟩
  obtain ⟨i, hi, rfl⟩ := Ring.slot_surj ring.head_lt hp
  refine cleared i ?_ hi
  by_contra inside
  exact out ⟨i, by omega, rfl⟩

theorem windowDiscarded_eq_slots (ok : FlShape fl) : fl.windowDiscarded =
      (List.range fl.maxCount).countP (fun pos => fl.frameType pos = .discarded) := by
  have hsize := ok.size_le
  have split : List.range fl.maxCount =
      List.range fl.size ++ (List.range (fl.maxCount - fl.size)).map (fl.size + ·) := by
    rw [← List.range_add]
    congr 1
    omega
  have past : ((List.range (fl.maxCount - fl.size)).map (fl.size + ·)).countP
      (fun i => fl.frameType (fl.place i) = .discarded) = 0 := by
    rw [List.countP_eq_zero]
    intro i hi
    obtain ⟨k, hk, rfl⟩ := List.mem_map.mp hi
    rw [List.mem_range] at hk
    simp [ok.missing_of_le (show fl.size ≤ fl.size + k by omega) (by omega)]
  calc
    fl.windowDiscarded =
        (List.range fl.maxCount).countP (fun i => fl.frameType (fl.place i) = .discarded) := by
      rw [split, List.countP_append, past]
      rfl
    _ = ((List.range fl.maxCount).map fl.place).countP
          (fun pos => fl.frameType pos = .discarded) := by
      rw [List.countP_map]
      rfl
    _ = _ := (Ring.map_slot_perm ok.head_lt).countP_eq _

/-! ## Reset and moving the origin -/

theorem fill_of_lt {β : Type} (arr : Nat → β) {n pos : Nat} (v : β) (hp : pos < n) :
    fill arr 0 n v pos = v := by
  simp [fill, hp]

theorem reset_inRing (pos : 0 < fl.maxCount) (lt : fl.maxCount < 2 ^ 32) :
    InRing (jbFramelistReset fl) :=
  ⟨pos, Nat.zero_le _, lt⟩

theorem reset_shape (pos : 0 < fl.maxCount) (int : fl.maxCount < 2 ^ 31) :
    FlShape (jbFramelistReset fl) := by
  refine ⟨reset_inRing pos (int.trans (by decide)), int, (by decide : IsInt INVALID_OFFSET), fun pos hp _ => ⟨?_, ?_⟩⟩
  · exact fill_of_lt _ _ hp
  · exact fill_of_lt _ _ hp

theorem InRing.withOrigin (ring : InRing fl) (origin : Int) :
    InRing { fl with origin := origin } :=
  { ring with }

theorem FlShape.withOrigin (ok : FlShape fl) {origin : Int} (int : IsInt origin) :
    FlShape { fl with origin := origin } :=
  { ok with origin_int := int }

/-! ## Removing from the head -/

theorem fill_steps {β : Type} (arr : Nat → β) (v : β) {n head count pos : Nat} (hh : head < n)
    (hc : count ≤ n) (hp : pos < n) :
    fill (fill arr head (if head + count > n then n - head else count) v) 0
      (count - (if head + count > n then n - head else count)) v pos =
    if Ring.Window n head count pos then v else arr pos := by
  have covered : Ring.Window n head count pos ↔ pos ∈ List.range' head (min count (n - head)) ++
        List.range' 0 (count - (n - head)) := by
    rw [← Ring.map_slot_range hh hc, List.mem_map]
    constructor
    · rintro ⟨i, hi, rfl⟩
      exact ⟨i, List.mem_range.mpr hi, rfl⟩
    · rintro ⟨i, hi, rfl⟩
      exact ⟨i, List.mem_range.mp hi, rfl⟩
  simp only [covered, List.mem_append, List.mem_range'_1, fill]
  by_cases wraps : head + count > n
  · simp only [wraps, if_true]
    split_ifs <;> first | rfl | omega
  · simp only [wraps, if_false]
    split_ifs <;> first | rfl | omega

theorem count_steps (frameType : Nat → FrameType) {n head count : Nat} (hh : head < n)
    (hc : count ≤ n) :
    let step1 := if head + count > n then n - head else count
    countDiscarded frameType head step1 +
        countDiscarded (fill frameType head step1 .missing) 0 (count - step1) =
      (List.range count).countP (fun i => frameType (Ring.slot n head i) = .discarded) := by
  intro step1
  have first : step1 = min count (n - head) := by
    simp only [step1]
    split <;> omega
  have second : count - step1 = count - (n - head) := by omega
  have untouched : countDiscarded (fill frameType head step1 .missing) 0 (count - step1) =
      countDiscarded frameType 0 (count - step1) := by
    apply List.countP_congr
    intro i hi
    have below : i < head := by
      rw [List.mem_range'_1] at hi
      omega
    simp [fill, Nat.not_le.mpr below]
  rw [untouched, second, first]
  unfold countDiscarded
  rw [← List.countP_append, ← Ring.map_slot_range hh hc, List.countP_map]
  rfl

section Remove

variable {count : Nat}

theorem removeSteps_place (i : Nat) : (removeSteps fl count).place i = fl.place (count + i) :=
  Ring.slot_advance fl.maxCount fl.head count i

theorem removeSteps_cell (ok : FlShape fl) (hc : count ≤ fl.size) {i : Nat} (hi : i < fl.maxCount) :
    (removeSteps fl count).frameType (fl.place i) =
        (if i < count then .missing else fl.frameType (fl.place i)) ∧
      (removeSteps fl count).contentLen (fl.place i) =
        (if i < count then 0 else fl.contentLen (fl.place i)) := by
  have fits : count ≤ fl.maxCount := le_trans hc ok.size_le
  have window : Ring.Window fl.maxCount fl.head count (Ring.slot fl.maxCount fl.head i) ↔ i < count :=
    Ring.window_slot_iff fits hi
  constructor
  · have cleared := fill_steps fl.frameType .missing ok.head_lt fits (ok.place_lt i)
    simpa [removeSteps, JbFramelist.place, window] using cleared
  · have cleared := fill_steps fl.contentLen 0 ok.head_lt fits (ok.place_lt i)
    simpa [removeSteps, JbFramelist.place, window] using cleared

theorem removeSteps_inRing (ring : InRing fl) : InRing (removeSteps fl count) :=
  ⟨Nat.mod_lt _ ring.pos, (Nat.sub_le _ _).trans ring.size_le, ring.maxCount_lt⟩

theorem removeSteps_shape (ok : FlShape fl) (hc : count ≤ fl.size) :
    FlShape (removeSteps fl count) := by
  have hsize := ok.size_le
  refine .of_places (removeSteps_inRing ok.toInRing) ok.maxCount_int (i32_range _) ?_
  intro i past hi
  have past : fl.size - count ≤ i := past
  have hi : i < fl.maxCount := hi
  rw [removeSteps_place]
  by_cases turned : count + i < fl.maxCount
  · obtain ⟨typeEq, lenEq⟩ := removeSteps_cell ok hc turned
    have out : ¬ fl.InWindow (fl.place (count + i)) := by
      rw [ok.inWindow_place turned]
      omega
    have cleared := ok.outside _ (ok.place_lt _) out
    rw [typeEq, lenEq, if_neg (by omega), if_neg (by omega)]
    exact cleared
  · -- the place is one of those just removed, one turn of the ring further on
    have back : fl.place (count + i) = fl.place (count + i - fl.maxCount) := by
      unfold JbFramelist.place Ring.slot
      rw [show fl.head + (count + i) = fl.head + (count + i - fl.maxCount) + fl.maxCount by omega,
        Nat.add_mod_right]
    obtain ⟨typeEq, lenEq⟩ :=
      removeSteps_cell ok hc (show count + i - fl.maxCount < fl.maxCount by omega)
    rw [back, typeEq, lenEq, if_pos (by omega), if_pos (by omega)]
    exact ⟨rfl, rfl⟩

/-- The discarded slots among the first `count` places. -/
def JbFramelist.headDiscarded (fl : JbFramelist) (count : Nat) : Nat :=
  (List.range count).countP (fun i => fl.frameType (fl.place i) = .discarded)

theorem removeSteps_discardedNum (ok : FlShape fl) (hc : count ≤ fl.size) :
    (removeSteps fl count).discardedNum = fl.discardedNum - fl.headDiscarded count := by
  have counted := count_steps fl.frameType ok.head_lt (le_trans hc ok.size_le)
  show fl.discardedNum - _ - _ = fl.discardedNum - _
  rw [Nat.sub_sub, counted]
  rfl

theorem headDiscarded_split (ok : FlShape fl) {k : Nat} (hc : count + k ≤ fl.size) :
    fl.headDiscarded (count + k) =
      fl.headDiscarded count + (removeSteps fl count).headDiscarded k := by
  have hsize := ok.size_le
  unfold JbFramelist.headDiscarded
  rw [List.range_add, List.countP_append, List.countP_map]
  congr 1
  apply List.countP_congr
  intro i hi
  have hi : i < k := List.mem_range.mp hi
  have kept := (removeSteps_cell ok (show count ≤ fl.size by omega)
    (show count + i < fl.maxCount by omega)).1
  rw [if_neg (by omega)] at kept
  simp [removeSteps_place, kept]

theorem removeSteps_counted (ok : FlShape fl) (hc : count ≤ fl.size)
    (counted : fl.discardedNum = fl.windowDiscarded) :
    (removeSteps fl count).discardedNum = (removeSteps fl count).windowDiscarded := by
  have parts := headDiscarded_split ok (show count + (fl.size - count) ≤ fl.size by omega)
  rw [Nat.add_sub_cancel' hc] at parts
  rw [removeSteps_discardedNum ok hc, counted]
  exact Nat.sub_eq_of_eq_add' parts

end Remove

theorem removeHead_eq (fl : JbFramelist) (count : Nat) : jbFramelistRemoveHead fl count =
      if min count fl.size = 0 then (fl, 0)
      else (removeSteps fl (min count fl.size), min count fl.size) := by
  have clipped : (if count > fl.size then fl.size else count) = min count fl.size := by
    split <;> omega
  simp only [jbFramelistRemoveHead, clipped]

@[simp] theorem removeHead_maxCount (fl : JbFramelist) (count : Nat) :
    (jbFramelistRemoveHead fl count).1.maxCount = fl.maxCount := by
  rw [removeHead_eq]
  split <;> rfl

@[simp] theorem removeHead_frameSize (fl : JbFramelist) (count : Nat) :
    (jbFramelistRemoveHead fl count).1.frameSize = fl.frameSize := by
  rw [removeHead_eq]
  split <;> rfl

theorem removeHead_size (fl : JbFramelist) (count : Nat) :
    (jbFramelistRemoveHead fl count).1.size = fl.size - count := by
  rw [removeHead_eq]
  split
  · simp only
    omega
  · simp only [removeSteps]
    omega

theorem removeHead_origin (int : IsInt fl.origin) (count : Nat) :
    (jbFramelistRemoveHead fl count).1.origin = i32 (fl.origin + min count fl.size) := by
  rw [removeHead_eq]
  split
  · rename_i nothing
    rw [nothing, Nat.cast_zero, Int.add_zero, i32_self int]
  · rfl

theorem removeHead_inRing (ring : InRing fl) (count : Nat) :
    InRing (jbFramelistRemoveHead fl count).1 := by
  rw [removeHead_eq]
  split
  · exact ring
  · exact removeSteps_inRing ring

theorem removeHead_shape (ok : FlShape fl) (count : Nat) :
    FlShape (jbFramelistRemoveHead fl count).1 := by
  rw [removeHead_eq]
  split
  · exact ok
  · exact removeSteps_shape ok (Nat.min_le_right _ _)

theorem removeHead_counted (ok : FlShape fl) (counted : fl.discardedNum = fl.windowDiscarded)
    (count : Nat) :
    (jbFramelistRemoveHead fl count).1.discardedNum =
      (jbFramelistRemoveHead fl count).1.windowDiscarded := by
  rw [removeHead_eq]
  split
  · exact counted
  · exact removeSteps_counted ok (Nat.min_le_right _ _) counted

/-! ## The head handed over -/

theorem takeHead_inRing (ring : InRing fl) (prevDiscarded : Bool) (size : Option Nat) :
    InRing (takeHead fl prevDiscarded size).1 :=
  ⟨Nat.mod_lt _ ring.pos, (Nat.sub_le _ _).trans ring.size_le, ring.maxCount_lt⟩

theorem takeHead_shape (ok : FlShape fl) (nonempty : 0 < fl.size) (prevDiscarded : Bool)
    (size : Option Nat) : FlShape (takeHead fl prevDiscarded size).1 := by
  have hsize := ok.size_le
  refine .of_places (takeHead_inRing ok.toInRing _ _) ok.maxCount_int (i32_range _) ?_
  intro i past hi
  have past : fl.size - 1 ≤ i := past
  have hi : i < fl.maxCount := hi
  have place : (takeHead fl prevDiscarded size).1.place i = fl.place (1 + i) :=
    Ring.slot_advance fl.maxCount fl.head 1 i
  rw [place]
  simp only [takeHead, Function.update_apply]
  split
  · exact ⟨rfl, rfl⟩
  · rename_i other
    have turned : 1 + i < fl.maxCount := by
      by_contra full
      apply other
      have last : 1 + i = fl.maxCount := by omega
      rw [last]
      simpa [JbFramelist.place, Ring.slot] using Nat.mod_eq_of_lt ok.head_lt
    apply ok.outside _ (ok.place_lt _)
    rw [ok.inWindow_place turned]
    omega

theorem takeHead_windowDiscarded (ok : FlShape fl) (nonempty : 0 < fl.size)
    (kept : fl.frameType fl.head ≠ .discarded) (prevDiscarded : Bool) (size : Option Nat) :
    (takeHead fl prevDiscarded size).1.windowDiscarded = fl.windowDiscarded := by
  rw [windowDiscarded_eq_slots ok,
    windowDiscarded_eq_slots (takeHead_shape ok nonempty prevDiscarded size)]
  apply List.countP_congr
  intro pos _
  by_cases same : pos = fl.head
  · subst same
    simp [takeHead, kept]
  · simp [takeHead, Function.update_of_ne same]

/-! ## Storing and discarding -/

variable {distance : Nat}

theorem storeAt_inRing (ring : InRing fl) (index : Int)
    (hd : distance < fl.maxCount) (frame : Frame) (frameType : FrameType) :
    InRing (storeAt fl index distance frame frameType).1 := by
  have hsize := ring.size_le
  unfold storeAt
  simp only
  split
  · exact ring
  · refine ⟨ring.head_lt, ?_, ring.maxCount_lt⟩
    simp only
    split <;> omega

theorem storeAt_shape (ok : FlShape fl) (index : Int)
    (hd : distance < fl.maxCount) (frame : Frame) (frameType : FrameType)
    (room : i32 (fl.origin + i32 fl.size) ≤ index ↔ fl.size ≤ distance) :
    FlShape (storeAt fl index distance frame frameType).1 := by
  have hsize := ok.size_le
  have ring := storeAt_inRing ok.toInRing index hd frame frameType
  unfold storeAt at ring ⊢
  simp only at ring ⊢
  split
  · exact ok
  · rename_i free
    rw [if_neg free] at ring
    refine .of_places ring ok.maxCount_int ok.origin_int ?_
    · intro i past hi
      have hi : i < fl.maxCount := hi
      simp only [room] at past
      have past : fl.size ≤ i ∧ distance < i := by
        split at past <;> omega
      have other : fl.place i ≠ (fl.head + distance) % fl.maxCount := by
        intro same
        have := Ring.slot_inj hi hd same
        omega
      show Function.update fl.frameType _ frameType (fl.place i) = .missing ∧
        Function.update fl.contentLen _ frame.bytes.length (fl.place i) = 0
      rw [Function.update_of_ne other, Function.update_of_ne other]
      apply ok.outside _ (ok.place_lt _)
      rw [ok.inWindow_place hi]
      omega

theorem discard_inRing (ring : InRing fl) (index : Int) :
    InRing (jbFramelistDiscard fl index).1 := by
  unfold jbFramelistDiscard
  split
  · exact { ring with }
  · exact ring

theorem FlShape.end_le (ok : FlShape fl) : i32 (fl.origin + i32 fl.size) ≤ fl.origin + fl.size := by
  have := ok.origin_int.1
  rw [ok.size_int, i32_eq]
  omega

theorem discard_shape (ok : FlShape fl) (index : Int) : FlShape (jbFramelistDiscard fl index).1 := by
  have ring := discard_inRing ok.toInRing index
  have high := ok.end_le
  have hsize := ok.size_le
  unfold jbFramelistDiscard at ring ⊢
  split
  · rename_i inside
    rw [if_pos inside] at ring
    refine .of_places ring ok.maxCount_int ok.origin_int ?_
    intro i past hi
    have hi : i < fl.maxCount := hi
    have past : fl.size ≤ i := past
    have other : fl.place i ≠ (fl.head + (index - fl.origin).toNat) % fl.maxCount := by
      intro same
      have := Ring.slot_inj hi (by omega) same
      omega
    show Function.update fl.frameType _ .discarded (fl.place i) = .missing ∧
      fl.contentLen (fl.place i) = 0
    rw [Function.update_of_ne other]
    apply ok.outside _ (ok.place_lt _)
    rw [ok.inWindow_place hi]
    omega
  · exact ok

theorem storeAt_windowDiscarded (ok : FlShape fl) (index : Int)
    (hd : distance < fl.maxCount) (frame : Frame)
    (room : i32 (fl.origin + i32 fl.size) ≤ index ↔ fl.size ≤ distance) :
    (storeAt fl index distance frame .normal).1.windowDiscarded = fl.windowDiscarded := by
  rw [windowDiscarded_eq_slots ok,
    windowDiscarded_eq_slots (storeAt_shape ok index hd frame .normal room)]
  unfold storeAt
  simp only
  split
  · rfl
  · rename_i empty
    apply List.countP_congr
    intro pos _
    by_cases same : pos = (fl.head + distance) % fl.maxCount
    · subst same
      have missing : fl.frameType ((fl.head + distance) % fl.maxCount) = .missing := by
        simpa using empty
      simp [missing]
    · simp [Function.update_of_ne same]

private theorem countP_range_update {n pos : Nat} (hp : pos < n) (p q : Nat → Bool)
    (here : p pos = false ∧ q pos = true) (elsewhere : ∀ i, i ≠ pos → q i = p i) :
    (List.range n).countP q = (List.range n).countP p + 1 := by
  have parts : (List.range n).Perm (pos :: (List.range n).erase pos) :=
    List.perm_cons_erase (List.mem_range.mpr hp)
  rw [parts.countP_eq q, parts.countP_eq p, List.countP_cons_of_pos here.2,
    List.countP_cons_of_neg (by simp [here.1])]
  congr 1
  apply List.countP_congr
  intro i hi
  have other : i ≠ pos := (List.Nodup.mem_erase_iff List.nodup_range).mp hi |>.1
  rw [elsewhere i other]

/-- The slot that `jb_framelist_discard` marks for a sequence number of the window. -/
def JbFramelist.slotOf (fl : JbFramelist) (index : Int) : Nat :=
  (fl.head + (index - fl.origin).toNat) % fl.maxCount

/-- Discarding adds one discarded slot, unless the slot was discarded already. -/
theorem discard_windowDiscarded (ok : FlShape fl) {index : Int}
    (inside : fl.origin ≤ index ∧ index < i32 (fl.origin + i32 fl.size)) :
    (jbFramelistDiscard fl index).1.windowDiscarded =
      if fl.frameType (fl.slotOf index) = .discarded then fl.windowDiscarded
      else fl.windowDiscarded + 1 := by
  have hslot : fl.slotOf index < fl.maxCount := Nat.mod_lt _ ok.pos
  have typeEq : (jbFramelistDiscard fl index).1.frameType =
      Function.update fl.frameType (fl.slotOf index) .discarded := by
    simp only [jbFramelistDiscard, if_pos inside, JbFramelist.slotOf]
  have maxEq : (jbFramelistDiscard fl index).1.maxCount = fl.maxCount := by
    simp only [jbFramelistDiscard, if_pos inside]
  rw [windowDiscarded_eq_slots ok, windowDiscarded_eq_slots (discard_shape ok index), typeEq, maxEq]
  split
  · rename_i already
    rw [← already, Function.update_eq_self]
  · rename_i fresh
    apply countP_range_update hslot
    · simp [fresh]
    · intro i other
      simp [Function.update_of_ne other]

end Pjsip.Pjmedia.Jbuf
