import Pjsip.Pjmedia.CircBuf

/-!
# The delay buffer (`delaybuf.c`)

With `PJMEDIA_DELAY_BUF_SIMPLE_FIFO` there is no drift handler: frames are put into a circular buffer
and got from it.
-/

namespace Pjsip.Pjmedia.Delay

open Pjsip.Base
open Pjsip.Pjmedia.CircBuf hiding Op step Refines queueStep Careful

/-! ## The model -/

/-- Where the recalculation timer starts, in milliseconds. -/
def recalcTime : Int := 2000

/-- The maximum delay in milliseconds when less than a frame time is asked for. -/
def defaultMaxDelay : UInt32 := 400

/-- `pjmedia_delay_buf` without a drift handler. -/
structure DelayBuf (samplesPerFrame : UInt32) where
  ptime : UInt32
  channelCount : UInt32
  circBuf : Circ
  maxCnt : UInt32
  effCnt : UInt32
  recalcTimer : Int

/-- The samples of one frame. -/
abbrev Frame (samplesPerFrame : UInt32) :=
  { samples : List Int16 // samples.length = samplesPerFrame.toNat }

inductive Creation (samplesPerFrame : UInt32) where
  | ok (b : DelayBuf samplesPerFrame)
  | einval

/-- There is no quotient by zero. -/
def quotient (a b : UInt32) : Option UInt32 := if b = 0 then none else some (a / b)

/-- The maximum delay, which is not less than a frame time. -/
def delayUsed (ptime maxDelay : UInt32) : UInt32 :=
  if maxDelay < ptime then max defaultMaxDelay ptime else maxDelay

/-- `pjmedia_delay_buf_create` -/
def pjmediaDelayBufCreate (clockRate samplesPerFrame channelCount maxDelay : UInt32) :
    Option (Creation samplesPerFrame) :=
  if samplesPerFrame = 0 ∨ clockRate = 0 ∨ channelCount = 0 then some .einval
  else do
    let perRate ← quotient (samplesPerFrame * 1000) clockRate
    let ptime ← quotient perRate channelCount
    let maxCnt ← quotient (samplesPerFrame * delayUsed ptime maxDelay) ptime
    some (.ok
      { ptime, channelCount, maxCnt
        circBuf := pjmediaCircBufCreate maxCnt
        effCnt := maxCnt >>> 1
        recalcTimer := recalcTime })

section Calls

variable {samplesPerFrame : UInt32}

/-- The samples that are buffered, as an `unsigned`. -/
def DelayBuf.len (b : DelayBuf samplesPerFrame) : UInt32 := .ofNat b.circBuf.len

def Frame.all (frame : Frame samplesPerFrame) : Samples :=
  ⟨frame.1, by rw [frame.2]; exact samplesPerFrame.toNat_lt⟩

/-- The overflow check of `pjmedia_delay_buf_put`. -/
def dropEldest (b : DelayBuf samplesPerFrame) : Circ :=
  if b.maxCnt < b.len + samplesPerFrame then
    pjmediaCircBufAdvReadPtr b.circBuf (b.len + samplesPerFrame - b.maxCnt)
  else b.circBuf

/-- `pjmedia_delay_buf_put`, where nobody looks at what `pjmedia_circ_buf_write` returns. -/
def pjmediaDelayBufPut (b : DelayBuf samplesPerFrame) (frame : Frame samplesPerFrame) :
    Option (DelayBuf samplesPerFrame) :=
  (pjmediaCircBufWrite (dropEldest b) frame.all).map fun written =>
    { b with circBuf := written.1 }

/-- What is in `frame` once samples have been read to it, or have not been. -/
def readTo (frame : List Int16) : Answer → List Int16
  | .ok samples => overwrite frame 0 samples
  | .etoobig => frame

/-- `pjmedia_delay_buf_get`, with what is in `frame` before and after. -/
def pjmediaDelayBufGet (b : DelayBuf samplesPerFrame) (frame : Frame samplesPerFrame) :
    Option (DelayBuf samplesPerFrame × List Int16) :=
  if b.len < samplesPerFrame then
    (pjmediaCircBufRead b.circBuf b.len).map fun taken =>
      ({ b with circBuf := pjmediaCircBufReset taken.1 },
        overwrite (readTo frame.1 taken.2) b.len.toNat
          (List.replicate (samplesPerFrame - b.len).toNat 0))
  else
    (pjmediaCircBufRead b.circBuf samplesPerFrame).map fun taken =>
      ({ b with circBuf := taken.1 }, readTo frame.1 taken.2)

/-- `pjmedia_delay_buf_reset` -/
def pjmediaDelayBufReset (b : DelayBuf samplesPerFrame) : DelayBuf samplesPerFrame :=
  { b with recalcTimer := recalcTime, circBuf := pjmediaCircBufReset b.circBuf }

end Calls

/-! ## Runs -/

/-- The calls, with the frames that they are made with. -/
inductive Op (samplesPerFrame : UInt32) where
  | put (frame : Frame samplesPerFrame)
  | get (frame : Frame samplesPerFrame)
  | reset

section Runs

variable {samplesPerFrame : UInt32}

/-- A call, and the frame that it returns. -/
def step (b : DelayBuf samplesPerFrame) :
    Op samplesPerFrame → Option (DelayBuf samplesPerFrame × List Int16)
  | .put frame => (pjmediaDelayBufPut b frame).map (·, [])
  | .get frame => pjmediaDelayBufGet b frame
  | .reset => some (pjmediaDelayBufReset b, [])

/-- A queue of at most `maxCnt` samples: what is in it after a call, and the frame returned. A frame
put into it drives out the eldest samples that there is no room for; one got from it is filled up
with zeros. -/
def queueStep (maxCnt : Nat) (queue : List Int16) : Op samplesPerFrame → List Int16 × List Int16
  | .put frame => (queue.drop (queue.length + frame.1.length - maxCnt) ++ frame.1, [])
  | .get _ =>
    if queue.length < samplesPerFrame.toNat then
      ([], queue ++ List.replicate (samplesPerFrame.toNat - queue.length) 0)
    else (queue.drop samplesPerFrame.toNat, queue.take samplesPerFrame.toNat)
  | .reset => ([], [])

/-- A call does to the samples what the queue does, and returns what the queue returns. -/
def Refines (b : DelayBuf samplesPerFrame) (op : Op samplesPerFrame)
    (b' : DelayBuf samplesPerFrame) (frame : List Int16) : Prop :=
  (b'.circBuf.content, frame) = queueStep b.maxCnt.toNat b.circBuf.content op

end Runs

/-- A buffer for one frame at least is created, and whatever calls are made, it is a queue. -/
def Fifo (clockRate samplesPerFrame channelCount maxDelay : UInt32) : Prop :=
  ∃ b, pjmediaDelayBufCreate clockRate samplesPerFrame channelCount maxDelay = some (.ok b)
    ∧ samplesPerFrame ≤ b.maxCnt ∧ b.circBuf.content = []
    ∧ ∀ ops, Stepwise step Refines b ops

/-! ## One call -/

section Calls

variable {samplesPerFrame : UInt32} {b : DelayBuf samplesPerFrame}

/-- The array is of `maxCnt` samples; a frame fits in, and is copied in one piece. -/
structure DelayBuf.Sound (b : DelayBuf samplesPerFrame) : Prop where
  circ : b.circBuf.Sound
  capacity : b.circBuf.capacity = b.maxCnt.toNat
  frame : samplesPerFrame.toNat ≤ b.maxCnt.toNat
  short : samplesPerFrame.toNat < 2 ^ 31

theorem toNat_len (sound : b.Sound) : b.len.toNat = b.circBuf.len := by
  have len := sound.circ.len
  have counted := sound.circ.counted
  exact Nat.mod_eq_of_lt (by omega)

theorem len_le (sound : b.Sound) : b.len.toNat ≤ b.maxCnt.toNat := by
  rw [toNat_len sound, ← sound.capacity]
  exact sound.circ.len

@[simp] theorem all_length (frame : Frame samplesPerFrame) :
    frame.all.1.length = samplesPerFrame.toNat := frame.2

theorem dropEldest_spec (sound : b.Sound)
    (small : b.len.toNat + samplesPerFrame.toNat < 2 ^ 32) :
    (dropEldest b).Sound ∧ (dropEldest b).capacity = b.maxCnt.toNat
      ∧ (dropEldest b).content
        = b.circBuf.content.drop (b.len.toNat + samplesPerFrame.toNat - b.maxCnt.toNat) := by
  have sum : (b.len + samplesPerFrame).toNat = b.len.toNat + samplesPerFrame.toNat := by
    exact Nat.mod_eq_of_lt small
  unfold dropEldest
  by_cases beyond : b.maxCnt < b.len + samplesPerFrame
  · have excess : (b.len + samplesPerFrame - b.maxCnt).toNat
        = b.len.toNat + samplesPerFrame.toNat - b.maxCnt.toNat := by
      rw [UInt32.toNat_sub_of_le _ _ (UInt32.le_of_lt beyond), sum]
    obtain ⟨sound', content, same⟩ := advReadPtr_spec sound.circ
      (b.len + samplesPerFrame - b.maxCnt)
    rw [if_pos beyond]
    refine ⟨sound', ?_, by rw [content, excess]⟩
    rw [Circ.capacity, same]
    exact sound.capacity
  · have fits : b.len.toNat + samplesPerFrame.toNat ≤ b.maxCnt.toNat := by
      rw [← sum]
      exact UInt32.not_lt.mp beyond
    rw [if_neg beyond, Nat.sub_eq_zero_of_le fits]
    exact ⟨sound.circ, sound.capacity, rfl⟩

theorem put_refines (sound : b.Sound) (small : b.len.toNat + samplesPerFrame.toNat < 2 ^ 32)
    (frame : Frame samplesPerFrame) :
    ∃ b', step b (.put frame) = some (b', []) ∧ Refines b (.put frame) b' [] ∧ b'.Sound
      ∧ b'.maxCnt = b.maxCnt := by
  obtain ⟨dropped, capacity, content⟩ := dropEldest_spec sound small
  have fits : (dropEldest b).len + frame.all.1.length ≤ (dropEldest b).capacity := by
    rw [← content_length dropped, content, List.length_drop, content_length sound.circ,
      ← toNat_len sound, capacity, all_length]
    have := sound.frame
    omega
  obtain ⟨cb', taken, sound', content', capacity'⟩ := write_spec dropped fits (.of_lt (by
    rw [all_length]
    exact sound.short))
  refine ⟨{ b with circBuf := cb' }, ?_, ?_,
    ⟨sound', capacity'.trans capacity, sound.frame, sound.short⟩, rfl⟩
  · unfold step pjmediaDelayBufPut
    dsimp only
    rw [taken]
    rfl
  · unfold Refines queueStep
    dsimp only
    rw [content', content, content_length sound.circ, ← toNat_len sound, frame.2]
    rfl

theorem overwrite_frame (frame samples rest : List Int16)
    (size : frame.length = samples.length + rest.length) :
    overwrite (overwrite frame 0 samples) samples.length rest = samples ++ rest := by
  have whole := overwrite_overwrite (l := frame) 0 samples rest (by
    rw [List.length_append]
    omega)
  rw [Nat.zero_add] at whole
  rw [whole, overwrite, List.take_zero, List.nil_append, Nat.zero_add,
    List.drop_eq_nil_of_le (by rw [List.length_append]; omega), List.append_nil]

theorem get_refines (sound : b.Sound) (frame : Frame samplesPerFrame) :
    ∃ b' returned, step b (.get frame) = some (b', returned)
      ∧ Refines b (.get frame) b' returned ∧ b'.Sound ∧ b'.maxCnt = b.maxCnt := by
  have short := sound.short
  have len := toNat_len sound
  have contentLength := content_length sound.circ
  unfold step pjmediaDelayBufGet Refines queueStep
  dsimp only
  by_cases few : b.len < samplesPerFrame
  · have fewer : b.circBuf.len < samplesPerFrame.toNat := by
      rw [← len]
      exact few
    obtain ⟨taken', -, same⟩ := advReadPtr_spec sound.circ b.len
    rw [if_pos few, if_pos (by omega),
      read_spec sound.circ (Nat.le_of_eq len) (.of_lt (by omega))]
    have all : b.circBuf.content.take b.len.toNat = b.circBuf.content :=
      List.take_of_length_le (by omega)
    have zeros : (samplesPerFrame - b.len).toNat = samplesPerFrame.toNat - b.circBuf.len := by
      rw [UInt32.toNat_sub_of_le _ _ (UInt32.le_of_lt few), len]
    refine ⟨_, _, rfl, ?_,
      ⟨reset_sound taken', ?_, sound.frame, short⟩, rfl⟩
    · show ((pjmediaCircBufReset _).content, overwrite (overwrite frame.1 0 _) b.len.toNat _) = _
      rw [reset_content, all, zeros, len, ← contentLength, overwrite_frame]
      rw [frame.2, List.length_replicate]
      omega
    · show List.length _ = _
      exact (congrArg List.length same).trans sound.capacity
  · have enough : samplesPerFrame.toNat ≤ b.circBuf.len := by
      rw [← len]
      exact UInt32.not_lt.mp few
    obtain ⟨sound', content, same⟩ := advReadPtr_spec sound.circ samplesPerFrame
    rw [if_neg few, if_neg (by omega), read_spec sound.circ enough (.of_lt short)]
    refine ⟨_, _, rfl, ?_, ⟨sound', ?_, sound.frame, short⟩, rfl⟩
    · have filled := overwrite_frame frame.1
        (b.circBuf.content.take samplesPerFrame.toNat) [] (by
          rw [frame.2, List.length_take]
          simp only [List.length_nil]
          omega)
      rw [overwrite_nil, List.append_nil] at filled
      show ((pjmediaCircBufAdvReadPtr _ _).content, overwrite frame.1 0 _) = _
      rw [content, filled]
    · show List.length _ = _
      exact (congrArg List.length same).trans sound.capacity

theorem reset_refines (sound : b.Sound) :
    Refines b .reset (pjmediaDelayBufReset b) [] ∧ (pjmediaDelayBufReset b).Sound := by
  refine ⟨?_, reset_sound sound.circ, sound.capacity, sound.frame, sound.short⟩
  show ((pjmediaCircBufReset b.circBuf).content, []) = ([], [])
  rw [reset_content]

theorem put_lost (sound : b.Sound) (wraps : 2 ^ 32 ≤ b.len.toNat + samplesPerFrame.toNat)
    (frame : Frame samplesPerFrame) : step b (.put frame) = some (b, []) := by
  have inside := len_le sound
  have len := toNat_len sound
  have capacity := sound.capacity
  have large := b.maxCnt.toNat_lt
  have kept : dropEldest b = b.circBuf := by
    refine if_neg ?_
    rw [UInt32.lt_iff_toNat_lt, UInt32.toNat_add]
    have := sound.short
    omega
  have refused : pjmediaCircBufWrite b.circBuf frame.all = some (b.circBuf, .etoobig) := by
    refine if_pos ?_
    rw [all_length]
    omega
  unfold step pjmediaDelayBufPut
  dsimp only
  rw [kept, refused]
  rfl

theorem put_sound (sound : b.Sound) {frame : Frame samplesPerFrame}
    {b' : DelayBuf samplesPerFrame} {returned : List Int16}
    (taken : step b (.put frame) = some (b', returned)) : b'.Sound ∧ b'.maxCnt = b.maxCnt := by
  by_cases small : b.len.toNat + samplesPerFrame.toNat < 2 ^ 32
  · obtain ⟨_, taken', -, sound', same⟩ := put_refines sound small frame
    rw [taken'] at taken
    cases taken
    exact ⟨sound', same⟩
  · rw [put_lost sound (Nat.le_of_not_lt small)] at taken
    cases taken
    exact ⟨sound, rfl⟩

end Calls

/-! ## Creation -/

section Creation

/-- A frame's time in milliseconds. -/
def frameTime (clockRate samplesPerFrame channelCount : UInt32) : Nat :=
  samplesPerFrame.toNat * 1000 / clockRate.toNat / channelCount.toNat

/-- The maximum delay that there is room for, in milliseconds. -/
def longestDelay (ptime maxDelay : Nat) : Nat :=
  if maxDelay < ptime then max 400 ptime else maxDelay

variable {clockRate samplesPerFrame channelCount : UInt32}

theorem toNat_delayUsed (ptime maxDelay : UInt32) :
    (delayUsed ptime maxDelay).toNat = longestDelay ptime.toNat maxDelay.toNat := by
  unfold delayUsed longestDelay
  by_cases less : maxDelay < ptime
  · have less' : maxDelay.toNat < ptime.toNat := less
    rw [if_pos less, if_pos less']
    show (if (400 : UInt32) ≤ ptime then ptime else 400).toNat = max 400 ptime.toNat
    by_cases long : (400 : UInt32) ≤ ptime
    · have long' : 400 ≤ ptime.toNat := long
      rw [if_pos long, Nat.max_eq_right long']
    · have short : ¬ 400 ≤ ptime.toNat := long
      rw [if_neg long, Nat.max_eq_left (Nat.le_of_not_le short)]
      rfl
  · have more : ¬ maxDelay.toNat < ptime.toNat := less
    rw [if_neg less, if_neg more]

theorem longestDelay_ge (ptime maxDelay : Nat) : ptime ≤ longestDelay ptime maxDelay := by
  unfold longestDelay
  split <;> omega

theorem frameTime_pos (rate : 0 < clockRate) (channels : 0 < channelCount) :
    0 < frameTime clockRate samplesPerFrame channelCount
      ↔ clockRate.toNat * channelCount.toNat ≤ samplesPerFrame.toNat * 1000 := by
  have rate' : 0 < clockRate.toNat := rate
  have channels' : 0 < channelCount.toNat := channels
  unfold frameTime
  rw [Nat.div_div_eq_div_mul, Nat.div_pos_iff]
  exact ⟨And.right, fun whole => ⟨Nat.mul_pos rate' channels', whole⟩⟩

/-- What is given by the quotient of the capacity. -/
def created (channelCount ptime maxCnt : UInt32) : DelayBuf samplesPerFrame where
  ptime
  channelCount
  circBuf := pjmediaCircBufCreate maxCnt
  maxCnt
  effCnt := maxCnt >>> 1
  recalcTimer := recalcTime

theorem create_eq (maxDelay : UInt32) (rate : 0 < clockRate) (frame : 0 < samplesPerFrame)
    (channels : 0 < channelCount) (inside : samplesPerFrame.toNat * 1000 < 2 ^ 32) :
    ∃ ptime : UInt32, ptime.toNat = frameTime clockRate samplesPerFrame channelCount
      ∧ pjmediaDelayBufCreate clockRate samplesPerFrame channelCount maxDelay
        = (quotient (samplesPerFrame * delayUsed ptime maxDelay) ptime).map fun maxCnt =>
          .ok (created channelCount ptime maxCnt) := by
  have nonzero {n : UInt32} (positive : 0 < n) : n ≠ 0 := by
    rintro rfl
    exact absurd positive (by decide)
  refine ⟨samplesPerFrame * 1000 / clockRate / channelCount, ?_, ?_⟩
  · rw [UInt32.toNat_div, UInt32.toNat_div, UInt32.toNat_mul, frameTime]
    congr 2
    exact Nat.mod_eq_of_lt inside
  · unfold pjmediaDelayBufCreate
    rw [if_neg]
    · show (quotient (samplesPerFrame * 1000) clockRate).bind _ = _
      rw [quotient, if_neg (nonzero rate)]
      show (quotient _ channelCount).bind _ = _
      rw [quotient, if_neg (nonzero channels)]
      show (quotient _ _).bind _ = _
      rw [Option.map_eq_bind]
      rfl
    · rintro (zero | zero | zero)
      · exact nonzero frame zero
      · exact nonzero rate zero
      · exact nonzero channels zero

theorem create_fails (maxDelay : UInt32) (rate : 0 < clockRate) (frame : 0 < samplesPerFrame)
    (channels : 0 < channelCount) (inside : samplesPerFrame.toNat * 1000 < 2 ^ 32)
    (short : frameTime clockRate samplesPerFrame channelCount = 0) :
    pjmediaDelayBufCreate clockRate samplesPerFrame channelCount maxDelay = none := by
  obtain ⟨ptime, time, made⟩ := create_eq maxDelay rate frame channels inside
  have zero : ptime = 0 := UInt32.toNat_inj.mp (time.trans short)
  rw [made, quotient, if_pos zero]
  rfl

theorem create_spec (maxDelay : UInt32) (rate : 0 < clockRate) (frame : 0 < samplesPerFrame)
    (channels : 0 < channelCount) (inside : samplesPerFrame.toNat * 1000 < 2 ^ 32)
    (within : samplesPerFrame.toNat
      * longestDelay (frameTime clockRate samplesPerFrame channelCount) maxDelay.toNat < 2 ^ 32)
    (long : 0 < frameTime clockRate samplesPerFrame channelCount) :
    ∃ b, pjmediaDelayBufCreate clockRate samplesPerFrame channelCount maxDelay = some (.ok b)
      ∧ b.maxCnt.toNat = samplesPerFrame.toNat
        * longestDelay (frameTime clockRate samplesPerFrame channelCount) maxDelay.toNat
        / frameTime clockRate samplesPerFrame channelCount
      ∧ b.Sound ∧ b.circBuf.content = [] := by
  obtain ⟨ptime, time, made⟩ := create_eq maxDelay rate frame channels inside
  rw [← time] at within long ⊢
  have nonzero : ptime ≠ 0 := by
    rintro rfl
    exact absurd long (by decide)
  have maxCnt : (samplesPerFrame * delayUsed ptime maxDelay / ptime).toNat
      = samplesPerFrame.toNat * longestDelay ptime.toNat maxDelay.toNat / ptime.toNat := by
    rw [UInt32.toNat_div, UInt32.toNat_mul, toNat_delayUsed, Nat.mod_eq_of_lt within]
  have room : samplesPerFrame.toNat
      ≤ (samplesPerFrame * delayUsed ptime maxDelay / ptime).toNat := by
    rw [maxCnt, Nat.le_div_iff_mul_le long]
    exact Nat.mul_le_mul_left _ (longestDelay_ge _ _)
  have positive : 0 < samplesPerFrame * delayUsed ptime maxDelay / ptime := by
    have : 0 < samplesPerFrame.toNat := frame
    exact Nat.lt_of_lt_of_le this room
  refine ⟨created channelCount ptime _, ?_, maxCnt,
    ⟨create_sound positive, create_capacity _, room, by omega⟩, create_content _⟩
  rw [made, quotient, if_neg nonzero]
  rfl

end Creation

/-! ## Every sequence of calls -/

section Sequences

variable {samplesPerFrame : UInt32} {b : DelayBuf samplesPerFrame}

theorem refines (sound : b.Sound) (small : b.maxCnt.toNat + samplesPerFrame.toNat < 2 ^ 32)
    (op : Op samplesPerFrame) :
    ∃ b' returned, step b op = some (b', returned) ∧ Refines b op b' returned
      ∧ (b'.Sound ∧ b'.maxCnt = b.maxCnt) := by
  cases op with
  | put frame =>
    have inside := len_le sound
    obtain ⟨b', taken, same, sound', kept⟩ := put_refines sound (by omega) frame
    exact ⟨b', [], taken, same, sound', kept⟩
  | get frame =>
    obtain ⟨b', returned, taken, same, sound', kept⟩ := get_refines sound frame
    exact ⟨b', returned, taken, same, sound', kept⟩
  | reset =>
    obtain ⟨same, sound'⟩ := reset_refines sound
    exact ⟨_, [], rfl, same, sound', rfl⟩

/-- A frame of one and the same sample. -/
def constantly (samplesPerFrame : UInt32) (sample : Int16) : Frame samplesPerFrame :=
  ⟨List.replicate samplesPerFrame.toNat sample, List.length_replicate⟩

theorem loses_frame (n : Nat) (sound : b.Sound) {k : Nat}
    (silent : b.circBuf.content = List.replicate k 0) (frame : 0 < samplesPerFrame)
    (wraps : 2 ^ 32 ≤ b.maxCnt.toNat + samplesPerFrame.toNat)
    (full : b.maxCnt.toNat ≤ k + n * samplesPerFrame.toNat) :
    ¬ Stepwise step Refines b
      (List.replicate n (.put (constantly samplesPerFrame 0))
        ++ [.put (constantly samplesPerFrame 1)]) := by
  -- by induction on the silent frames that are put, until the buffer is full; the frame put then is
  -- the one that gets lost
  have len : b.len.toNat = k := by
    rw [toNat_len sound, ← content_length sound.circ, silent, List.length_replicate]
  induction n generalizing b k with
  | zero =>
    rintro ⟨b', returned, taken, same, -⟩
    rw [put_lost sound (by omega)] at taken
    cases taken
    have queue := congrArg Prod.fst same
    simp only [queueStep] at queue
    rw [silent] at queue
    have last : (1 : Int16) ∈ List.replicate k 0 := by
      rw [queue]
      refine List.mem_append_right _ (List.mem_replicate.mpr ⟨?_, rfl⟩)
      have : 0 < samplesPerFrame.toNat := frame
      omega
    exact absurd (List.eq_of_mem_replicate last) (by decide)
  | succ n ih =>
    rintro ⟨b', returned, taken, same, rest⟩
    obtain ⟨sound', kept⟩ := put_sound sound taken
    have queue := congrArg Prod.fst same
    simp only [queueStep] at queue
    rw [silent] at queue
    have silent' : b'.circBuf.content
        = List.replicate (k - (k + samplesPerFrame.toNat - b.maxCnt.toNat)
          + samplesPerFrame.toNat) 0 := by
      rw [queue, List.length_replicate, (constantly samplesPerFrame 0).2, List.drop_replicate,
        List.replicate_add]
      rfl
    rw [Nat.succ_mul] at full
    refine ih sound' silent' (by rw [kept]; exact wraps) (by rw [kept]; omega) ?_ rest
    rw [toNat_len sound', ← content_length sound'.circ, silent', List.length_replicate]

end Sequences

/-- A delay buffer is created and is a queue exactly if a frame lasts a millisecond or more, and an
`unsigned` can count the samples of the buffer and of a frame. -/
theorem delay_buf_fifo_iff (clockRate samplesPerFrame channelCount maxDelay : UInt32)
    (rate : 0 < clockRate) (frame : 0 < samplesPerFrame) (channels : 0 < channelCount)
    (inside : samplesPerFrame.toNat * 1000 < 2 ^ 32)
    (within : samplesPerFrame.toNat
      * longestDelay (frameTime clockRate samplesPerFrame channelCount) maxDelay.toNat < 2 ^ 32) :
    Fifo clockRate samplesPerFrame channelCount maxDelay
      ↔ clockRate.toNat * channelCount.toNat ≤ samplesPerFrame.toNat * 1000
        ∧ samplesPerFrame.toNat
            * longestDelay (frameTime clockRate samplesPerFrame channelCount) maxDelay.toNat
            / frameTime clockRate samplesPerFrame channelCount
          + samplesPerFrame.toNat < 2 ^ 32 := by
  rw [← frameTime_pos rate channels]
  by_cases long : 0 < frameTime clockRate samplesPerFrame channelCount
  · obtain ⟨b, made, maxCnt, sound, empty⟩ :=
      create_spec maxDelay rate frame channels inside within long
    rw [← maxCnt]
    constructor
    · rintro ⟨b', made', -, -, queues⟩
      rw [made] at made'
      cases made'
      refine ⟨long, Nat.lt_of_not_le fun wraps => ?_⟩
      have full : b.maxCnt.toNat ≤ 0 + b.maxCnt.toNat * samplesPerFrame.toNat := by
        rw [Nat.zero_add]
        exact Nat.le_mul_of_pos_right _ frame
      exact loses_frame b.maxCnt.toNat sound (k := 0) empty frame wraps full (queues _)
    · rintro ⟨-, small⟩
      refine ⟨b, made, sound.frame, empty, fun ops => ?_⟩
      refine (Along.always b ops).stepwise (I := fun s => s.Sound ∧ s.maxCnt = b.maxCnt) ?_
        ⟨sound, rfl⟩
      rintro s op ⟨sound', kept⟩ -
      obtain ⟨s', returned, taken, same, sound'', kept'⟩ := refines sound' (by
        rw [kept]
        exact small) op
      exact ⟨s', returned, taken, same, sound'', kept'.trans kept⟩
  · refine iff_of_false ?_ fun both => long both.1
    rintro ⟨b, made, -⟩
    rw [create_fails maxDelay rate frame channels inside (Nat.eq_zero_of_not_pos long)] at made
    cases made

section Examples

/-- Two frames of 20 ms. -/
theorem fifo_two_frames : Fifo 8000 160 1 40 :=
  (delay_buf_fifo_iff 8000 160 1 40 (by decide) (by decide) (by decide) (by decide)
    (by decide)).mpr (by decide)

/-- A frame of ten samples lasts less than a millisecond. -/
theorem short_frame_divides_by_zero : ¬ Fifo 16000 10 1 40 := by
  rintro ⟨b, made, -⟩
  cases made

end Examples

end Pjsip.Pjmedia.Delay
