import Mathlib.Logic.Function.Basic
import Pjsip.Base.CInt
import Pjsip.Base.Ring
import Pjsip.Errno

/-!
# The frame list of the jitter buffer (`jb_framelist_t`)

A ring of `max_count` slots held in five parallel arrays. The window of `size`
slots from `head` carries the sequence numbers `origin`, `origin + 1`, …; a slot
of the window may be empty (`MISSING`), hold a frame (`NORMAL`), or hold a frame
that the playout is to skip (`DISCARDED`). The numbers are of type `int`, and their
sums wrap. Loops carry a fuel argument that bounds their rounds; `none` is a loop
that has not ended.
-/

namespace Pjsip.Pjmedia.Jbuf

open Pjsip.Base Pjsip.Pjlib

/-- `pjmedia_jb_frame_type`, with the internal `PJMEDIA_JB_DISCARDED_FRAME`. -/
inductive FrameType where
  | missing
  | normal
  | zeroPrefetch
  | zeroEmpty
  | discarded
  deriving DecidableEq, Repr

/-- `INVALID_OFFSET` -/
def INVALID_OFFSET : Int := -9999

/-- `MAX_FRAME_INDEX` -/
def MAX_FRAME_INDEX : Nat := 0xFFFFFFFF / 9000

def MAX_MISORDER : Int := 100
def MAX_DROPOUT : Int := 3000

structure JbFramelist where
  frameSize : Nat
  maxCount : Nat
  content : Nat → List UInt8
  frameType : Nat → FrameType
  contentLen : Nat → Nat
  bitInfo : Nat → UInt32
  ts : Nat → UInt32
  head : Nat
  size : Nat
  discardedNum : Nat
  origin : Int

/-- What a get or a peek writes through the caller's pointers; `none` where it
leaves the caller's variable as it was. -/
structure FrameOut where
  type : FrameType
  frame : Option (List UInt8)
  size : Option Nat
  bitInfo : Option UInt32
  ts : Option UInt32
  seq : Option Int
  deriving DecidableEq, Repr

/-- `pj_memset`/`pj_bzero` of `n` array elements from index `lo`. -/
def fill {β : Type} (arr : Nat → β) (lo n : Nat) (v : β) : Nat → β :=
  fun i => if lo ≤ i ∧ i < lo + n then v else arr i

/-- `pj_memcpy` of `src` over the start of `dst`. -/
def memcpy (dst src : List UInt8) : List UInt8 := src ++ dst.drop src.length

/-- The slots typed `DISCARDED` among `lo .. lo + n`. -/
def countDiscarded (frameType : Nat → FrameType) (lo n : Nat) : Nat :=
  (List.range' lo n).countP (frameType · = .discarded)

def jbFramelistReset (fl : JbFramelist) : JbFramelist :=
  { fl with
    head := 0
    origin := INVALID_OFFSET
    size := 0
    discardedNum := 0
    frameType := fill fl.frameType 0 fl.maxCount .missing
    contentLen := fill fl.contentLen 0 fl.maxCount 0 }

/-- `jb_framelist_init`: the arrays come from the pool uncleared, as in `pool`. -/
def jbFramelistInit (pool : JbFramelist) (frameSize maxCount : Nat) : JbFramelist :=
  jbFramelistReset { pool with frameSize := frameSize, maxCount := maxCount }

/-- `jb_framelist_eff_size`: an unsigned difference. -/
def jbFramelistEffSize (fl : JbFramelist) : Nat := u32 (fl.size - fl.discardedNum)

/-- The removal of a non-empty stretch of the window, in two steps where it
overlaps the end of the arrays. -/
def removeSteps (fl : JbFramelist) (count : Nat) : JbFramelist :=
  let step1 := if fl.head + count > fl.maxCount then fl.maxCount - fl.head else count
  let step2 := count - step1
  let type1 := fill fl.frameType fl.head step1 .missing
  let len1 := fill fl.contentLen fl.head step1 0
  { fl with
    discardedNum := fl.discardedNum - countDiscarded fl.frameType fl.head step1 -
      countDiscarded type1 0 step2
    frameType := fill type1 0 step2 .missing
    contentLen := fill len1 0 step2 0
    origin := i32 (fl.origin + count)
    head := (fl.head + count) % fl.maxCount
    size := fl.size - count }

/-- Remove the oldest frames, as many as `count`. -/
def jbFramelistRemoveHead (fl : JbFramelist) (count : Nat) : JbFramelist × Nat :=
  let count := if count > fl.size then fl.size else count
  if count = 0 then (fl, 0) else (removeSteps fl count, count)

/-- The loop of `jb_framelist_get` over discarded frames at the head. -/
def skipDiscarded : Nat → JbFramelist → Bool → Option (JbFramelist × Bool)
  | fuel, fl, prevDiscarded =>
    if fl.frameType fl.head = .discarded then
      match fuel with
      | 0 => none
      | fuel + 1 => skipDiscarded fuel (jbFramelistRemoveHead fl 1).1 true
    else some (fl, prevDiscarded)

/-- The head slot handed over and cleared; `size` is the caller's buffer size. -/
def takeHead (fl : JbFramelist) (prevDiscarded : Bool) (size : Option Nat) :
    JbFramelist × FrameOut :=
  let frmSize := fl.contentLen fl.head
  let copySize := min (size.getD frmSize) frmSize
  let out : FrameOut :=
    if prevDiscarded then
      { type := .missing, frame := none, size := some 0, bitInfo := some 0
        ts := some (fl.ts fl.head), seq := some fl.origin }
    else
      { type := fl.frameType fl.head
        frame := some ((fl.content fl.head).take copySize)
        size := some copySize
        bitInfo := some (fl.bitInfo fl.head)
        ts := some (fl.ts fl.head), seq := some fl.origin }
  ({ fl with
     frameType := Function.update fl.frameType fl.head .missing
     contentLen := Function.update fl.contentLen fl.head 0
     bitInfo := Function.update fl.bitInfo fl.head 0
     ts := Function.update fl.ts fl.head 0
     origin := i32 (fl.origin + 1)
     head := (fl.head + 1) % fl.maxCount
     size := fl.size - 1 }, out)

/-- `jb_framelist_get`; the answer is `none` where the C function returns
`PJ_FALSE`. -/
def jbFramelistGet (fl : JbFramelist) (size : Option Nat) :
    Option (JbFramelist × Option FrameOut) :=
  if fl.size = 0 then some (fl, none)
  else
    match skipDiscarded (fl.size + 1) fl false with
    | none => none
    | some (fl, prevDiscarded) =>
      if fl.size = 0 then some (fl, none)
      else
        let (fl, out) := takeHead fl prevDiscarded size
        some (fl, some out)

/-- The scan of `jb_framelist_peek` for the slot of the frame at `idx`. -/
def peekPos (fl : JbFramelist) : Nat → Nat → Nat → Option Nat
  | fuel, pos, idx =>
    if fl.frameType pos ≠ .discarded ∧ idx = 0 then some pos
    else
      match fuel with
      | 0 => none
      | fuel + 1 =>
        peekPos fl fuel ((pos + 1) % fl.maxCount)
          (if fl.frameType pos ≠ .discarded then idx - 1 else idx)

/-- `jb_framelist_peek`; an offset past the effective size answers `some none`. -/
def jbFramelistPeek (fl : JbFramelist) (offset : Nat) : Option (Option FrameOut) :=
  if offset ≥ jbFramelistEffSize fl then some none
  else
    match peekPos fl ((offset + 1) * fl.maxCount) fl.head offset with
    | none => none
    | some pos => some (some
        { type := fl.frameType pos
          frame := some (fl.content pos)
          size := some (fl.contentLen pos)
          bitInfo := some (fl.bitInfo pos)
          ts := some (fl.ts pos)
          seq := some (i32 (fl.origin + offset)) })

/-- A frame as `pjmedia_jbuf_put_frame3` hands it to the frame list. -/
structure Frame where
  bytes : List UInt8
  bitInfo : UInt32
  ts : UInt32
  deriving DecidableEq, Repr

/-- The part of `jb_framelist_put_at` before the capacity test: a sequence
restart or a far jump back, and the origin of an empty buffer. Answers the
distance of `index` from the origin. -/
def rebase (fl : JbFramelist) (index : Int) : JbFramelist × Int :=
  let (fl, distance) :=
    if i32 (index - fl.origin) < 0 then
      if u32 (fl.origin + fl.size) ≥ MAX_FRAME_INDEX then
        -- sequence restart
        ({ fl with origin := i32 (index - fl.size) }, i32 fl.size)
      else
        -- jump too far, reset the buffer
        ({ jbFramelistReset fl with origin := index }, 0)
    else (fl, i32 (index - fl.origin))
  if fl.size = 0 then ({ fl with origin := index }, 0) else (fl, distance)

/-- The part of `jb_framelist_put_at` after the capacity test. -/
def storeAt (fl : JbFramelist) (index : Int) (distance : Nat) (frame : Frame)
    (frameType : FrameType) : JbFramelist × PjStatus :=
  let pos := (fl.head + distance) % fl.maxCount
  -- an occupied slot must be a duplicated frame
  if fl.frameType pos ≠ .missing then (fl, .eexists)
  else
    ({ fl with
       frameType := Function.update fl.frameType pos frameType
       contentLen := Function.update fl.contentLen pos frame.bytes.length
       bitInfo := Function.update fl.bitInfo pos frame.bitInfo
       ts := Function.update fl.ts pos frame.ts
       size := if i32 (fl.origin + i32 fl.size) ≤ index then distance + 1 else fl.size
       content := if frameType = .normal then
           Function.update fl.content pos (memcpy (fl.content pos) frame.bytes)
         else fl.content }, .success)

def jbFramelistPutAt (fl : JbFramelist) (index : Int) (frame : Frame) (frameType : FrameType) :
    JbFramelist × PjStatus :=
  if frame.bytes.length > fl.frameSize then (fl, .einval)
  else if i32 (index - fl.origin) < 0 ∧ i32 (fl.origin - index) < MAX_MISORDER then
    (fl, .etoosmall)
  else
    let (fl, distance) := rebase fl index
    if distance ≥ i32 fl.maxCount then
      if distance > MAX_DROPOUT then
        -- jump too far, reset the buffer
        storeAt { jbFramelistReset fl with origin := index } index 0 frame frameType
      else (fl, .etoomany)
    else storeAt fl index distance.toNat frame frameType

def jbFramelistDiscard (fl : JbFramelist) (index : Int) : JbFramelist × PjStatus :=
  if fl.origin ≤ index ∧ index < i32 (fl.origin + i32 fl.size) then
    let pos := (fl.head + (index - fl.origin).toNat) % fl.maxCount
    ({ fl with
       frameType := Function.update fl.frameType pos .discarded
       discardedNum := fl.discardedNum + 1 }, .success)
  else (fl, .einval)

end Pjsip.Pjmedia.Jbuf
