import Pjsip.Pjmedia.Jbuf.FrameList

/-!
# The jitter buffer (`pjmedia_jbuf`)

The operations of `pjmedia/jbuf.h` over the frame list: storing with eviction,
playout with prefetching, the burst-level calculation and the two discard
algorithms. `step` is one API call. The delay and burst statistics, which no
operation reads, are left out but for the division in one of them; `none` is also a
call that divides by zero.
-/

namespace Pjsip.Pjmedia.Jbuf

open Pjsip.Base Pjsip.Pjlib

def MAX_BURST_MSEC : Nat := 1000
def INIT_CYCLE : Nat := 10
def STA_DISC_SAFE_SHRINKING_DIFF : Int := 1
def STABLE_HISTORY_LIMIT : Int := 20
def PJMEDIA_JB_DEFAULT_INIT_DELAY : Nat := 15
def PJMEDIA_JBUF_DISC_MIN_GAP : Nat := 200
def PJMEDIA_JBUF_PRO_DISC_MIN_BURST : Nat := 1
def PJMEDIA_JBUF_PRO_DISC_MAX_BURST : Nat := 100
def PJMEDIA_JBUF_PRO_DISC_T1 : Nat := 2000
def PJMEDIA_JBUF_PRO_DISC_T2 : Nat := 10000

/-- `enum pjmedia_jb_op` -/
inductive JbOp where
  | init
  | put
  | get
  deriving DecidableEq, Repr

/-- `JB_STATUS_INITIALIZING` and `JB_STATUS_PROCESSING` -/
inductive JbStatus where
  | initializing
  | processing
  deriving DecidableEq, Repr

/-- `pjmedia_jb_discard_algo` -/
inductive DiscardAlgo where
  | none
  | static
  | progressive
  deriving DecidableEq, Repr

structure PjmediaJbuf where
  jbFrameSize : Nat
  jbFramePtime : Nat
  jbFramePtimeDenum : Nat
  jbMaxCount : Nat
  jbInitPrefetch : Int
  jbMinPrefetch : Int
  jbMaxPrefetch : Int
  jbMaxBurst : Int
  jbMinShrinkGap : Int
  jbDiscardAlgo : DiscardAlgo
  jbFramelist : JbFramelist
  jbLevel : Int
  jbMaxHistLevel : Int
  jbStableHist : Int
  jbLastOp : JbOp
  jbEffLevel : Int
  jbPrefetch : Int
  jbPrefetching : Bool
  jbStatus : JbStatus
  jbInitCycleCnt : Nat
  jbDiscardRef : Int
  jbDiscardDist : Int
  jbLost : Nat
  jbDiscard : Nat
  jbEmpty : Nat

/-! ## Creation and settings -/

def pjmediaJbufSetDiscard (jb : PjmediaJbuf) (algo : DiscardAlgo) : PjmediaJbuf :=
  { jb with jbDiscardAlgo := algo }

def pjmediaJbufReset (jb : PjmediaJbuf) : PjmediaJbuf :=
  { jb with
    jbLevel := 0
    jbLastOp := .init
    jbStableHist := 0
    jbStatus := .initializing
    jbInitCycleCnt := 0
    jbMaxHistLevel := 0
    jbPrefetching := jb.jbPrefetch != 0
    jbDiscardDist := 0
    jbFramelist := jbFramelistReset jb.jbFramelist }

/-- `pjmedia_jbuf_create`, for a frame time other than 0: the structure comes cleared
from the pool, the slot arrays do not. -/
def pjmediaJbufCreate (pool : JbFramelist) (frameSize ptime maxCount : Nat) : PjmediaJbuf :=
  pjmediaJbufReset (pjmediaJbufSetDiscard
    { jbFrameSize := frameSize
      jbFramePtime := ptime
      jbFramePtimeDenum := 1
      jbMaxCount := maxCount
      jbInitPrefetch := 0
      jbMinPrefetch := 0
      jbMaxPrefetch := i32 (u32 (maxCount * 4) / 5)
      jbMaxBurst := i32 (max (MAX_BURST_MSEC / ptime) (u32 (maxCount * 3) / 4))
      jbMinShrinkGap := i32 (PJMEDIA_JBUF_DISC_MIN_GAP / ptime)
      jbDiscardAlgo := .none
      jbFramelist := jbFramelistInit pool frameSize maxCount
      jbLevel := 0
      jbMaxHistLevel := 0
      jbStableHist := 0
      jbLastOp := .init
      jbEffLevel := 0
      jbPrefetch := min PJMEDIA_JB_DEFAULT_INIT_DELAY (u32 (maxCount * 4) / 5)
      jbPrefetching := false
      jbStatus := .initializing
      jbInitCycleCnt := 0
      jbDiscardRef := 0
      jbDiscardDist := 0
      jbLost := 0
      jbDiscard := 0
      jbEmpty := 0 } .progressive)

/-- Slot arrays that the pool happens to hand out cleared. -/
def clearedPool : JbFramelist :=
  { frameSize := 0
    maxCount := 0
    content := fun _ => []
    frameType := fun _ => .missing
    contentLen := fun _ => 0
    bitInfo := fun _ => 0
    ts := fun _ => 0
    head := 0
    size := 0
    discardedNum := 0
    origin := 0 }

def pjmediaJbufSetPtime2 (jb : PjmediaJbuf) (ptime ptimeDenum : Nat) : Option PjmediaJbuf :=
  if ptime = 0 then none
  else some
    { jb with
      jbFramePtime := ptime
      jbFramePtimeDenum := ptimeDenum
      jbMinShrinkGap := i32 (u32 (PJMEDIA_JBUF_DISC_MIN_GAP * ptimeDenum) / ptime)
      jbMaxBurst := i32 (max (u32 (MAX_BURST_MSEC * ptimeDenum) / ptime) (jb.jbMaxCount * 3 / 4)) }

def pjmediaJbufSetFixed (jb : PjmediaJbuf) (prefetch : Nat) : PjmediaJbuf × PjStatus :=
  if prefetch ≤ jb.jbMaxCount then
    (pjmediaJbufSetDiscard
      { jb with
        jbMinPrefetch := prefetch
        jbMaxPrefetch := prefetch
        jbPrefetch := prefetch
        jbInitPrefetch := prefetch } .none, .success)
  else (jb, .einval)

def pjmediaJbufSetAdaptive (jb : PjmediaJbuf) (prefetch minPrefetch maxPrefetch : Nat) :
    PjmediaJbuf × PjStatus :=
  if minPrefetch ≤ maxPrefetch ∧ prefetch ≤ maxPrefetch ∧ maxPrefetch ≤ jb.jbMaxCount then
    ({ jb with
       jbPrefetch := prefetch
       jbInitPrefetch := prefetch
       jbMinPrefetch := minPrefetch
       jbMaxPrefetch := maxPrefetch }, .success)
  else (jb, .einval)

/-! ## Burst level and discarding -/

/-- `jbuf_calculate_jitter` -/
def jbufCalculateJitter (jb : PjmediaJbuf) : PjmediaJbuf :=
  let jb := { jb with jbMaxHistLevel := max jb.jbMaxHistLevel jb.jbLevel }
  if jb.jbLevel < jb.jbEffLevel then
    let jb := { jb with jbStableHist := i32 (jb.jbStableHist + 1) }
    if jb.jbStableHist > STABLE_HISTORY_LIMIT then
      let diff := (i32 (jb.jbEffLevel - jb.jbMaxHistLevel)).tdiv 3
      let diff := if diff < 1 then 1 else diff
      let eff := i32 (jb.jbEffLevel - diff)
      { jb with
        jbEffLevel := eff
        jbPrefetch :=
          if jb.jbInitPrefetch ≠ 0 then min (max eff jb.jbMinPrefetch) jb.jbMaxPrefetch
          else jb.jbPrefetch
        jbMaxHistLevel := 0
        jbStableHist := 0 }
    else jb
  else if jb.jbLevel > jb.jbEffLevel then
    let eff := min jb.jbMaxHistLevel (i32 (jb.jbMaxCount * 4 / 5))
    { jb with
      jbEffLevel := eff
      jbPrefetch :=
        if jb.jbInitPrefetch ≠ 0 then max (min eff jb.jbMaxPrefetch) jb.jbMinPrefetch
        else jb.jbPrefetch
      jbStableHist := 0 }
  else { jb with jbStableHist := 0 }

/-- `jbuf_discard_static`: at most one frame is dropped from the head. -/
def jbufDiscardStatic (jb : PjmediaJbuf) : PjmediaJbuf :=
  let burstLevel := max jb.jbEffLevel jb.jbLevel
  let diff := i32 (jbFramelistEffSize jb.jbFramelist - i32 (burstLevel * 2))
  if diff ≥ STA_DISC_SAFE_SHRINKING_DIFF then
    let seqOrigin := jb.jbFramelist.origin
    let jb := { jb with
      jbDiscardRef := if seqOrigin < jb.jbDiscardRef then seqOrigin else jb.jbDiscardRef }
    if i32 (seqOrigin - jb.jbDiscardRef) ≥ jb.jbMinShrinkGap then
      let (fl, removed) := jbFramelistRemoveHead jb.jbFramelist 1
      { jb with
        jbFramelist := fl
        jbDiscardRef := fl.origin
        jbDiscard := jb.jbDiscard + removed }
    else jb
  else jb

/-- The time over which `jbuf_discard_progressive` spreads the overflow. -/
def discardDuration (burstLevel : Nat) : Nat :=
  if burstLevel ≤ PJMEDIA_JBUF_PRO_DISC_MIN_BURST then PJMEDIA_JBUF_PRO_DISC_T1
  else if burstLevel ≥ PJMEDIA_JBUF_PRO_DISC_MAX_BURST then PJMEDIA_JBUF_PRO_DISC_T2
  else PJMEDIA_JBUF_PRO_DISC_T1 +
    (PJMEDIA_JBUF_PRO_DISC_T2 - PJMEDIA_JBUF_PRO_DISC_T1) *
      (burstLevel - PJMEDIA_JBUF_PRO_DISC_MIN_BURST) /
      (PJMEDIA_JBUF_PRO_DISC_MAX_BURST - PJMEDIA_JBUF_PRO_DISC_MIN_BURST)

/-- The burst level the progressive algorithm compares the size with. -/
def progressiveBurst (jb : PjmediaJbuf) : Nat := u32 (max jb.jbEffLevel jb.jbLevel)

/-- `last_seq` of `jbuf_discard_progressive` -/
def lastSeq (fl : JbFramelist) : Int := i32 (fl.origin + fl.size - 1)

/-- The schedule update of `jbuf_discard_progressive`: the reference is set up
or follows a sequence restart, and the distance is calculated afresh. -/
def scheduleDiscard (jb : PjmediaJbuf) : PjmediaJbuf :=
  let overflow := jbFramelistEffSize jb.jbFramelist - progressiveBurst jb
  let discardDist :=
    u32 (discardDuration (progressiveBurst jb) * jb.jbFramePtimeDenum) / overflow / jb.jbFramePtime
  let last := lastSeq jb.jbFramelist
  { jb with
    jbDiscardRef :=
      if jb.jbDiscardDist = 0 then last
      else if last < jb.jbDiscardRef then last
      else jb.jbDiscardRef
    jbDiscardDist := max jb.jbMinShrinkGap (i32 discardDist) }

/-- The sequence number that a scheduled discard falls on. -/
def discardSeq (jb : PjmediaJbuf) : Int :=
  max (i32 (jb.jbDiscardRef + jb.jbDiscardDist)) jb.jbFramelist.origin

/-- `jbuf_discard_progressive` -/
def jbufDiscardProgressive (jb : PjmediaJbuf) : PjmediaJbuf :=
  if jb.jbLastOp ≠ .put then jb
  else if jbFramelistEffSize jb.jbFramelist ≤ progressiveBurst jb then
    { jb with jbDiscardDist := 0 }
  else
    let jb := scheduleDiscard jb
    if lastSeq jb.jbFramelist ≥ i32 (jb.jbDiscardRef + jb.jbDiscardDist) then
      { jb with
        jbFramelist := (jbFramelistDiscard jb.jbFramelist (discardSeq jb)).1
        jbDiscardRef := discardSeq jb }
    else jb

/-- The switch on `jb_discard_algo` in `jbuf_update`. -/
def runDiscardAlgo (jb : PjmediaJbuf) : PjmediaJbuf :=
  if jb.jbStatus = .processing then
    match jb.jbDiscardAlgo with
    | .none => jb
    | .static => jbufDiscardStatic jb
    | .progressive => jbufDiscardProgressive jb
  else jb

/-- The part of `jbuf_update` before the discard algorithm; `false` where the
function returns early. -/
def updateLevel (jb : PjmediaJbuf) (oper : JbOp) : PjmediaJbuf × Bool :=
  if jb.jbLastOp ≠ oper then
    let jb := { jb with jbLastOp := oper }
    if jb.jbStatus = .initializing then
      let jb := { jb with jbInitCycleCnt := jb.jbInitCycleCnt + 1 }
      if jb.jbInitCycleCnt ≥ INIT_CYCLE ∧ oper = .get then
        let jb := { jb with jbStatus := .processing, jbLevel := min jb.jbLevel jb.jbMaxBurst }
        let jb := if jb.jbLevel ≤ jb.jbMaxBurst then jbufCalculateJitter jb else jb
        ({ jb with jbLevel := 0 }, true)
      else ({ jb with jbLevel := 0 }, false)
    else
      let jb := if oper = .get ∧ jb.jbLevel ≤ jb.jbMaxBurst then jbufCalculateJitter jb else jb
      ({ jb with jbLevel := 0 }, true)
  else (jb, true)

def jbufUpdate (jb : PjmediaJbuf) (oper : JbOp) : PjmediaJbuf :=
  let (jb, goOn) := updateLevel jb oper
  if goOn then runDiscardAlgo jb else jb

/-! ## Putting, getting, peeking and removing -/

/-- `distance` of `pjmedia_jbuf_put_frame3` -/
def evictDistance (seq origin : Int) (maxCount : Nat) : Int :=
  i32 (i32 (i32 (seq - origin) - i32 maxCount) + 1)

/-- The eviction loop of `pjmedia_jbuf_put_frame3`. -/
def evictLoop (seq : Int) (frame : Frame) : Nat → PjmediaJbuf → PjStatus → Option (PjmediaJbuf × PjStatus)
  | fuel, jb, status =>
    if status = .etoomany then
      match fuel with
      | 0 => none
      | fuel + 1 =>
        let distance := evictDistance seq jb.jbFramelist.origin jb.jbMaxCount
        let (fl, removed) := jbFramelistRemoveHead jb.jbFramelist (u32 distance)
        let (fl, status) := jbFramelistPutAt fl seq frame .normal
        evictLoop seq frame fuel
          { jb with jbFramelist := fl, jbDiscard := jb.jbDiscard + removed } status
    else some (jb, status)

/-- The frame as stored: cut to the frame size of the buffer. -/
def truncate (frameSize : Nat) (frame : Frame) : Frame :=
  { frame with bytes := frame.bytes.take frameSize }

/-- The part of `pjmedia_jbuf_put_frame3` that stores the frame. -/
def storeFrame (jb : PjmediaJbuf) (seq : Int) (frame : Frame) : Option (PjmediaJbuf × PjStatus) :=
  let frame := truncate jb.jbFrameSize frame
  let (fl, status) := jbFramelistPutAt jb.jbFramelist seq frame .normal
  evictLoop seq frame (jb.jbFramelist.size + 1) { jb with jbFramelist := fl } status

/-- The accounting of a put between storing and `jbuf_update`. -/
def accountPut (jb : PjmediaJbuf) (curSize : Int) : PjmediaJbuf :=
  let newSize := i32 (jbFramelistEffSize jb.jbFramelist)
  { jb with
    jbPrefetching := if newSize ≥ jb.jbPrefetch then false else jb.jbPrefetching
    jbLevel := i32 (jb.jbLevel + if newSize > curSize then i32 (newSize - curSize) else 1) }

/-- `pjmedia_jbuf_put_frame3`; the answer is its `discarded` flag. -/
def pjmediaJbufPutFrame3 (jb : PjmediaJbuf) (seq : Int) (frame : Frame) : Option (PjmediaJbuf × Bool) :=
  let curSize := i32 (jbFramelistEffSize jb.jbFramelist)
  match storeFrame jb seq frame with
  | none => none
  | some (jb, status) =>
    if status = .success then some (jbufUpdate (accountPut jb curSize) .put, false)
    else some ({ jb with jbDiscard := jb.jbDiscard + 1 }, true)

/-- The part of `pjmedia_jbuf_get_frame3` before the level and `jbuf_update`. -/
def fetchFrame (jb : PjmediaJbuf) (size : Option Nat) : Option (PjmediaJbuf × FrameOut) :=
  if jb.jbPrefetching then
    some ({ jb with jbEmpty := jb.jbEmpty + 1 },
      { type := .zeroPrefetch, frame := none, size := some 0, bitInfo := none
        ts := none, seq := none })
  else
    match jbFramelistGet jb.jbFramelist size with
    | none => none
    | some (fl, some out) =>
      -- the delay that goes into the statistics at the first get is divided by the denominator
      if jb.jbLastOp = .put ∧ jb.jbFramePtimeDenum = 0 then none
      else
        let jb := { jb with jbFramelist := fl }
        if out.type = .normal then some (jb, out)
        else some ({ jb with jbLost := jb.jbLost + 1 }, { out with type := .missing })
    | some (fl, none) =>
      some ({ jb with
        jbFramelist := fl
        jbPrefetching := if jb.jbPrefetch ≠ 0 then true else jb.jbPrefetching
        jbEmpty := jb.jbEmpty + 1 },
        { type := .zeroEmpty, frame := some (List.replicate fl.frameSize 0), size := some 0
          bitInfo := none, ts := none, seq := none })

def pjmediaJbufGetFrame3 (jb : PjmediaJbuf) (size : Option Nat) : Option (PjmediaJbuf × FrameOut) :=
  match fetchFrame jb size with
  | none => none
  | some (jb, out) => some (jbufUpdate { jb with jbLevel := i32 (jb.jbLevel + 1) } .get, out)

def pjmediaJbufPeekFrame (jb : PjmediaJbuf) (offset : Nat) : Option FrameOut :=
  match jbFramelistPeek jb.jbFramelist offset with
  | none => none
  | some none =>
    some { type := .zeroEmpty, frame := none, size := none, bitInfo := none
           ts := none, seq := none }
  | some (some out) =>
    some { out with type := if out.type = .normal then .normal else .missing }

/-- The loop of `pjmedia_jbuf_remove_frame` that makes up for discarded frames
among those just removed. -/
def removeMore : Nat → JbFramelist → Nat → Nat → Option (JbFramelist × Nat)
  | fuel, fl, lastDiscardNum, count =>
    if fl.discardedNum < lastDiscardNum then
      match fuel with
      | 0 => none
      | fuel + 1 =>
        let frameCnt := lastDiscardNum - fl.discardedNum
        let (fl', removed) := jbFramelistRemoveHead fl frameCnt
        removeMore fuel fl' fl.discardedNum (count - frameCnt + removed)
    else some (fl, count)

def pjmediaJbufRemoveFrame (jb : PjmediaJbuf) (frameCnt : Nat) : Option (PjmediaJbuf × Nat) :=
  let lastDiscardNum := jb.jbFramelist.discardedNum
  let (fl, count) := jbFramelistRemoveHead jb.jbFramelist frameCnt
  match removeMore (lastDiscardNum + 1) fl lastDiscardNum count with
  | none => none
  | some (fl, count) => some ({ jb with jbFramelist := fl }, count)

/-! ## One API call -/

inductive Op where
  | putFrame3 (seq : Int) (frame : Frame)
  | getFrame3 (size : Option Nat)
  | peekFrame (offset : Nat)
  | removeFrame (frameCnt : Nat)
  | reset
  | setPtime2 (ptime ptimeDenum : Nat)
  | setFixed (prefetch : Nat)
  | setAdaptive (prefetch minPrefetch maxPrefetch : Nat)
  | setDiscard (algo : DiscardAlgo)
  deriving DecidableEq

inductive Answer where
  | discarded (flag : Bool)
  | frame (out : FrameOut)
  | removed (count : Nat)
  | status (status : PjStatus)
  deriving DecidableEq, Repr

def step (jb : PjmediaJbuf) : Op → Option (PjmediaJbuf × Answer)
  | .putFrame3 seq frame =>
    (pjmediaJbufPutFrame3 jb seq frame).map fun (jb, flag) => (jb, .discarded flag)
  | .getFrame3 size => (pjmediaJbufGetFrame3 jb size).map fun (jb, out) => (jb, .frame out)
  | .peekFrame offset => (pjmediaJbufPeekFrame jb offset).map fun out => (jb, .frame out)
  | .removeFrame cnt =>
    (pjmediaJbufRemoveFrame jb cnt).map fun (jb, count) => (jb, .removed count)
  | .reset => some (pjmediaJbufReset jb, .status .success)
  | .setPtime2 ptime denum =>
    (pjmediaJbufSetPtime2 jb ptime denum).map fun jb => (jb, .status .success)
  | .setFixed prefetch =>
    let (jb, status) := pjmediaJbufSetFixed jb prefetch
    some (jb, .status status)
  | .setAdaptive prefetch lo hi =>
    let (jb, status) := pjmediaJbufSetAdaptive jb prefetch lo hi
    some (jb, .status status)
  | .setDiscard algo => some (pjmediaJbufSetDiscard jb algo, .status .success)

end Pjsip.Pjmedia.Jbuf
