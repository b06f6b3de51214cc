import Pjsip.Pjmedia.Jbuf.Get
import Pjsip.Pjmedia.Jbuf.Put

/-!
# What one API call can do

`step_effect` says once, for every operation, which frame list and which answer
it can leave; the invariants of the jitter buffer are read off it. Only a stored
put can run into a discard that is due.
-/

namespace Pjsip.Pjmedia.Jbuf

open Pjsip.Base Pjsip.Pjlib

/-- The jitter buffer and its frame list were created with the same sizes. -/
structure SameSizes (jb : PjmediaJbuf) : Prop where
  maxCount : jb.jbMaxCount = jb.jbFramelist.maxCount
  frameSize : jb.jbFrameSize = jb.jbFramelist.frameSize

/-- What the level calculation and the accounting leave alone. -/
structure SameBuffer (jb jb' : PjmediaJbuf) : Prop where
  framelist : jb'.jbFramelist = jb.jbFramelist
  maxCount : jb'.jbMaxCount = jb.jbMaxCount
  frameSize : jb'.jbFrameSize = jb.jbFrameSize

theorem calculateJitter_same (jb : PjmediaJbuf) : SameBuffer jb (jbufCalculateJitter jb) := by
  unfold jbufCalculateJitter
  simp only
  split_ifs <;> exact ⟨rfl, rfl, rfl⟩

theorem SameBuffer.trans {jb₁ jb₂ jb₃ : PjmediaJbuf} (first : SameBuffer jb₁ jb₂)
    (second : SameBuffer jb₂ jb₃) : SameBuffer jb₁ jb₃ :=
  ⟨second.framelist.trans first.framelist, second.maxCount.trans first.maxCount,
    second.frameSize.trans first.frameSize⟩

theorem updateLevel_same (jb : PjmediaJbuf) (oper : JbOp) :
    SameBuffer jb (updateLevel jb oper).1 := by
  unfold updateLevel
  simp only
  split_ifs
  all_goals
    constructor <;>
      simp only [(calculateJitter_same _).framelist, (calculateJitter_same _).maxCount,
        (calculateJitter_same _).frameSize]

theorem accountPut_same (jb : PjmediaJbuf) (curSize : Int) :
    SameBuffer jb (accountPut jb curSize) :=
  ⟨rfl, rfl, rfl⟩

theorem setFixed_same (jb : PjmediaJbuf) (prefetch : Nat) :
    SameBuffer jb (pjmediaJbufSetFixed jb prefetch).1 := by
  unfold pjmediaJbufSetFixed
  split <;> exact ⟨rfl, rfl, rfl⟩

theorem setAdaptive_same (jb : PjmediaJbuf) (prefetch minPrefetch maxPrefetch : Nat) :
    SameBuffer jb (pjmediaJbufSetAdaptive jb prefetch minPrefetch maxPrefetch).1 := by
  unfold pjmediaJbufSetAdaptive
  split <;> exact ⟨rfl, rfl, rfl⟩

/-- The progressive algorithm is about to discard. -/
def Discards (jb : PjmediaJbuf) : Prop :=
  jb.jbStatus = .processing ∧ jb.jbDiscardAlgo = .progressive ∧ jb.jbLastOp = .put ∧
    progressiveBurst jb < jbFramelistEffSize jb.jbFramelist ∧
    i32 ((scheduleDiscard jb).jbDiscardRef + (scheduleDiscard jb).jbDiscardDist) ≤
      lastSeq jb.jbFramelist

variable {jb jb' : PjmediaJbuf}

theorem runDiscardAlgo_due (due : Discards jb) : runDiscardAlgo jb = { scheduleDiscard jb with
        jbFramelist := (jbFramelistDiscard jb.jbFramelist (discardSeq (scheduleDiscard jb))).1
        jbDiscardRef := discardSeq (scheduleDiscard jb) } := by
  obtain ⟨running, algo, lastOp, above, passed⟩ := due
  have passed : lastSeq (scheduleDiscard jb).jbFramelist ≥
      i32 ((scheduleDiscard jb).jbDiscardRef + (scheduleDiscard jb).jbDiscardDist) := passed
  simp only [runDiscardAlgo, if_pos running, algo, jbufDiscardProgressive,
    if_neg (not_not.mpr lastOp), if_neg (Nat.not_le.mpr above), if_pos passed]
  rfl

theorem runDiscardAlgo_trims (notDue : ¬ Discards jb) :
    Trimmed jb.jbFramelist (runDiscardAlgo jb).jbFramelist ∧
      (runDiscardAlgo jb).jbMaxCount = jb.jbMaxCount ∧
      (runDiscardAlgo jb).jbFrameSize = jb.jbFrameSize := by
  unfold runDiscardAlgo
  split
  · rename_i running
    cases algo : jb.jbDiscardAlgo with
    | none => exact ⟨.here _, rfl, rfl⟩
    | static =>
      simp only [jbufDiscardStatic]
      split_ifs <;>
        first | exact ⟨.here _, rfl, rfl⟩ | exact ⟨.more 1 (.here _), rfl, rfl⟩
    | progressive =>
      simp only [jbufDiscardProgressive]
      split_ifs with lastOp below passed
      · exact ⟨.here _, rfl, rfl⟩
      · exact ⟨.here _, rfl, rfl⟩
      · exact absurd ⟨running, algo, not_not.mp lastOp, Nat.not_le.mp below, passed⟩ notDue
      · exact ⟨.here _, rfl, rfl⟩
  · exact ⟨.here _, rfl, rfl⟩

theorem discard_maxCount (fl : JbFramelist) (index : Int) :
    (jbFramelistDiscard fl index).1.maxCount = fl.maxCount := by
  unfold jbFramelistDiscard
  split <;> rfl

theorem discard_frameSize (fl : JbFramelist) (index : Int) :
    (jbFramelistDiscard fl index).1.frameSize = fl.frameSize := by
  unfold jbFramelistDiscard
  split <;> rfl

theorem calculateJitter_lastOp (jb : PjmediaJbuf) :
    (jbufCalculateJitter jb).jbLastOp = jb.jbLastOp := by
  unfold jbufCalculateJitter
  simp only
  split_ifs <;> rfl

theorem updateLevel_lastOp (jb : PjmediaJbuf) (oper : JbOp) :
    (updateLevel jb oper).1.jbLastOp = oper := by
  unfold updateLevel
  simp only
  split_ifs with changed
  all_goals
    first
      | exact not_not.mp changed
      | simp only [calculateJitter_lastOp]

theorem jbufUpdate_eq (jb : PjmediaJbuf) (oper : JbOp) :
    jbufUpdate jb oper = runDiscardAlgo (updateLevel jb oper).1 := by
  have early : (updateLevel jb oper).2 = false →
      (updateLevel jb oper).1.jbStatus = .initializing := by
    unfold updateLevel
    simp only
    split_ifs with changed initializing
    all_goals
      intro returned
      first
        | exact absurd returned (by decide)
        | exact initializing
  unfold jbufUpdate
  cases goOn : (updateLevel jb oper).2 with
  | true => simp only [goOn, if_true]
  | false =>
    have idle : ¬ (updateLevel jb oper).1.jbStatus = .processing := by simp [early goOn]
    simp only [goOn, runDiscardAlgo, if_neg idle]
    rfl

/-! ## Fetching a frame -/

/-- What a get makes of the frame list: it is trimmed, and a frame that is
answered as `NORMAL` was its head. -/
inductive Fetched (fl : JbFramelist) (size : Option Nat) : JbFramelist → FrameOut → Prop
  | nothing {fl' : JbFramelist} {out : FrameOut} : Trimmed fl fl' → out.type ≠ .normal →
      Fetched fl size fl' out
  | head {fl' : JbFramelist} (prevDiscarded : Bool) {out : FrameOut} : Trimmed fl fl' →
      fl'.frameType fl'.head ≠ .discarded → 0 < fl'.size →
      (out.type = .normal → out = (takeHead fl' prevDiscarded size).2) →
      Fetched fl size (takeHead fl' prevDiscarded size).1 out

/-- The delay statistics are to be divided by zero. -/
def Undelayed (jb : PjmediaJbuf) : Prop := jb.jbLastOp = .put ∧ jb.jbFramePtimeDenum = 0

theorem fetchFrame_spec (ok : FlShape jb.jbFramelist) (size : Option Nat) :
    (fetchFrame jb size = none ∧ Undelayed jb) ∨ ∃ jb' out, fetchFrame jb size = some (jb', out) ∧
      Fetched jb.jbFramelist size jb'.jbFramelist out ∧
      SameBuffer { jb with jbFramelist := jb'.jbFramelist } jb' := by
  unfold fetchFrame
  split
  · exact .inr ⟨_, _, rfl, .nothing (.here _) (by decide), ⟨rfl, rfl, rfl⟩⟩
  · obtain ⟨fl, trimmed, outcome | ⟨prevDiscarded, kept, nonempty, outcome⟩⟩ := get_cases ok size
    · simp only [outcome]
      exact .inr ⟨_, _, rfl, .nothing trimmed (show FrameType.zeroEmpty ≠ .normal by decide),
        ⟨rfl, rfl, rfl⟩⟩
    · simp only [outcome]
      split
      · rename_i zero
        exact .inl ⟨rfl, zero⟩
      split
      · exact .inr ⟨_, _, rfl, .head prevDiscarded trimmed kept nonempty fun _ => rfl,
          ⟨rfl, rfl, rfl⟩⟩
      · refine .inr ⟨_, _, rfl, .head prevDiscarded trimmed kept nonempty fun normal => ?_,
          ⟨rfl, rfl, rfl⟩⟩
        exact absurd normal (show FrameType.missing ≠ .normal by decide)

/-! ## The operations -/

/-- The state in which a stored put meets the discard algorithm. -/
def beforeDiscard (jb jb' : PjmediaJbuf) : PjmediaJbuf :=
  (updateLevel (accountPut jb' (i32 (jbFramelistEffSize jb.jbFramelist))) .put).1

theorem stored_before {seq : Int} {frame : Frame}
    (ok : FlShape jb.jbFramelist) (sizes : SameSizes jb) (int : IsInt seq)
    (ran : storeFrame jb seq frame = some (jb', .success)) :
    Stored jb.jbFramelist seq (truncate jb.jbFrameSize frame) jb'.jbFramelist .success ∧
      SameBuffer { jb with jbFramelist := jb'.jbFramelist } (beforeDiscard jb jb') := by
  obtain ⟨fl, discard, status, ran₁, outcome⟩ :=
    storeFrame_spec ok sizes.maxCount sizes.frameSize int frame
  rw [ran] at ran₁
  cases ran₁
  have counted : SameBuffer { jb with jbFramelist := fl }
      { jb with jbFramelist := fl, jbDiscard := discard } :=
    ⟨rfl, rfl, rfl⟩
  exact ⟨outcome, (counted.trans (accountPut_same _ _)).trans (updateLevel_same _ _)⟩

/-- No sum of sequence numbers overflows in a call. -/
def NoOverflow (jb : PjmediaJbuf) : Op → Prop
  | .putFrame3 seq _ => InRange jb.jbFramelist seq
  | .getFrame3 _ => jb.jbFramelist.origin + jb.jbFramelist.size < 2 ^ 31
  | .removeFrame _ => jb.jbFramelist.origin + jb.jbFramelist.size < 2 ^ 31
  | _ => True

instance (jb : PjmediaJbuf) : (op : Op) → Decidable (NoOverflow jb op)
  | .putFrame3 seq _ => inferInstanceAs (Decidable (InRange jb.jbFramelist seq))
  | .getFrame3 _ | .removeFrame _ => inferInstanceAs (Decidable (_ < _))
  | .peekFrame _ | .reset | .setPtime2 _ _ | .setFixed _ | .setAdaptive _ _ _ | .setDiscard _ =>
    .isTrue trivial

inductive Effect (jb : PjmediaJbuf) : Op → PjmediaJbuf → Answer → Prop
  | refused {seq : Int} {frame : Frame} {jb' : PjmediaJbuf} :
      (∀ jb₁, storeFrame jb seq frame ≠ some (jb₁, .success)) → SameBuffer jb jb' →
      Effect jb (.putFrame3 seq frame) jb' (.discarded true)
  | stored {seq : Int} {frame : Frame} {jb' : PjmediaJbuf} : InRange jb.jbFramelist seq →
      storeFrame jb seq frame = some (jb', .success) →
      Stored jb.jbFramelist seq (truncate jb.jbFrameSize frame) jb'.jbFramelist .success →
      SameBuffer { jb with jbFramelist := jb'.jbFramelist } (beforeDiscard jb jb') →
      Effect jb (.putFrame3 seq frame) (runDiscardAlgo (beforeDiscard jb jb')) (.discarded false)
  | fetched {size : Option Nat} {out : FrameOut} {fl : JbFramelist} {mid : PjmediaJbuf} :
      jb.jbFramelist.origin + jb.jbFramelist.size < 2 ^ 31 →
      Fetched jb.jbFramelist size fl out → SameBuffer { jb with jbFramelist := fl } mid →
      ¬ Discards mid → Effect jb (.getFrame3 size) (runDiscardAlgo mid) (.frame out)
  | peeked {offset : Nat} {out : FrameOut} : Effect jb (.peekFrame offset) jb (.frame out)
  | removed {frameCnt count : Nat} {fl : JbFramelist} :
      jb.jbFramelist.origin + jb.jbFramelist.size < 2 ^ 31 → Trimmed jb.jbFramelist fl →
      Effect jb (.removeFrame frameCnt) { jb with jbFramelist := fl } (.removed count)
  | reset : Effect jb .reset (pjmediaJbufReset jb) (.status .success)
  | setPtime2 {ptime ptimeDenum : Nat} {jb' : PjmediaJbuf} : SameBuffer jb jb' →
      Effect jb (.setPtime2 ptime ptimeDenum) jb' (.status .success)
  | setFixed {prefetch : Nat} {jb' : PjmediaJbuf} {status : PjStatus} : SameBuffer jb jb' →
      Effect jb (.setFixed prefetch) jb' (.status status)
  | setAdaptive {prefetch minPrefetch maxPrefetch : Nat} {jb' : PjmediaJbuf} {status : PjStatus} :
      SameBuffer jb jb' → Effect jb (.setAdaptive prefetch minPrefetch maxPrefetch) jb'
        (.status status)
  | setDiscard {algo : DiscardAlgo} : Effect jb (.setDiscard algo) (pjmediaJbufSetDiscard jb algo)
      (.status .success)

variable {ans : Answer}

variable {op : Op}

theorem step_effect (ok : FlShape jb.jbFramelist) (sizes : SameSizes jb)
    (numbers : NoOverflow jb op) (taken : step jb op = some (jb', ans)) :
    Effect jb op jb' ans := by
  cases op with
  | putFrame3 seq frame =>
    simp only [NoOverflow] at numbers
    have int := numbers.int
    obtain ⟨fl, discard, status, ran, outcome⟩ :=
      storeFrame_spec ok sizes.maxCount sizes.frameSize int frame
    simp only [step, pjmediaJbufPutFrame3, ran, Option.map_eq_some_iff] at taken
    obtain ⟨⟨jb₁, flag⟩, taken, answered⟩ := taken
    cases answered
    split at taken
    · rename_i accepted
      cases taken
      subst accepted
      rw [jbufUpdate_eq]
      exact .stored numbers ran outcome (stored_before ok sizes int ran).2
    · rename_i refused
      cases taken
      cases outcome with
      | refused =>
        refine .refused (fun jb₁ accepted => ?_) ⟨rfl, rfl, rfl⟩
        rw [ran] at accepted
        cases accepted
        exact refused rfl
      | accepted => exact absurd rfl refused
  | getFrame3 size =>
    simp only [NoOverflow] at numbers
    rcases fetchFrame_spec ok size with ⟨ran, -⟩ | ⟨jb₁, out, ran, fetched, same⟩
    · simp only [step, pjmediaJbufGetFrame3, ran, Option.map_none, reduceCtorEq] at taken
    simp only [step, pjmediaJbufGetFrame3, ran, Option.map_some, Option.some.injEq,
      Prod.mk.injEq] at taken
    obtain ⟨rfl, rfl⟩ := taken
    rw [jbufUpdate_eq]
    refine .fetched numbers fetched (same.trans ?_) ?_
    · have counted : SameBuffer jb₁ { jb₁ with jbLevel := i32 (jb₁.jbLevel + 1) } :=
        ⟨rfl, rfl, rfl⟩
      exact counted.trans (updateLevel_same _ _)
    · rintro ⟨_, _, lastOp, _⟩
      rw [updateLevel_lastOp] at lastOp
      exact absurd lastOp (by decide)
  | peekFrame offset =>
    simp only [step, Option.map_eq_some_iff, Prod.mk.injEq] at taken
    obtain ⟨out, _, rfl, rfl⟩ := taken
    exact .peeked
  | removeFrame frameCnt =>
    simp only [NoOverflow] at numbers
    obtain ⟨fl, count, ran, trimmed⟩ := remove_spec jb frameCnt
    simp only [step, ran, Option.map_some, Option.some.injEq, Prod.mk.injEq] at taken
    obtain ⟨rfl, rfl⟩ := taken
    exact .removed numbers trimmed
  | reset =>
    cases taken
    exact .reset
  | setPtime2 ptime ptimeDenum =>
    simp only [step, pjmediaJbufSetPtime2, Option.map_eq_some_iff, Option.ite_none_left_eq_some,
      Option.some.injEq, Prod.mk.injEq] at taken
    obtain ⟨_, ⟨-, rfl⟩, rfl, rfl⟩ := taken
    exact .setPtime2 ⟨rfl, rfl, rfl⟩
  | setFixed prefetch =>
    simp only [step, Option.some.injEq, Prod.mk.injEq] at taken
    obtain ⟨rfl, rfl⟩ := taken
    exact .setFixed (setFixed_same jb prefetch)
  | setAdaptive prefetch minPrefetch maxPrefetch =>
    simp only [step, Option.some.injEq, Prod.mk.injEq] at taken
    obtain ⟨rfl, rfl⟩ := taken
    exact .setAdaptive (setAdaptive_same jb prefetch minPrefetch maxPrefetch)
  | setDiscard algo =>
    cases taken
    exact .setDiscard

/-! ## What every operation keeps -/

variable {fl fl' : JbFramelist} {size : Option Nat}

variable {out : FrameOut}

theorem Fetched.maxCount
    (fetched : Fetched fl size fl' out) : fl'.maxCount = fl.maxCount := by
  cases fetched with
  | nothing trimmed => exact trimmed.maxCount
  | head _ trimmed => exact trimmed.maxCount

theorem Fetched.frameSize
    (fetched : Fetched fl size fl' out) : fl'.frameSize = fl.frameSize := by
  cases fetched with
  | nothing trimmed => exact trimmed.frameSize
  | head _ trimmed => exact trimmed.frameSize

theorem runDiscardAlgo_shape (ok : FlShape jb.jbFramelist) :
    FlShape (runDiscardAlgo jb).jbFramelist := by
  by_cases due : Discards jb
  · rw [runDiscardAlgo_due due]
    exact discard_shape ok _
  · exact (runDiscardAlgo_trims due).1.shape ok

theorem runDiscardAlgo_sizes (sizes : SameSizes jb) : SameSizes (runDiscardAlgo jb) := by
  obtain ⟨max, size⟩ := sizes
  by_cases due : Discards jb
  · rw [runDiscardAlgo_due due]
    exact ⟨max.trans (discard_maxCount _ _).symm, size.trans (discard_frameSize _ _).symm⟩
  · obtain ⟨trimmed, maxEq, sizeEq⟩ := runDiscardAlgo_trims due
    exact ⟨by rw [maxEq, max, trimmed.maxCount], by rw [sizeEq, size, trimmed.frameSize]⟩

theorem SameBuffer.sizes (same : SameBuffer jb jb') (sizes : SameSizes jb) : SameSizes jb' :=
  ⟨by rw [same.maxCount, same.framelist, sizes.maxCount],
    by rw [same.frameSize, same.framelist, sizes.frameSize]⟩

theorem Effect.sizes
    (effect : Effect jb op jb' ans) (sizes : SameSizes jb) : SameSizes jb' := by
  have replaced : ∀ {fl : JbFramelist}, fl.maxCount = jb.jbFramelist.maxCount →
      fl.frameSize = jb.jbFramelist.frameSize → SameSizes { jb with jbFramelist := fl } :=
    fun max size => ⟨sizes.maxCount.trans max.symm, sizes.frameSize.trans size.symm⟩
  cases effect with
  | refused _ same => exact same.sizes sizes
  | stored _ _ outcome same =>
    exact runDiscardAlgo_sizes (same.sizes (replaced outcome.maxCount outcome.frameSize))
  | fetched _ fetched same _ =>
    exact runDiscardAlgo_sizes (same.sizes (replaced fetched.maxCount fetched.frameSize))
  | peeked => exact sizes
  | removed _ trimmed => exact replaced trimmed.maxCount trimmed.frameSize
  | reset => exact ⟨sizes.maxCount, sizes.frameSize⟩
  | setPtime2 same => exact same.sizes sizes
  | setFixed same => exact same.sizes sizes
  | setAdaptive same => exact same.sizes sizes
  | setDiscard => exact ⟨sizes.maxCount, sizes.frameSize⟩

theorem Fetched.shape
    (fetched : Fetched fl size fl' out) (ok : FlShape fl) : FlShape fl' := by
  cases fetched with
  | nothing trimmed => exact trimmed.shape ok
  | head _ trimmed _ nonempty => exact takeHead_shape (trimmed.shape ok) nonempty _ _

theorem Effect.shape
    (effect : Effect jb op jb' ans) (ok : FlShape jb.jbFramelist) : FlShape jb'.jbFramelist := by
  cases effect with
  | refused _ same =>
    rw [same.framelist]
    exact ok
  | stored range _ outcome same =>
    apply runDiscardAlgo_shape
    rw [same.framelist]
    exact outcome.shape ok range
  | fetched _ fetched same _ =>
    apply runDiscardAlgo_shape
    rw [same.framelist]
    exact fetched.shape ok
  | peeked => exact ok
  | removed _ trimmed => exact trimmed.shape ok
  | reset => exact reset_shape ok.pos ok.maxCount_int
  | setPtime2 same =>
    rw [same.framelist]
    exact ok
  | setFixed same =>
    rw [same.framelist]
    exact ok
  | setAdaptive same =>
    rw [same.framelist]
    exact ok
  | setDiscard => exact ok

theorem runDiscardAlgo_jbFrameSize (jb : PjmediaJbuf) :
    (runDiscardAlgo jb).jbFrameSize = jb.jbFrameSize := by
  by_cases due : Discards jb
  · rw [runDiscardAlgo_due due]
    rfl
  · exact (runDiscardAlgo_trims due).2.2

theorem Effect.jbFrameSize
    (effect : Effect jb op jb' ans) : jb'.jbFrameSize = jb.jbFrameSize := by
  cases effect with
  | refused _ same => exact same.frameSize
  | stored _ _ _ same => rw [runDiscardAlgo_jbFrameSize, same.frameSize]
  | fetched _ _ same _ => rw [runDiscardAlgo_jbFrameSize, same.frameSize]
  | peeked => rfl
  | removed => rfl
  | reset => rfl
  | setPtime2 same => exact same.frameSize
  | setFixed same => exact same.frameSize
  | setAdaptive same => exact same.frameSize
  | setDiscard => rfl

/-! ## What every operation keeps, whether or not numbers overflow -/

theorem get_inRing (ring : InRing fl) {out : Option FrameOut}
    (ran : jbFramelistGet fl size = some (fl', out)) : InRing fl' := by
  have skips : ∀ (fuel : Nat) (fl fl' : JbFramelist) (prev prev' : Bool), InRing fl →
      skipDiscarded fuel fl prev = some (fl', prev') → InRing fl' := by
    intro fuel
    induction fuel with
    | zero =>
      intro fl fl' prev prev' ring ran
      unfold skipDiscarded at ran
      split at ran <;> cases ran
      exact ring
    | succ fuel ih =>
      intro fl fl' prev prev' ring ran
      unfold skipDiscarded at ran
      split at ran
      · exact ih _ _ _ _ (removeHead_inRing ring 1) ran
      · cases ran
        exact ring
  unfold jbFramelistGet at ran
  split at ran
  · cases ran
    exact ring
  split at ran
  · cases ran
  · rename_i mid prev skipped
    have kept := skips _ _ _ _ _ ring skipped
    split at ran <;> cases ran
    · exact kept
    · exact takeHead_inRing kept prev size

theorem putAt_inRing (ring : InRing fl) (index : Int) (frame : Frame) (frameType : FrameType) :
    InRing (jbFramelistPutAt fl index frame frameType).1 := by
  have cleared := reset_inRing ring.pos ring.maxCount_lt
  have rebased : InRing (rebase fl index).1 := by
    unfold rebase
    by_cases behind : i32 (index - fl.origin) < 0
    · simp only [if_pos behind]
      split
      · split <;> exact ring.withOrigin _
      · exact cleared.withOrigin _
    · simp only [if_neg behind]
      split
      · exact ring.withOrigin _
      · exact ring
  unfold jbFramelistPutAt
  split
  · exact ring
  split
  · exact ring
  generalize rebase fl index = next at rebased
  obtain ⟨base, distance⟩ := next
  dsimp only at rebased ⊢
  have pos := rebased.pos
  split
  · split
    · have emptied := reset_inRing pos rebased.maxCount_lt
      exact storeAt_inRing (emptied.withOrigin index) index pos frame frameType
    · exact rebased
  · rename_i near
    have clipped : i32 base.maxCount ≤ base.maxCount := by
      rw [i32_eq]
      omega
    exact storeAt_inRing rebased index (show distance.toNat < base.maxCount by omega) frame frameType

theorem storeFrame_inRing {seq : Int} {frame : Frame} {status : PjStatus}
    (ring : InRing jb.jbFramelist) (ran : storeFrame jb seq frame = some (jb', status)) :
    InRing jb'.jbFramelist := by
  have evicts : ∀ (frame : Frame) (fuel : Nat) (jb : PjmediaJbuf) (status status' : PjStatus),
      InRing jb.jbFramelist → evictLoop seq frame fuel jb status = some (jb', status') →
      InRing jb'.jbFramelist := by
    intro frame fuel
    induction fuel with
    | zero =>
      intro jb status status' ring ran
      unfold evictLoop at ran
      split at ran <;> cases ran
      exact ring
    | succ fuel ih =>
      intro jb status status' ring ran
      unfold evictLoop at ran
      split at ran
      · exact ih _ _ _ (putAt_inRing (removeHead_inRing ring _) seq frame .normal) ran
      · cases ran
        exact ring
  exact evicts _ _ _ _ _ (putAt_inRing ring seq _ .normal) ran

theorem jbufUpdate_inRing (ring : InRing jb.jbFramelist) (oper : JbOp) :
    InRing (jbufUpdate jb oper).jbFramelist := by
  have same : InRing (updateLevel jb oper).1.jbFramelist := by
    rwa [(updateLevel_same jb oper).framelist]
  rw [jbufUpdate_eq]
  by_cases due : Discards (updateLevel jb oper).1
  · rw [runDiscardAlgo_due due]
    exact discard_inRing same _
  · exact (runDiscardAlgo_trims due).1.inRing same

theorem step_inRing (ring : InRing jb.jbFramelist)
    (taken : step jb op = some (jb', ans)) : InRing jb'.jbFramelist := by
  cases op with
  | putFrame3 seq frame =>
    simp only [step, pjmediaJbufPutFrame3, Option.map_eq_some_iff] at taken
    obtain ⟨⟨_, flag⟩, taken, answered⟩ := taken
    cases answered
    split at taken
    · cases taken
    · rename_i jb₁ status ran
      have stored := storeFrame_inRing ring ran
      split at taken
      · cases taken
        have accounted := (accountPut_same jb₁ (i32 (jbFramelistEffSize jb.jbFramelist))).framelist
        exact jbufUpdate_inRing (accounted ▸ stored) .put
      · cases taken
        exact stored
  | getFrame3 size =>
    simp only [step, pjmediaJbufGetFrame3, Option.map_eq_some_iff] at taken
    obtain ⟨⟨_, out⟩, taken, answered⟩ := taken
    cases answered
    split at taken
    · cases taken
    · rename_i jb₁ out' ran
      have fetched : InRing jb₁.jbFramelist := by
        unfold fetchFrame at ran
        split at ran
        · cases ran
          exact ring
        split at ran
        · cases ran
        · rename_i got
          split at ran
          · cases ran
          split at ran <;> cases ran <;> exact get_inRing ring got
        · rename_i got
          cases ran
          exact get_inRing ring got
      cases taken
      have leveled : InRing { jb₁ with jbLevel := i32 (jb₁.jbLevel + 1) }.jbFramelist := fetched
      exact jbufUpdate_inRing leveled .get
  | peekFrame offset =>
    simp only [step, Option.map_eq_some_iff, Prod.mk.injEq] at taken
    obtain ⟨_, _, rfl, -⟩ := taken
    exact ring
  | removeFrame frameCnt =>
    obtain ⟨fl, count, ran, trimmed⟩ := remove_spec jb frameCnt
    simp only [step, ran, Option.map_some, Option.some.injEq, Prod.mk.injEq] at taken
    obtain ⟨rfl, -⟩ := taken
    exact trimmed.inRing ring
  | reset =>
    cases taken
    exact reset_inRing ring.pos ring.maxCount_lt
  | setPtime2 ptime ptimeDenum =>
    simp only [step, pjmediaJbufSetPtime2, Option.map_eq_some_iff, Option.ite_none_left_eq_some,
      Option.some.injEq, Prod.mk.injEq] at taken
    obtain ⟨_, ⟨-, rfl⟩, rfl, -⟩ := taken
    exact ring
  | setFixed prefetch =>
    simp only [step, Option.some.injEq, Prod.mk.injEq] at taken
    obtain ⟨rfl, -⟩ := taken
    rwa [(setFixed_same jb prefetch).framelist]
  | setAdaptive prefetch minPrefetch maxPrefetch =>
    simp only [step, Option.some.injEq, Prod.mk.injEq] at taken
    obtain ⟨rfl, -⟩ := taken
    rwa [(setAdaptive_same jb prefetch minPrefetch maxPrefetch).framelist]
  | setDiscard algo =>
    cases taken
    exact ring

end Pjsip.Pjmedia.Jbuf
