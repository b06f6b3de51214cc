import Pjsip.Base.Playout
import Pjsip.Base.Run
import Pjsip.Pjmedia.Jbuf.View

/-!
# The playout of the jitter buffer

The frame list, seen as the frames it can still play, is a numbered store; a put
that restarts the sequence, a jump that is too far and a reset are its breaks.
What the store says of its traces then holds of the calls.
-/

namespace Pjsip.Pjmedia.Jbuf

open Pjsip.Base Pjsip.Pjlib

/-- The frame that can be played under the number `seq`. -/
def JbFramelist.playable (fl : JbFramelist) (seq : Int) : Option Cell :=
  (fl.held seq).filter fun cell => !cell.discarded

variable {fl fl' : JbFramelist}

variable {cell : Cell} {seq : Int}

theorem playable_eq_some :
    fl.playable seq = some cell ↔ fl.held seq = some cell ∧ cell.discarded = false := by
  simp [JbFramelist.playable, Option.filter_eq_some_iff]

def JbFramelist.store (fl : JbFramelist) : Playout.Store Cell :=
  { held := fl.playable, floor := fl.origin }

theorem playable_floor
    (here : fl.playable seq = some cell) : fl.origin ≤ seq := by
  by_contra below
  rw [playable_eq_some, held_outside (.inl (by omega))] at here
  exact absurd here.1 (by simp)

/-- A list that plays on from another without anything new. -/
structure Fewer (fl fl' : JbFramelist) : Prop where
  origin : fl.origin ≤ fl'.origin
  playable : ∀ seq cell, fl'.playable seq = some cell → fl.playable seq = some cell

theorem Fewer.refl (fl : JbFramelist) : Fewer fl fl := ⟨le_refl _, fun _ _ here => here⟩

theorem Fewer.trans {fl₁ fl₂ fl₃ : JbFramelist} (first : Fewer fl₁ fl₂) (second : Fewer fl₂ fl₃) :
    Fewer fl₁ fl₃ :=
  ⟨first.origin.trans second.origin,
    fun seq cell here => first.playable seq cell (second.playable seq cell here)⟩

theorem Fewer.of_held (origin : fl.origin ≤ fl'.origin)
    (held : ∀ seq, fl'.held seq = if seq < fl'.origin then none else fl.held seq) :
    Fewer fl fl' := by
  refine ⟨origin, fun seq cell here => ?_⟩
  rw [playable_eq_some, held seq] at here
  rw [playable_eq_some]
  split at here
  · exact absurd here.1 (by simp)
  · exact here

theorem Trimmed.fewer (trimmed : Trimmed fl fl') (ok : FlShape fl)
    (last : fl.origin + fl.size < 2 ^ 31) : Fewer fl fl' :=
  .of_held (trimmed.held ok last).1 (trimmed.held ok last).2.2

theorem runDiscardAlgo_fewer {jb : PjmediaJbuf} (ok : FlShape jb.jbFramelist)
    (last : jb.jbFramelist.origin + jb.jbFramelist.size < 2 ^ 31) :
    Fewer jb.jbFramelist (runDiscardAlgo jb).jbFramelist := by
  by_cases due : Discards jb
  · rw [runDiscardAlgo_due due]
    generalize discardSeq (scheduleDiscard jb) = index
    by_cases inside : jb.jbFramelist.origin ≤ index ∧
        index < i32 (jb.jbFramelist.origin + i32 jb.jbFramelist.size)
    · refine ⟨by simp only [jbFramelistDiscard, if_pos inside]; exact le_refl _,
        fun seq cell here => ?_⟩
      rw [playable_eq_some] at here ⊢
      by_cases same : seq = index
      · have marked := (held_discard ok inside seq).1 same cell here.1
        exact absurd (marked.symm.trans here.2) (by decide)
      · rwa [(held_discard ok inside seq).2 same] at here
    · rw [jbFramelistDiscard, if_neg inside]
      exact .refl _
  · exact (runDiscardAlgo_trims due).1.fewer ok last

theorem playable_storeAt {ready : JbFramelist} {index : Int} {distance : Nat} {frame : Frame}
    (slot : Ready ready index distance) (spans : Spans ready index)
    (here : (storeAt ready index distance frame .normal).1.playable seq = some cell) :
    seq = index ∧ cell = Cell.ofFrame frame ∨ seq ≠ index ∧ ready.playable seq = some cell := by
  rw [playable_eq_some, held_storeAt slot spans] at here
  by_cases same : seq = index
  · rw [if_pos same] at here
    exact .inl ⟨same, (Option.some.inj here.1).symm⟩
  · rw [if_neg same, ← playable_eq_some] at here
    exact .inr ⟨same, here⟩

@[simp] theorem storeAt_origin (fl : JbFramelist) (index : Int) (distance : Nat) (frame : Frame)
    (frameType : FrameType) :
    (storeAt fl index distance frame frameType).1.origin = fl.origin := by
  unfold storeAt
  simp only
  split <;> rfl

/-- What a stored frame does to the store: it is held under its number, and the
others keep theirs unless the put renumbers. -/
theorem Stored.playable {index : Int} {frame : Frame}
    (stored : Stored fl index frame fl' .success) (ok : FlShape fl) (range : InRange fl index) :
    ∃ shift : Int, (¬ Renumbers fl index → shift = 0 ∧ fl.origin ≤ fl'.origin) ∧
      ∀ seq cell, fl'.playable seq = some cell → seq = index ∧ cell = Cell.ofFrame frame ∨
          seq ≠ index ∧ fl.playable (seq + shift) = some cell := by
  cases stored with
  | refused failed => exact absurd rfl failed
  | @accepted base ready distance how evicted slot =>
    have okBase := how.shape ok range.int
    have spans := how.spans ok range
    have spans' := evicted.spans okBase range.int spans
    have kept : Fewer base ready :=
      .of_held (evicted.held okBase spans).1 (evicted.held okBase spans).2
    rw [storeAt_origin]
    by_cases renumbers : Renumbers fl index
    · obtain ⟨shift, shifted⟩ := how.shifted
      refine ⟨shift, fun quiet => absurd renumbers quiet, fun seq cell here => ?_⟩
      refine (playable_storeAt slot spans' here).imp_right fun ⟨other, held⟩ => ⟨other, ?_⟩
      have before := kept.playable seq cell held
      rw [playable_eq_some] at before ⊢
      exact ⟨shifted seq cell before.1, before.2⟩
    · obtain ⟨origin, same⟩ := how.held range renumbers
      refine ⟨0, fun _ => ⟨rfl, origin.trans kept.origin⟩, fun seq cell here => ?_⟩
      refine (playable_storeAt slot spans' here).imp_right fun ⟨other, held⟩ => ⟨other, ?_⟩
      have before := kept.playable seq cell held
      rw [playable_eq_some, same] at before
      rwa [Int.add_zero, playable_eq_some]

/-! ## The calls as events of the store -/

/-- The calls that break the numbering. -/
def NewEpoch (jb : PjmediaJbuf) : Op → Prop
  | .putFrame3 seq _ => Renumbers jb.jbFramelist seq
  | .reset => True
  | _ => False

instance (jb : PjmediaJbuf) (op : Op) : Decidable (NewEpoch jb op) := by
  cases op <;> unfold NewEpoch <;> infer_instance

/-- A call, its answer, and whether it breaks the numbering. -/
def observe (jb : PjmediaJbuf) (op : Op) : Option (PjmediaJbuf × Answer × Bool) :=
  (step jb op).map fun next => (next.1, next.2, decide (NewEpoch jb op))

/-- What a get answers for the frame stored in `cell` under `seq`, when the
caller's buffer takes `size` bytes. -/
def Cell.out (cell : Cell) (seq : Int) (size : Option Nat) : FrameOut :=
  { type := .normal
    frame := some (cell.bytes.take (size.getD cell.len))
    size := some (min (size.getD cell.len) cell.len)
    bitInfo := some cell.bitInfo
    ts := some cell.ts
    seq := some seq }

/-- The event of the store that a call and its answer stand for. -/
inductive Shows (frameSize : Nat) : Op → Answer → Playout.Event Cell → Prop
  | put (seq : Int) (frame : Frame) :
      Shows frameSize (.putFrame3 seq frame) (.discarded false)
        (.put seq (Cell.ofFrame (truncate frameSize frame)))
  | play (size : Option Nat) (seq : Int) (cell : Cell) :
      Shows frameSize (.getFrame3 size) (.frame (cell.out seq size)) (.play seq cell)
  | other {op : Op} {ans : Answer} :
      (∀ seq frame, op = .putFrame3 seq frame → ans ≠ .discarded false) →
      (∀ size out, op = .getFrame3 size → ans = .frame out → out.type ≠ .normal) →
      Shows frameSize op ans .other

theorem Fewer.moves (fewer : Fewer fl fl') (isBreak : Bool) :
    Playout.Moves fl.store .other isBreak fl'.store :=
  ⟨fun _ => fewer.origin, fewer.playable⟩

variable {size : Option Nat} {out : FrameOut}

theorem Fetched.moves {fl'' : JbFramelist}
    (fetched : Fetched fl size fl' out) (after : Fewer fl' fl'') (ok : FlShape fl)
    (last : fl.origin + fl.size < 2 ^ 31) :
    (out.type ≠ .normal ∧ Fewer fl fl'') ∨ ∃ seq cell, out = cell.out seq size ∧
        Playout.Moves fl.store (.play seq cell) false fl''.store := by
  cases fetched with
  | nothing trimmed failed => exact .inl ⟨failed, (trimmed.fewer ok last).trans after⟩
  | @head mid prevDiscarded _ trimmed kept nonempty played =>
    have okMid := trimmed.shape ok
    have lastMid := (trimmed.held ok last).2.1
    have fewer := trimmed.fewer ok last
    have origin := takeHead_origin okMid lastMid nonempty prevDiscarded size
    have taken : Fewer mid (takeHead mid prevDiscarded size).1 := by
      refine .of_held (by omega) fun seq => ?_
      rw [held_takeHead okMid lastMid nonempty, origin]
    by_cases normal : out.type = .normal
    · have outEq := played normal
      rw [outEq] at normal
      obtain ⟨cell, held, live, shape⟩ := takeHead_out okMid nonempty normal
      refine .inr ⟨mid.origin, cell, outEq.trans shape, ?_, ?_, ?_, rfl, ?_⟩
      · exact fewer.playable _ _ (playable_eq_some.mpr ⟨held, live⟩)
      · exact fewer.origin
      · have risen := after.origin
        show mid.origin < fl''.origin
        omega
      · intro m x here
        refine ⟨playable_floor here, ?_⟩
        exact ((fewer.trans taken).trans after).playable m x here
    · exact .inl ⟨normal, (fewer.trans taken).trans after⟩

theorem Fetched.last (fetched : Fetched fl size fl' out)
    (ok : FlShape fl) (last : fl.origin + fl.size < 2 ^ 31) : fl'.origin + fl'.size < 2 ^ 31 := by
  cases fetched with
  | nothing trimmed => exact (trimmed.held ok last).2.1
  | @head mid prevDiscarded _ trimmed kept nonempty =>
    have lastMid := (trimmed.held ok last).2.1
    rw [takeHead_origin (trimmed.shape ok) lastMid nonempty]
    show mid.origin + 1 + ((mid.size - 1 : Nat) : Int) < 2 ^ 31
    omega

theorem Effect.moves {jb jb' : PjmediaJbuf} {op : Op} {ans : Answer}
    (effect : Effect jb op jb' ans) (ok : FlShape jb.jbFramelist) :
    ∃ e, Shows jb.jbFrameSize op ans e ∧
      Playout.Moves jb.jbFramelist.store e (decide (NewEpoch jb op)) jb'.jbFramelist.store := by
  have quiet : ∀ {op ans}, (∀ seq frame, op ≠ .putFrame3 seq frame) →
      (∀ size, op ≠ .getFrame3 size) → Shows jb.jbFrameSize op ans .other := by
    intro op ans notPut notGet
    exact .other (fun seq frame same => absurd same (notPut seq frame))
      fun size out same => absurd same (notGet size)
  cases effect with
  | refused _ same =>
    refine ⟨.other, .other (by simp) (by simp), ?_⟩
    rw [same.framelist]
    exact (Fewer.refl _).moves _
  | @stored seq frame mid range ran outcome same =>
    refine ⟨_, .put seq frame, ?_⟩
    obtain ⟨shift, unbroken, origin⟩ := outcome.playable ok range
    have okMid : FlShape (beforeDiscard jb mid).jbFramelist := by
      rw [same.framelist]
      exact outcome.shape ok range
    have after := runDiscardAlgo_fewer okMid (by
      rw [same.framelist]
      exact outcome.last ok range)
    rw [same.framelist] at after
    refine ⟨shift, fun noBreak => ?_, fun m x here => origin m x (after.playable m x here)⟩
    obtain ⟨unshifted, risen⟩ := unbroken (of_decide_eq_false noBreak)
    exact ⟨unshifted, risen.trans after.origin⟩
  | @fetched size out fl mid last fetched same notDue =>
    have okMid : FlShape mid.jbFramelist := by
      rw [same.framelist]
      exact fetched.shape ok
    have after := runDiscardAlgo_fewer okMid (by
      rw [same.framelist]
      exact fetched.last ok last)
    rw [same.framelist] at after
    rcases fetched.moves after ok last with ⟨failed, fewer⟩ | ⟨seq, cell, rfl, moves⟩
    · refine ⟨.other, .other (by simp) ?_, fewer.moves _⟩
      rintro _ _ - same
      cases same
      exact failed
    · exact ⟨_, .play size seq cell, moves⟩
  | peeked => exact ⟨.other, quiet (by simp) (by simp), (Fewer.refl _).moves _⟩
  | removed last trimmed =>
    exact ⟨.other, quiet (by simp) (by simp), (trimmed.fewer ok last).moves _⟩
  | reset =>
    refine ⟨.other, quiet (by simp) (by simp), fun noBreak => ?_, fun m x here => ?_⟩
    · exact absurd trivial (of_decide_eq_false noBreak)
    · have gone := (playable_eq_some.mp here).1
      rw [show (pjmediaJbufReset jb).jbFramelist = jbFramelistReset jb.jbFramelist from rfl,
        held_empty rfl] at gone
      exact absurd gone (by simp)
  | setPtime2 same | setFixed same | setAdaptive same =>
    refine ⟨.other, quiet (by simp) (by simp), ?_⟩
    rw [same.framelist]
    exact (Fewer.refl _).moves _
  | setDiscard => exact ⟨.other, quiet (by simp) (by simp), (Fewer.refl _).moves _⟩

/-! ## Whole runs -/

/-- A trace of the store that shows a trace of the calls. -/
def ShowsAll (frameSize : Nat) (tr : List (Op × Answer × Bool))
    (events : List (Playout.Event Cell × Bool)) : Prop :=
  List.Forall₂ (fun call event => Shows frameSize call.1 call.2.1 event.1 ∧ call.2.2 = event.2)
    tr events

/-- The calls passed are a trace of the numbered store, and what the calls rely
on stands. -/
structure Refines (jb₀ : PjmediaJbuf) (tr : List (Op × Answer × Bool)) (jb : PjmediaJbuf) :
    Prop where
  trace : ∃ events, ShowsAll jb₀.jbFrameSize tr events ∧
    Playout.Trace jb₀.jbFramelist.store events jb.jbFramelist.store
  shape : FlShape jb.jbFramelist
  sizes : SameSizes jb
  cut : jb.jbFrameSize = jb₀.jbFrameSize

theorem Refines.step {jb₀ jb jb' : PjmediaJbuf} {tr : List (Op × Answer × Bool)} {op : Op}
    {label : Answer × Bool} (refines : Refines jb₀ tr jb) (numbers : NoOverflow jb op)
    (observed : observe jb op = some (jb', label)) : Refines jb₀ (tr ++ [(op, label)]) jb' := by
  obtain ⟨⟨events, shows, trace⟩, ok, sizes, cut⟩ := refines
  simp only [observe, Option.map_eq_some_iff, Prod.mk.injEq] at observed
  obtain ⟨⟨_, ans⟩, taken, rfl, rfl⟩ := observed
  have effect := step_effect ok sizes numbers taken
  obtain ⟨e, shown, moves⟩ := effect.moves ok
  rw [cut] at shown
  exact ⟨⟨_, List.rel_append shows (.cons ⟨shown, rfl⟩ .nil), trace.snoc moves⟩,
    effect.shape ok, effect.sizes sizes, effect.jbFrameSize.trans cut⟩

theorem observe_refines {jb₀ jb : PjmediaJbuf} {tr : List (Op × Answer × Bool)}
    (ok : FlShape jb₀.jbFramelist) (sizes : SameSizes jb₀) (run : Run observe jb₀ tr jb)
    (numbers : Along observe NoOverflow jb₀ (tr.map Prod.fst)) : Refines jb₀ tr jb :=
  run.traced_along (fun _ _ _ _ _ refines numbers observed => refines.step numbers observed)
    numbers ⟨⟨[], .nil, .nil⟩, ok, sizes, rfl⟩

/-- No call strictly between the positions `i` and `j` breaks the numbering. -/
def SameEpoch (tr : List (Op × Answer × Bool)) (i j : Nat) : Prop :=
  ∀ k op ans isBreak, i < k → k < j → tr[k]? = some (op, ans, isBreak) → isBreak = false

/-- The call at `k` put a frame, and it was not reported as discarded. -/
def Accepted (tr : List (Op × Answer × Bool)) (k : Nat) (seq : Int) (frame : Frame) : Prop :=
  ∃ isBreak, tr[k]? = some (.putFrame3 seq frame, .discarded false, isBreak)

/-- The call at `g` got a frame of type `NORMAL`. -/
def Played (tr : List (Op × Answer × Bool)) (g : Nat) (size : Option Nat) (out : FrameOut) : Prop :=
  out.type = .normal ∧ ∃ isBreak, tr[g]? = some (.getFrame3 size, .frame out, isBreak)

section Shown

variable {frameSize : Nat} {tr : List (Op × Answer × Bool)}
  {events : List (Playout.Event Cell × Bool)}

private theorem forall₂_getElem? {α γ : Type} {R : α → γ → Prop} {as : List α} {cs : List γ}
    (all : List.Forall₂ R as cs) (k : Nat) :
    (as[k]? = none ∧ cs[k]? = none) ∨ ∃ a c, as[k]? = some a ∧ cs[k]? = some c ∧ R a c := by
  induction all generalizing k with
  | nil => exact .inl ⟨rfl, rfl⟩
  | cons here _ ih =>
    cases k with
    | zero => exact .inr ⟨_, _, rfl, rfl, here⟩
    | succ k => exact ih k

theorem ShowsAll.played (shows : ShowsAll frameSize tr events) {g : Nat}
    (played : Played tr g size out) :
    ∃ seq cell, Playout.PlayAt events g seq cell ∧ out = cell.out seq size := by
  obtain ⟨normal, isBreak, here⟩ := played
  rcases forall₂_getElem? shows g with ⟨outside, _⟩ | ⟨⟨op, ans, b⟩, ⟨e, b'⟩, here', shown, how, _⟩
  · rw [here] at outside
    cases outside
  · rw [here] at here'
    cases here'
    cases how with
    | play size seq cell => exact ⟨seq, cell, ⟨b', shown⟩, rfl⟩
    | other _ silent => exact absurd normal (silent size out rfl rfl)

theorem ShowsAll.accepted (shows : ShowsAll frameSize tr events) {k : Nat}
    (put : Playout.PutAt events k seq cell) :
    ∃ frame, Accepted tr k seq frame ∧ cell = Cell.ofFrame (truncate frameSize frame) := by
  obtain ⟨isBreak, here⟩ := put
  rcases forall₂_getElem? shows k with ⟨_, outside⟩ | ⟨⟨op, ans, b⟩, ⟨e, b'⟩, shown, here', how, _⟩
  · rw [here] at outside
    cases outside
  · rw [here] at here'
    cases here'
    cases how with
    | put seq frame => exact ⟨frame, ⟨b, shown⟩, rfl⟩

theorem ShowsAll.quiet (shows : ShowsAll frameSize tr events) {i j : Nat}
    (same : SameEpoch tr i j) : Playout.Quiet events i j := by
  intro k e isBreak low high here
  rcases forall₂_getElem? shows k with ⟨_, outside⟩ | ⟨⟨op, ans, b⟩, ⟨e', b'⟩, shown, here', _, flag⟩
  · rw [here] at outside
    cases outside
  · rw [here] at here'
    cases here'
    exact flag.symm.trans (same k op ans b low high shown)

end Shown

/-- In every run of a new jitter buffer without overflow each frame played comes from an accepted
put of its own, made earlier, with its bytes, cut to the frame size and to the caller's buffer, its
length, time stamp and bit info. It is played under the number of that put unless the numbering
broke in between, and within an epoch the numbers played rise. -/
theorem jbuf_playout (pool : JbFramelist) (frameSize ptime : Nat) {maxCount : Nat}
    (hmax : 1 ≤ maxCount) (int : maxCount < 2 ^ 31) {ops : List Op}
    {tr : List (Op × Answer × Bool)}
    (numbers : Along observe NoOverflow (pjmediaJbufCreate pool frameSize ptime maxCount) ops)
    (traced : trace observe (pjmediaJbufCreate pool frameSize ptime maxCount) ops = some tr) :
    ∃ source : Nat → Nat, (∀ g size out, Played tr g size out → source g < g ∧ ∃ seq₀ frame seq,
        Accepted tr (source g) seq₀ frame ∧
        out = (Cell.ofFrame (truncate frameSize frame)).out seq size ∧
        (SameEpoch tr (source g) g → seq = seq₀)) ∧
      (∀ g₁ g₂ size₁ size₂ out₁ out₂, Played tr g₁ size₁ out₁ → Played tr g₂ size₂ out₂ →
        source g₁ = source g₂ → g₁ = g₂) ∧
      ∀ g₁ g₂ size₁ size₂ out₁ out₂, g₁ < g₂ → Played tr g₁ size₁ out₁ → Played tr g₂ size₂ out₂ →
        SameEpoch tr g₁ g₂ → ∃ seq₁ seq₂, out₁.seq = some seq₁ ∧ out₂.seq = some seq₂ ∧
          seq₁ < seq₂ := by
  obtain ⟨jb, calls, run⟩ := Run.of_trace traced
  have ok : FlShape (pjmediaJbufCreate pool frameSize ptime maxCount).jbFramelist :=
    reset_shape hmax int
  have started : (pjmediaJbufCreate pool frameSize ptime maxCount).jbFramelist.store =
      { held := fun _ => none, floor := INVALID_OFFSET } := by
    unfold JbFramelist.store
    congr 1
    funext seq
    unfold JbFramelist.playable
    rw [held_empty rfl]
    rfl
  obtain ⟨events, shows, trace⟩ := (observe_refines ok ⟨rfl, rfl⟩ run (calls ▸ numbers)).trace
  rw [started] at trace
  obtain ⟨stored, source, prov⟩ := trace.provenance
  refine ⟨source, ?_, ?_, ?_⟩
  · intro g size out played
    obtain ⟨seq, cell, play, outEq⟩ := shows.played played
    obtain ⟨before, seq₀, put, same⟩ := prov.played g seq cell play
    obtain ⟨frame, accepted, cellEq⟩ := shows.accepted put
    exact ⟨before, seq₀, frame, seq, accepted, cellEq ▸ outEq,
      fun epoch => same (shows.quiet epoch)⟩
  · intro g₁ g₂ size₁ size₂ out₁ out₂ played₁ played₂ same
    obtain ⟨seq₁, cell₁, play₁, _⟩ := shows.played played₁
    obtain ⟨seq₂, cell₂, play₂, _⟩ := shows.played played₂
    exact prov.once g₁ g₂ seq₁ seq₂ cell₁ cell₂ play₁ play₂ same
  · intro g₁ g₂ size₁ size₂ out₁ out₂ lt played₁ played₂ epoch
    obtain ⟨seq₁, cell₁, play₁, out₁Eq⟩ := shows.played played₁
    obtain ⟨seq₂, cell₂, play₂, out₂Eq⟩ := shows.played played₂
    refine ⟨seq₁, seq₂, by rw [out₁Eq]; rfl, by rw [out₂Eq]; rfl, ?_⟩
    exact prov.rising g₁ g₂ seq₁ seq₂ cell₁ cell₂ lt play₁ play₂ (shows.quiet epoch)

/-- Two bytes as the frame numbered `n`. -/
def putTwo (n : Nat) : Op :=
  .putFrame3 n { bytes := [UInt8.ofNat n, 7], bitInfo := 0, ts := UInt32.ofNat n }

/-- A restart of the sequence at 100 while two frames near the wrap are held. -/
def restartRun : List Op :=
  [.setAdaptive 0 0 0, putTwo 477220, putTwo 477221, putTwo 100, .getFrame3 none,
    .getFrame3 (some 1)]

/-- What the frame put as 477220 or 477221 is played as after the restart. -/
def restartOut (ts : UInt32) (bytes : List UInt8) (seq : Int) : FrameOut :=
  { type := .normal
    frame := some bytes
    size := some bytes.length
    bitInfo := some 0
    ts := some ts
    seq := some seq }

theorem restartRun_trace : trace observe (pjmediaJbufCreate clearedPool 2 20 10) restartRun = some
      [(.setAdaptive 0 0 0, .status .success, false), (putTwo 477220, .discarded false, false),
        (putTwo 477221, .discarded false, false), (putTwo 100, .discarded false, true),
        (.getFrame3 none, .frame (restartOut 477220 [36, 7] 98), false),
        (.getFrame3 (some 1), .frame (restartOut 477221 [37] 99), false)] := by
  decide +kernel

theorem jbuf_playout_restart : ∃ tr, ∃ source : Nat → Nat,
      trace observe (pjmediaJbufCreate clearedPool 2 20 10) restartRun = some tr ∧
      Played tr 4 none (restartOut 477220 [36, 7] 98) ∧ source 4 < 4 := by
  obtain ⟨source, first, _⟩ := jbuf_playout clearedPool 2 20 (by decide) (by decide)
    (by decide +kernel) restartRun_trace
  exact ⟨_, source, restartRun_trace, ⟨rfl, _, rfl⟩, (first 4 _ _ ⟨rfl, _, rfl⟩).1⟩

/-- After the restart, and with no further break, a frame is played under a number
that no put had, and another is cut to a buffer that is too small for it. -/
theorem jbuf_restart_renumbers : ∃ tr out₄ out₅,
      trace observe (pjmediaJbufCreate clearedPool 2 20 10) restartRun = some tr ∧
      SameEpoch tr 3 6 ∧ Played tr 4 none out₄ ∧ Played tr 5 (some 1) out₅ ∧
      (∀ k seq frame, Accepted tr k seq frame → out₄.seq ≠ some seq) ∧
      ∀ k seq frame, Accepted tr k seq frame → out₅.frame ≠ some frame.bytes := by
  refine ⟨_, restartOut 477220 [36, 7] 98, restartOut 477221 [37] 99, restartRun_trace, ?_,
    ⟨rfl, _, rfl⟩, ⟨rfl, _, rfl⟩, ?_, ?_⟩
  · intro k op ans isBreak low high here
    obtain rfl | rfl : k = 4 ∨ k = 5 := by omega
    · cases here
      rfl
    · cases here
      rfl
  · rintro k seq frame ⟨isBreak, here⟩
    have among := List.mem_of_getElem? here
    simp only [List.mem_cons, List.not_mem_nil, Prod.mk.injEq, putTwo, Op.putFrame3.injEq,
      reduceCtorEq, false_and, false_or, or_false] at among
    rcases among with ⟨⟨rfl, _⟩, _⟩ | ⟨⟨rfl, _⟩, _⟩ | ⟨⟨rfl, _⟩, _⟩ <;> decide
  · rintro k seq frame ⟨isBreak, here⟩
    have among := List.mem_of_getElem? here
    simp only [List.mem_cons, List.not_mem_nil, Prod.mk.injEq, putTwo, Op.putFrame3.injEq,
      reduceCtorEq, false_and, false_or, or_false] at among
    rcases among with ⟨⟨_, rfl⟩, _⟩ | ⟨⟨_, rfl⟩, _⟩ | ⟨⟨_, rfl⟩, _⟩ <;> decide

end Pjsip.Pjmedia.Jbuf
