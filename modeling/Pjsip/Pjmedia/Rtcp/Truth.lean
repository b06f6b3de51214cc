import Mathlib.Data.Finset.Card
import Mathlib.Order.Interval.Finset.Nat
import Pjsip.Pjmedia.Rtcp.Report

/-!
# What a report says (`rtcp.c`)

Beside the session stands what has really been heard: which packets have arrived since the
probation ended, and how far the report before had seen. The counters of the session agree with
it, so that a report says what is true.
-/

namespace Pjsip.Pjmedia.Rtcp

open Pjsip.Base Pjsip.Pjmedia.Rtp ReportSession

/-! ## What is heard -/

/-- The packets of a stream since its probation ended with packet `base`. -/
structure Heard where
  base : Nat
  largest : Nat
  /-- Those above the base. -/
  arrived : Finset Nat
  /-- How many had not arrived when the last packet came in order. -/
  missing : Nat
  /-- The largest one when the last report was built, and how many had arrived. -/
  reportLargest : Nat
  reportCount : Nat
  deriving DecidableEq

namespace Heard

def start (n : Nat) : Heard := ⟨n, n, ∅, 0, n, 0⟩

def receive (heard : Heard) (n : Nat) : Heard :=
  if heard.largest < n then
    { heard with
      largest := n
      arrived := insert n heard.arrived
      missing := (Finset.Ioc heard.base n \ insert n heard.arrived).card }
  else { heard with arrived := insert n heard.arrived }

def report (heard : Heard) : Heard :=
  { heard with reportLargest := heard.largest, reportCount := heard.arrived.card }

def expectedSince (heard : Heard) : Nat := heard.largest - heard.reportLargest

/-- How many fewer have come. -/
def lostSince (heard : Heard) : Nat :=
  heard.expectedSince - (heard.arrived.card - heard.reportCount)

/-- A packet that is in the window, above the base and no duplicate. -/
def Next (heard : Heard) (n : Nat) : Prop :=
  (n < heard.largest + 3000 ∧ heard.largest < n + 100) ∧ heard.base < n ∧ n ∉ heard.arrived

instance (heard : Heard) (n : Nat) : Decidable (heard.Next n) :=
  inferInstanceAs (Decidable (_ ∧ _))

end Heard

/-- A session and what it has heard since its probation ended. -/
structure Stream (S : Type) where
  sess : ReportSession S
  heard : Option Heard

/-- What a session is used for. Of the number of a packet only the residue arrives. -/
inductive RtcpAct where
  | rxRtp (n rtpTs payload ts : Nat)
  | txRtp (bytes : Nat)
  | buildRtcp (now : Now)
  deriving DecidableEq, Repr

variable {S : Type}

def Stream.step (math : RxMath S) (s : Stream S) : RtcpAct → Option (Stream S × Option RtcpReport)
  | .rxRtp n rtpTs payload ts =>
    let sess := s.sess.pjmediaRtcpRxRtp2 math n rtpTs payload ts
    let heard :=
      match s.heard with
      | some heard => some (heard.receive n)
      | none => if sess.seqCtrl.probation = 0 then some (.start n) else none
    some (⟨sess, heard⟩, none)
  | .txRtp bytes => some ({ s with sess := s.sess.pjmediaRtcpTxRtp bytes }, none)
  | .buildRtcp now =>
    let built := s.sess.pjmediaRtcpBuildRtcp now
    some (⟨built.1, s.heard.map Heard.report⟩, some built.2)

/-- Any packets until the probation is over, and then a stream without duplicates. -/
def InStream (s : Stream S) : RtcpAct → Prop
  | .rxRtp n _ _ _ =>
    match s.heard with
    | some heard => heard.Next n
    | none => True
  | _ => True

instance InStream.decidable : (s : Stream S) → (act : RtcpAct) → Decidable (InStream s act)
  | ⟨_, some heard⟩, .rxRtp n _ _ _ => inferInstanceAs (Decidable (heard.Next n))
  | ⟨_, none⟩, .rxRtp _ _ _ _ => .isTrue trivial
  | _, .txRtp _ => .isTrue trivial
  | _, .buildRtcp _ => .isTrue trivial

/-- The counters have room: fewer than `2 ^ 32` packets have come and are expected. When the
probation ends, nothing counts as expected before. -/
def Countable (s : Stream S) : RtcpAct → Prop
  | .rxRtp n _ _ _ =>
    match s.heard with
    | some heard => s.sess.rxPkt ≠ 0 ∧ n < heard.base + 2 ^ 32
    | none => s.sess.seqCtrl.probation = 1 → n % 2 ^ 16 = u16 (s.sess.seqCtrl.maxSeq + 1) →
        s.sess.expPrior = 0
  | _ => True

instance Countable.decidable : (s : Stream S) → (act : RtcpAct) → Decidable (Countable s act)
  | ⟨sess, some heard⟩, .rxRtp n _ _ _ =>
    inferInstanceAs (Decidable (sess.rxPkt ≠ 0 ∧ n < heard.base + 2 ^ 32))
  | ⟨sess, none⟩, .rxRtp n _ _ _ =>
    inferInstanceAs (Decidable (sess.seqCtrl.probation = 1 →
      n % 2 ^ 16 = u16 (sess.seqCtrl.maxSeq + 1) → sess.expPrior = 0))
  | _, .txRtp _ => .isTrue trivial
  | _, .buildRtcp _ => .isTrue trivial

/-- The report says what has been heard. -/
structure Truthful (s : Stream S) (report : RtcpReport) : Prop where
  lastSeq : pjHtonl report.rr.lastSeq = s.sess.seqCtrl.cycles + s.sess.seqCtrl.maxSeq
  totalLost : ∀ heard, s.heard = some heard → report.rr.totalLost = heard.missing % 2 ^ 24
  fractLost : ∀ heard, s.heard = some heard → heard.lostSince < 2 ^ 24 →
    report.rr.fractLost = 256 * heard.lostSince / heard.expectedSince ∧ report.rr.fractLost < 256

/-! ## Counters -/

/-- The part of a session that reports are made of. -/
structure Counts where
  seqCtrl : RtpSeqSession
  received : Nat
  expPrior : Nat
  rxPrior : Nat
  rxLoss : Nat
  rxPkt : Nat
  deriving DecidableEq, Repr

def counts (sess : ReportSession S) : Counts :=
  ⟨sess.seqCtrl, sess.received, sess.expPrior, sess.rxPrior, sess.rxLoss, sess.rxPkt⟩

def lossOf (ctrl : RtpSeqSession) (received : Nat) : Nat := expected ctrl - received

section Counters

variable (math : RxMath S) (sess : ReportSession S)

@[simp] theorem updateRxJitter_counts (rtpTs ts : Nat) :
    counts (sess.updateRxJitter math rtpTs ts) = counts sess := by
  unfold updateRxJitter
  split
  · rfl
  · rfl

@[simp] theorem updateRxLoss_counts : counts (sess.updateRxLoss math)
    = { counts sess with rxLoss := lossOf sess.seqCtrl sess.received } := by
  have loss : (if expected sess.seqCtrl > sess.received then
      expected sess.seqCtrl - sess.received else 0) = lossOf sess.seqCtrl sess.received := by
    unfold lossOf
    split <;> omega
  unfold updateRxLoss
  dsimp only
  rw [loss]
  generalize (if lossOf sess.seqCtrl sess.received > sess.rxLoss then _ else 0) = count
  split
  · rfl
  · rfl

variable {st : RtpStatus}

theorem countStatus_counts (goesOn : st.restart = false) :
    counts (sess.countStatus st) = counts sess := by
  unfold countStatus
  rw [goesOn]
  dsimp only
  split
  · split <;> rfl
  · split <;> rfl

theorem withJitter_counts (rtpTs ts : Nat) (due : Prop) [Decidable due] :
    counts { (if due then sess.updateRxJitter math rtpTs ts else sess) with rtpLastTs := rtpTs }
      = counts sess := by
  by_cases now : due
  · rw [if_pos now]
    exact updateRxJitter_counts math sess rtpTs ts
  · rw [if_neg now]
    rfl

theorem countPacket_uncounted (rtpTs ts : Nat) (aside : st.bad = true ∨ st.probation = true) :
    counts (sess.countPacket math st rtpTs ts) = counts sess := by
  unfold countPacket
  split
  · rfl
  · next good =>
    have waits := aside.resolve_left good
    have unseen : ¬ (st.probation = false ∧ st.outorder = false) := by simp [waits]
    rw [if_pos waits]
    dsimp only
    rw [if_neg unseen]
    exact withJitter_counts math sess rtpTs ts _

theorem countPacket_counted (rtpTs ts : Nat) (good : st.bad = false)
    (counted : st.probation = false) : counts (sess.countPacket math st rtpTs ts)
      = { counts sess with
          received := u32 (sess.received + 1)
          rxLoss := if st.outorder then sess.rxLoss
            else lossOf sess.seqCtrl (u32 (sess.received + 1)) } := by
  unfold countPacket
  rw [good, counted, if_neg Bool.false_ne_true, if_neg Bool.false_ne_true]
  have seen : counts (if false = false ∧ st.outorder = false then
      updateRxLoss math { sess with received := u32 (sess.received + 1) }
      else { sess with received := u32 (sess.received + 1) })
      = { counts sess with
          received := u32 (sess.received + 1)
          rxLoss := if st.outorder then sess.rxLoss
            else lossOf sess.seqCtrl (u32 (sess.received + 1)) } := by
    cases late : st.outorder with
    | true => rfl
    | false => exact updateRxLoss_counts math { sess with received := u32 (sess.received + 1) }
  rw [← seen]
  exact withJitter_counts math _ rtpTs ts _

theorem rx_counts {seq : Nat} (rtpTs payload ts : Nat) {ctrl ctrl' : RtpSeqSession}
    (begun : (if sess.rxPkt = 0 then pjmediaRtpSeqInit sess.seqCtrl (u16 seq)
      else sess.seqCtrl) = ctrl)
    (updated : pjmediaRtpSeqUpdate ctrl (u16 seq) = (ctrl', st)) (goesOn : st.restart = false) :
    counts (sess.pjmediaRtcpRxRtp2 math seq rtpTs payload ts) = { counts sess with
          seqCtrl := ctrl'
          rxPkt := u32 (sess.rxPkt + 1)
          received := if st.bad || st.probation then sess.received else u32 (sess.received + 1)
          rxLoss := if st.bad || st.probation || st.outorder then sess.rxLoss
            else lossOf ctrl' (u32 (sess.received + 1)) } := by
  unfold pjmediaRtcpRxRtp2
  dsimp only
  rw [begun, updated]
  have status := countStatus_counts { sess with
    seqCtrl := ctrl'
    rxPkt := u32 (sess.rxPkt + 1)
    rxBytes := u32 (sess.rxBytes + payload) } goesOn
  generalize ReportSession.countStatus _ st = sess₁ at status
  have same := Counts.mk.inj status
  cases aside : st.bad || st.probation with
  | true =>
    rw [countPacket_uncounted math sess₁ rtpTs ts (by simpa using aside), status]
    rfl
  | false =>
    rw [Bool.or_eq_false_iff] at aside
    rw [countPacket_counted math sess₁ rtpTs ts aside.1 aside.2, same.1, same.2.1,
      same.2.2.2.2.1, status]
    rfl

end Counters

/-! ## The report -/

section Build

variable {sess : ReportSession S}

/-- With a count of 32 bits, the extended number is `cycles + max_seq`. -/
theorem extended_eq {ctrl : RtpSeqSession} (typed : ctrl.Typed) :
    u32 (ctrl.maxSeq + (ctrl.cycles / 2 ^ 16 * 2 ^ 16 : Nat)) = ctrl.cycles + ctrl.maxSeq := by
  obtain ⟨maxSeq, units, cycles⟩ := typed
  unfold u32
  omega

theorem writeLastSeq_lastSeq (typed : sess.seqCtrl.Typed) (asSr : Bool) :
    ((sess.writeLastSeq asSr).rr asSr).lastSeq
      = pjHtonl (sess.seqCtrl.cycles + sess.seqCtrl.maxSeq) := by
  have extended := extended_eq typed
  rw [Int.add_comm] at extended
  cases asSr with
  | true => exact congrArg pjHtonl extended
  | false => exact congrArg pjHtonl extended

@[simp] theorem writeLastSeq_counts (sess : ReportSession S) (asSr : Bool) :
    counts (sess.writeLastSeq asSr) = counts sess := by
  cases asSr with
  | true => rfl
  | false => rfl

/-- The losses of a report. -/
structure Reported (c : Counts) (rr : RrBlock) (lastSeq expected : Nat) : Prop where
  lastSeq : rr.lastSeq = lastSeq
  totalLost : rr.totalLost = c.rxLoss % 2 ^ 24
  fractLost : rr.fractLost = fractLost (u32 ((expected : Int) - c.expPrior))
    (u32 ((c.received : Int) - c.rxPrior))

theorem totalLost_octets (rr : RrBlock) (loss : Nat) : { rr with
      totalLost2 := loss / 2 ^ 16 % 2 ^ 8
      totalLost1 := loss / 2 ^ 8 % 2 ^ 8
      totalLost0 := loss % 2 ^ 8 : RrBlock }.totalLost = loss % 2 ^ 24 := by
  show loss / 2 ^ 16 % 2 ^ 8 * 2 ^ 16 + loss / 2 ^ 8 % 2 ^ 8 * 2 ^ 8 + loss % 2 ^ 8 = _
  omega

theorem writeLosses_spec {asSr : Bool} (now : Now) {expected : Nat}
    (read : u32 ((pjHtonl (sess.rr asSr).lastSeq : Int) - sess.seqCtrl.baseSeq) = expected) :
    Reported (counts sess) ((sess.writeLosses asSr now).rr asSr) (sess.rr asSr).lastSeq expected
      ∧ counts (sess.writeLosses asSr now)
        = { counts sess with expPrior := expected, rxPrior := sess.received } := by
  subst read
  cases asSr with
  | true => exact ⟨⟨rfl, totalLost_octets sess.srRr sess.rxLoss, rfl⟩, rfl⟩
  | false => exact ⟨⟨rfl, totalLost_octets sess.rrRr sess.rxLoss, rfl⟩, rfl⟩

theorem write_spec (typed : sess.seqCtrl.Typed) (asSr : Bool) (now : Now) :
    Reported (counts sess) (((sess.writeLastSeq asSr).writeLosses asSr now).rr asSr)
        (pjHtonl (sess.seqCtrl.cycles + sess.seqCtrl.maxSeq)) (expected sess.seqCtrl)
      ∧ counts ((sess.writeLastSeq asSr).writeLosses asSr now)
        = { counts sess with expPrior := expected sess.seqCtrl, rxPrior := sess.received } := by
  have word : sess.seqCtrl.cycles + sess.seqCtrl.maxSeq < 2 ^ 32 := by
    obtain ⟨maxSeq, units, cycles⟩ := typed
    omega
  have same := Counts.mk.inj (writeLastSeq_counts sess asSr)
  have number := writeLastSeq_lastSeq typed asSr
  have read : u32 ((pjHtonl ((sess.writeLastSeq asSr).rr asSr).lastSeq : Int)
      - (sess.writeLastSeq asSr).seqCtrl.baseSeq) = expected sess.seqCtrl := by
    rw [number, pjHtonl_pjHtonl word, same.1, expected, extended_eq typed]
  obtain ⟨reported, counted⟩ := writeLosses_spec now read
  rw [writeLastSeq_counts] at reported counted
  rw [number] at reported
  exact ⟨reported, by rw [counted, same.2.1]⟩

/-- The fraction is less than one, because something has come if anything was to come. -/
theorem fractLost_eq {expected received : Nat} (few : expected - received < 2 ^ 24)
    (came : 0 < expected → 0 < received) :
    fractLost expected received = 256 * (expected - received) / expected
      ∧ fractLost expected received < 256 := by
  have lost : (if expected ≥ received then expected - received else 0) = expected - received := by
    split <;> omega
  rw [fractLost, lost]
  split
  · next zero =>
    refine ⟨?_, by omega⟩
    rcases zero with nothing | nothing
    · rw [nothing, Nat.div_zero]
    · rw [nothing, Nat.mul_zero, Nat.zero_div]
  · next positive =>
    have word : u32 ((expected - received : Nat) * 256) = 256 * (expected - received) := by
      unfold u32
      omega
    have part : 256 * (expected - received) / expected < 2 ^ 8 := by
      rw [Nat.div_lt_iff_lt_mul (by omega)]
      omega
    rw [word, Nat.mod_eq_of_lt part]
    exact ⟨rfl, part⟩

theorem build_spec (typed : sess.seqCtrl.Typed) (now : Now) :
    Reported (counts sess) (sess.pjmediaRtcpBuildRtcp now).2.rr
        (pjHtonl (sess.seqCtrl.cycles + sess.seqCtrl.maxSeq)) (expected sess.seqCtrl)
      ∧ counts (sess.pjmediaRtcpBuildRtcp now).1
        = { counts sess with expPrior := expected sess.seqCtrl, rxPrior := sess.received } := by
  unfold pjmediaRtcpBuildRtcp
  cases sess.sends with
  | true =>
    have typed' : ReportSession.seqCtrl { sess with srSr := sess.senderInfo now } |>.Typed :=
      typed
    exact write_spec typed' true now
  | false => exact write_spec typed false now

end Build

/-! ## The stream -/

/-- Before the probation has ended nothing is counted. -/
structure Quiet (c : Counts) : Prop where
  typed : c.seqCtrl.Typed
  cycles : c.seqCtrl.cycles = 0
  received : c.received = 0
  rxPrior : c.rxPrior = 0
  rxLoss : c.rxLoss = 0
  waits : c.rxPkt ≠ 0 → c.seqCtrl.probation ≠ 0

/-- The counters are those of what has been heard. -/
structure Agrees (c : Counts) (heard : Heard) : Prop where
  typed : c.seqCtrl.Typed
  settled : c.seqCtrl.probation = 0
  residue : c.seqCtrl.maxSeq = heard.largest % 2 ^ 16
  base : c.seqCtrl.baseSeq = heard.base % 2 ^ 16
  extended : c.seqCtrl.extended = (heard.base % 2 ^ 16 + (heard.largest - heard.base)) % 2 ^ 32
  room : heard.largest < heard.base + 2 ^ 32
  inside : heard.arrived ⊆ Finset.Ioc heard.base heard.largest
  top : heard.largest = heard.base ∨ heard.largest ∈ heard.arrived
  received : c.received = heard.arrived.card
  rxLoss : c.rxLoss = heard.missing
  expPrior : c.expPrior = heard.reportLargest - heard.base
  between : heard.base ≤ heard.reportLargest ∧ heard.reportLargest ≤ heard.largest
  rxPrior : c.rxPrior = heard.reportCount
  fewer : heard.reportCount ≤ heard.arrived.card
  fresh : heard.reportLargest < heard.largest → heard.reportCount < heard.arrived.card

namespace Agrees

variable {c : Counts} {heard : Heard}

theorem expected_of_extended {ctrl : RtpSeqSession} {base largest : Nat} (typed : ctrl.Typed)
    (based : ctrl.baseSeq = base % 2 ^ 16) (room : largest < base + 2 ^ 32)
    (extended : ctrl.extended = (base % 2 ^ 16 + (largest - base)) % 2 ^ 32) :
    expected ctrl = largest - base := by
  rw [expected, extended_eq typed]
  rw [RtpSeqSession.extended] at extended
  rw [extended, based]
  unfold u32
  omega

theorem expected_eq (agrees : Agrees c heard) : expected c.seqCtrl = heard.largest - heard.base :=
  expected_of_extended agrees.typed agrees.base agrees.room agrees.extended

theorem card_le (agrees : Agrees c heard) : heard.arrived.card ≤ heard.largest - heard.base := by
  have le := Finset.card_le_card agrees.inside
  rwa [Nat.card_Ioc] at le

theorem truthful (agrees : Agrees c heard) {rr : RrBlock} {lastSeq : Nat}
    (reported : Reported c rr lastSeq (expected c.seqCtrl)) :
    rr.totalLost = heard.missing % 2 ^ 24 ∧ (heard.lostSince < 2 ^ 24 →
        rr.fractLost = 256 * heard.lostSince / heard.expectedSince ∧ rr.fractLost < 256) := by
  refine ⟨by rw [reported.totalLost, agrees.rxLoss], fun few => ?_⟩
  have between := agrees.between
  have fewer := agrees.fewer
  have fresh := agrees.fresh
  have card := agrees.card_le
  have room := agrees.room
  have interval : u32 ((expected c.seqCtrl : Int) - c.expPrior) = heard.expectedSince := by
    rw [agrees.expected_eq, agrees.expPrior, Heard.expectedSince]
    unfold u32
    omega
  have arrived : u32 ((c.received : Int) - c.rxPrior) = heard.arrived.card - heard.reportCount := by
    rw [agrees.received, agrees.rxPrior]
    unfold u32
    omega
  rw [reported.fractLost, interval, arrived]
  refine fractLost_eq few fun more => ?_
  rw [Heard.expectedSince] at more
  omega

theorem report (agrees : Agrees c heard) :
    Agrees { c with expPrior := expected c.seqCtrl, rxPrior := c.received } heard.report := by
  have between := agrees.between
  exact ⟨agrees.typed, agrees.settled, agrees.residue, agrees.base, agrees.extended, agrees.room,
    agrees.inside, agrees.top, agrees.received, agrees.rxLoss, agrees.expected_eq,
    ⟨between.1.trans between.2, Nat.le_refl _⟩, agrees.received, Nat.le_refl _,
    fun less => absurd less (Nat.lt_irrefl _)⟩

end Agrees

theorem Quiet.report {c : Counts} (quiet : Quiet c) :
    Quiet { c with expPrior := expected c.seqCtrl, rxPrior := c.received } :=
  { quiet with rxPrior := quiet.received }

theorem u16_natCast (n : Nat) : u16 n = n % 2 ^ 16 := by
  unfold u16
  omega

section Received

variable (math : RxMath S) {sess : ReportSession S} {heard : Heard}

theorem updateProbation_cases (ctrl : RtpSeqSession) (seq : Nat) :
    (updateProbation ctrl seq).1.cycles = ctrl.cycles ∧ (updateProbation ctrl seq).2.restart = false
      ∧ (updateProbation ctrl seq).2.probation = true
      ∧ ((updateProbation ctrl seq).1.probation = 0 → ctrl.probation ≤ 1
        ∧ seq = u16 (ctrl.maxSeq + 1) ∧ (updateProbation ctrl seq).1.maxSeq = seq
        ∧ (updateProbation ctrl seq).1.baseSeq = seq) := by
  unfold updateProbation
  split
  · next follows =>
    dsimp only
    split
    · next beyond => exact ⟨rfl, rfl, rfl, fun _ => ⟨by omega, follows, rfl, rfl⟩⟩
    · next more => exact ⟨rfl, rfl, rfl, fun beyond => absurd beyond more⟩
  · dsimp only
    split
    · exact ⟨rfl, rfl, rfl, fun beyond => absurd beyond (by decide)⟩
    · exact ⟨rfl, rfl, rfl, fun beyond => absurd beyond (by decide)⟩

theorem Quiet.rx (quiet : Quiet (counts sess)) (n rtpTs payload ts : Nat)
    (clear : sess.seqCtrl.probation = 1 → n % 2 ^ 16 = u16 (sess.seqCtrl.maxSeq + 1) →
      sess.expPrior = 0) :
    if (sess.pjmediaRtcpRxRtp2 math n rtpTs payload ts).seqCtrl.probation = 0
    then Agrees (counts (sess.pjmediaRtcpRxRtp2 math n rtpTs payload ts)) (.start n)
    else Quiet (counts (sess.pjmediaRtcpRxRtp2 math n rtpTs payload ts)) := by
  have short : u16 n < 2 ^ 16 := by
    unfold u16
    omega
  generalize begun : (if sess.rxPkt = 0 then pjmediaRtpSeqInit sess.seqCtrl (u16 n)
    else sess.seqCtrl) = ctrl
  have first : ctrl.Typed ∧ ctrl.cycles = 0 ∧ ctrl.probation ≠ 0
      ∧ (ctrl.probation ≤ 1 → ctrl = sess.seqCtrl) := by
    rw [← begun]
    split
    · refine ⟨⟨?_, rfl, Nat.two_pow_pos 32⟩, rfl, Nat.succ_ne_zero 1,
        fun few => absurd few (Nat.not_succ_le_self 1)⟩
      show u16 _ < 2 ^ 16
      unfold u16
      omega
    · next nonzero => exact ⟨quiet.typed, quiet.cycles, quiet.waits nonzero, fun _ => rfl⟩
  obtain ⟨typed, cycles, waits, same⟩ := first
  have updated : pjmediaRtpSeqUpdate ctrl (u16 n) = updateProbation ctrl (u16 n) := if_pos waits
  have typed' := typed_update typed short
  have cases_ := updateProbation_cases ctrl (u16 n)
  rw [updated] at typed'
  generalize updateProbation ctrl (u16 n) = result at updated typed' cases_
  obtain ⟨ctrl', st⟩ := result
  obtain ⟨cycles', goesOn, aside, beyond⟩ := cases_
  have counted := rx_counts math sess rtpTs payload ts begun updated goesOn
  rw [show st.probation = true from aside, Bool.or_true, Bool.true_or, if_pos rfl,
    if_pos rfl] at counted
  rw [show (sess.pjmediaRtcpRxRtp2 math n rtpTs payload ts).seqCtrl = ctrl' from
    congrArg Counts.seqCtrl counted, counted]
  split
  · next ends =>
    obtain ⟨last, follows, maxSeq, base⟩ := beyond ends
    have one := same last
    subst one
    rw [u16_natCast] at maxSeq base follows
    have prior : sess.expPrior = 0 := clear (by omega) follows
    refine ⟨typed', ends, maxSeq, base, ?_, ?_, Finset.empty_subset _, .inl rfl,
      quiet.received, quiet.rxLoss, ?_, ⟨Nat.le_refl _, Nat.le_refl _⟩, quiet.rxPrior,
      Nat.le_refl _, fun less => absurd less (Nat.lt_irrefl _)⟩
    · show ctrl'.cycles + ctrl'.maxSeq = (n % 2 ^ 16 + (n - n)) % 2 ^ 32
      have zero : ctrl'.cycles = 0 := cycles'.trans cycles
      have max : ctrl'.maxSeq = n % 2 ^ 16 := maxSeq
      omega
    · show n < n + 2 ^ 32
      omega
    · show sess.expPrior = n - n
      rw [prior, Nat.sub_self]
  · next on_ =>
    exact ⟨typed', cycles'.trans cycles, quiet.received, quiet.rxPrior, quiet.rxLoss, fun _ => on_⟩

theorem Agrees.rx (agrees : Agrees (counts sess) heard) {n : Nat} (next_ : heard.Next n)
    (begun : sess.rxPkt ≠ 0) (near : n < heard.base + 2 ^ 32) (rtpTs payload ts : Nat) :
    Agrees (counts (sess.pjmediaRtcpRxRtp2 math n rtpTs payload ts)) (heard.receive n) := by
  obtain ⟨⟨ahead_, behind_⟩, above, new⟩ := next_
  have received := agrees.received
  have residue : sess.seqCtrl.maxSeq = heard.largest % 2 ^ 16 := agrees.residue
  have card := agrees.card_le
  have room := agrees.room
  have grown : (insert n heard.arrived).card = heard.arrived.card + 1 :=
    Finset.card_insert_of_notMem new
  have fewer := agrees.fewer
  have count (most : heard.arrived.card + 1 < 2 ^ 32) :
      u32 (sess.received + 1) = (insert n heard.arrived).card := by
    rw [grown, show sess.received = heard.arrived.card from received]
    unfold u32
    omega
  by_cases more : heard.largest < n
  · -- a new largest number: what lies between is missing for now
    have within : insert n heard.arrived ⊆ Finset.Ioc heard.base n := by
      refine Finset.insert_subset (Finset.mem_Ioc.2 ⟨above, Nat.le_refl n⟩) fun m mem => ?_
      have old := Finset.mem_Ioc.1 (agrees.inside mem)
      exact Finset.mem_Ioc.2 ⟨old.1, by omega⟩
    have between := agrees.between
    have settled : sess.seqCtrl.probation = 0 := agrees.settled
    have typed : sess.seqCtrl.Typed := agrees.typed
    have before : sess.seqCtrl.extended
        = (heard.base % 2 ^ 16 + (heard.largest - heard.base)) % 2 ^ 32 := agrees.extended
    have updated := update_ahead settled residue more ahead_
    have typed' := typed_update typed (Nat.mod_lt n (Nat.two_pow_pos 16))
    have extended' := advanced_extended typed residue more ahead_
    rw [updated] at typed'
    rw [← u16_natCast] at updated
    have counted := rx_counts math sess rtpTs payload ts (if_neg begun) updated rfl
    have extended : (advanced sess.seqCtrl heard.largest n).extended
        = (heard.base % 2 ^ 16 + (n - heard.base)) % 2 ^ 32 := by
      rw [extended', before]
      omega
    have loss : lossOf (advanced sess.seqCtrl heard.largest n) (u32 (sess.received + 1))
        = (Finset.Ioc heard.base n \ insert n heard.arrived).card := by
      have all := expected_of_extended typed' agrees.base near extended
      rw [lossOf, all, count (by omega), Finset.card_sdiff_of_subset within, Nat.card_Ioc]
    have heard' : heard.receive n = { heard with
        largest := n
        arrived := insert n heard.arrived
        missing := (Finset.Ioc heard.base n \ insert n heard.arrived).card } := if_pos more
    rw [counted, heard']
    refine ⟨typed', agrees.settled, rfl, agrees.base, extended, near, within,
      .inr (Finset.mem_insert_self n _), count (by omega), loss, agrees.expPrior,
      ⟨between.1, between.2.trans (Nat.le_of_lt more)⟩, agrees.rxPrior, ?_, fun _ => ?_⟩
    · show heard.reportCount ≤ (insert n heard.arrived).card
      omega
    · show heard.reportCount < (insert n heard.arrived).card
      omega
  · -- late, since it is neither the base nor a duplicate
    have below : n < heard.largest := by
      rcases Nat.lt_or_eq_of_le (Nat.not_lt.1 more) with less | same
      · exact less
      · rcases agrees.top with base | old
        · omega
        · exact absurd (same ▸ old) new
    have within : insert n heard.arrived ⊆ Finset.Ioc heard.base heard.largest :=
      Finset.insert_subset (Finset.mem_Ioc.2 ⟨above, Nat.le_of_lt below⟩) agrees.inside
    have most := Finset.card_le_card within
    rw [Nat.card_Ioc, grown] at most
    have late := update_late agrees.settled agrees.residue below behind_
    rw [← u16_natCast] at late
    have counted := rx_counts math sess rtpTs payload ts (if_neg begun) late rfl
    have heard' : heard.receive n = { heard with arrived := insert n heard.arrived } :=
      if_neg more
    rw [counted, heard']
    refine ⟨agrees.typed, agrees.settled, agrees.residue, agrees.base, agrees.extended, room,
      within, agrees.top.imp_right Finset.mem_insert_of_mem, count (by omega), agrees.rxLoss,
      agrees.expPrior, agrees.between, agrees.rxPrior, ?_, fun less => ?_⟩
    · show heard.reportCount ≤ (insert n heard.arrived).card
      omega
    · show heard.reportCount < (insert n heard.arrived).card
      omega

end Received

/-! ## Every report -/

def Stream.Inv (s : Stream S) : Prop :=
  match s.heard with
  | some heard => Agrees (counts s.sess) heard
  | none => Quiet (counts s.sess)

/-- A session as `pjmedia_rtcp_init2` leaves it. -/
def Stream.start (math : RxMath S) (settings : SessionSetting) (now : Int) (tsFreq : Nat) :
    Stream S :=
  ⟨pjmediaRtcpInit2 math settings now tsFreq, none⟩

theorem Stream.inv_start (math : RxMath S) (settings : SessionSetting) (now : Int)
    (tsFreq : Nat) : (Stream.start math settings now tsFreq).Inv := by
  refine ⟨⟨Nat.two_pow_pos 16, rfl, Nat.two_pow_pos 32⟩, rfl, rfl, rfl, rfl, ?_⟩
  exact fun nonzero => absurd rfl nonzero

theorem Stream.step_inv (math : RxMath S) (s : Stream S) (act : RtcpAct) (inv : s.Inv)
    (allowed : InStream s act ∧ Countable s act) :
    ∃ s' o, s.step math act = some (s', o) ∧ (∀ report, o = some report → Truthful s report)
      ∧ s'.Inv := by
  obtain ⟨sess, heard⟩ := s
  cases act with
  | txRtp bytes =>
    refine ⟨_, _, rfl, nofun, ?_⟩
    cases heard with
    | some heard => exact inv
    | none => exact inv
  | buildRtcp now =>
    refine ⟨_, _, rfl, ?_, ?_⟩
    · rintro report ⟨⟩
      have typed : sess.seqCtrl.Typed := by
        cases heard with
        | some heard => exact Agrees.typed inv
        | none => exact Quiet.typed inv
      obtain ⟨reported, -⟩ := build_spec typed now
      refine ⟨?_, ?_, ?_⟩
      · obtain ⟨maxSeq, units, cycles⟩ := typed
        rw [reported.lastSeq]
        exact pjHtonl_pjHtonl (by omega)
      · rintro h ⟨⟩
        exact (Agrees.truthful inv reported).1
      · rintro h ⟨⟩
        exact (Agrees.truthful inv reported).2
    · cases heard with
      | some heard =>
        have agrees : Agrees (counts sess) heard := inv
        show Agrees (counts _) heard.report
        rw [(build_spec agrees.typed now).2]
        exact agrees.report
      | none =>
        have quiet : Quiet (counts sess) := inv
        show Quiet (counts _)
        rw [(build_spec quiet.typed now).2]
        exact quiet.report
  | rxRtp n rtpTs payload ts =>
    refine ⟨_, _, rfl, nofun, ?_⟩
    cases heard with
    | some heard =>
      have agrees : Agrees (counts sess) heard := inv
      exact agrees.rx math allowed.1 allowed.2.1 allowed.2.2 rtpTs payload ts
    | none =>
      have quiet : Quiet (counts sess) := inv
      have after := quiet.rx math n rtpTs payload ts allowed.2
      show match (if (sess.pjmediaRtcpRxRtp2 math n rtpTs payload ts).seqCtrl.probation = 0
        then some (Heard.start n) else none) with
        | some heard => Agrees (counts (sess.pjmediaRtcpRxRtp2 math n rtpTs payload ts)) heard
        | none => Quiet (counts (sess.pjmediaRtcpRxRtp2 math n rtpTs payload ts))
      split at after
      · next beyond =>
        rw [if_pos beyond]
        exact after
      · next waits =>
        rw [if_neg waits]
        exact after

/-- Every report of a stream says what has been heard, as long as the counters have room and
nothing counts as expected when the probation ends. -/
theorem reports_truthful (math : RxMath S) (settings : SessionSetting) (now : Int) (tsFreq : Nat)
    {acts : List RtcpAct}
    (stream : Along (Stream.step math) InStream (.start math settings now tsFreq) acts)
    (countable : Along (Stream.step math) Countable (.start math settings now tsFreq) acts) :
    Stepwise (Stream.step math) (fun s _ _ o => ∀ report, o = some report → Truthful s report)
      (.start math settings now tsFreq) acts :=
  (stream.both countable).stepwise (Stream.step_inv math)
    (Stream.inv_start math settings now tsFreq)

/-- Statistics that keep nothing. -/
def noMath : RxMath Unit where
  init := ()
  update _ _ := ()
  n _ := 0
  mean _ := 0
  resetMin _ := ()

def voice : SessionSetting := ⟨8000, 160, 0, 0⟩

/-- Packet 22 is lost and 24 comes before 23, after a report in the probation. -/
def lossy : List RtcpAct :=
  [.rxRtp 20 0 160 0, .buildRtcp ⟨⟨0, 0⟩, 0, 0⟩, .rxRtp 21 160 160 160, .txRtp 160,
    .rxRtp 24 640 160 640, .buildRtcp ⟨⟨0, 0⟩, 0, 0⟩, .rxRtp 23 480 160 650, .rxRtp 25 800 160 800,
    .buildRtcp ⟨⟨0, 0⟩, 0, 0⟩]

theorem reports_truthful_lossy : Stepwise (Stream.step noMath)
      (fun s _ _ o => ∀ report, o = some report → Truthful s report)
      (.start noMath voice 0 1000000) lossy :=
  reports_truthful noMath voice 0 1000000 (by decide +kernel) (by decide +kernel)

/-- Packets 10 and 20 come, and a report says that ten are expected. Then the stream begins with
21. Of the three packets up to 24 two are lost, and the next report says none. -/
theorem report_in_probation : ¬ ∀ acts : List RtcpAct,
      Along (Stream.step noMath) InStream (.start noMath voice 0 1000000) acts →
      Stepwise (Stream.step noMath) (fun s _ _ o => ∀ report, o = some report → Truthful s report)
        (.start noMath voice 0 1000000) acts := by
  intro claim
  have told := claim [.rxRtp 10 0 160 0, .rxRtp 20 160 160 160, .buildRtcp ⟨⟨0, 0⟩, 0, 0⟩,
    .rxRtp 21 320 160 320, .rxRtp 24 800 160 800, .buildRtcp ⟨⟨0, 0⟩, 0, 0⟩] (by decide +kernel)
  obtain ⟨s₁, o₁, step₁, -, s₂, o₂, step₂, -, s₃, o₃, step₃, -, s₄, o₄, step₄, -, s₅, o₅, step₅, -,
    s₆, o₆, step₆, truth, -⟩ := told
  cases step₁
  cases step₂
  cases step₃
  cases step₄
  cases step₅
  cases step₆
  have fraction := ((truth _ rfl).fractLost _ rfl (by decide +kernel)).1
  exact absurd fraction (by decide +kernel)

end Pjsip.Pjmedia.Rtcp
