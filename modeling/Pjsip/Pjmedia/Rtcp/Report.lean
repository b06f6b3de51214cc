import Pjsip.Pjmedia.Rtcp.Packet
import Pjsip.Pjmedia.Rtp.Seq

/-!
# RTCP reports (`rtcp.c`)

The session counts the packets that `pjmedia_rtcp_rx_rtp2` is told of, and
`pjmedia_rtcp_build_rtcp` writes what it has counted into one of its two packets, the sender
report if something has been sent since the last one. Numbers of 32 bits are natural numbers
here; those in the packets are as they stand in memory.
-/

namespace Pjsip.Pjmedia.Rtcp

open Pjsip.Base Pjsip.Pjmedia.Rtp

/-- `pj_htonl` and `pj_ntohl`, where the last octet is the most significant one. -/
def pjHtonl (x : Nat) : Nat :=
  x % 2 ^ 8 * 2 ^ 24 + x / 2 ^ 8 % 2 ^ 8 * 2 ^ 16 + x / 2 ^ 16 % 2 ^ 8 * 2 ^ 8 + x / 2 ^ 24

theorem pjHtonl_octets {a b c d : Nat} (hb : b < 2 ^ 8) (hc : c < 2 ^ 8)
    (hd : d < 2 ^ 8) : pjHtonl (a * 2 ^ 24 + b * 2 ^ 16 + c * 2 ^ 8 + d)
      = d * 2 ^ 24 + c * 2 ^ 16 + b * 2 ^ 8 + a := by
  unfold pjHtonl
  omega

theorem pjHtonl_pjHtonl {x : Nat} (word : x < 2 ^ 32) : pjHtonl (pjHtonl x) = x := by
  have octets : x = x / 2 ^ 24 * 2 ^ 24 + x / 2 ^ 16 % 2 ^ 8 * 2 ^ 16 + x / 2 ^ 8 % 2 ^ 8 * 2 ^ 8
      + x % 2 ^ 8 := by omega
  have first : pjHtonl x = x % 2 ^ 8 * 2 ^ 24 + x / 2 ^ 8 % 2 ^ 8 * 2 ^ 16
      + x / 2 ^ 16 % 2 ^ 8 * 2 ^ 8 + x / 2 ^ 24 := rfl
  rw [first, pjHtonl_octets (by omega) (by omega) (by omega), ← octets]

/-- `pjmedia_rtcp_rr` -/
structure RrBlock where
  ssrc : Nat := 0
  fractLost : Nat := 0
  totalLost2 : Nat := 0
  totalLost1 : Nat := 0
  totalLost0 : Nat := 0
  lastSeq : Nat := 0
  jitter : Nat := 0
  lsr : Nat := 0
  dlsr : Nat := 0
  deriving DecidableEq, Repr

/-- The total that its three octets stand for. -/
def RrBlock.totalLost (rr : RrBlock) : Nat :=
  rr.totalLost2 * 2 ^ 16 + rr.totalLost1 * 2 ^ 8 + rr.totalLost0

/-- `pjmedia_rtcp_sr` -/
structure SrBlock where
  ntpSec : Nat := 0
  ntpFrac : Nat := 0
  rtpTs : Nat := 0
  senderPcount : Nat := 0
  senderBcount : Nat := 0
  deriving DecidableEq, Repr

/-- The statistics that are kept of received packets, whose least value can be set back. -/
structure RxMath (S : Type) extends MathStat S where
  resetMin : S → S

/-- The fields of `pjmedia_rtcp_session` that RTP packets and reports depend on. -/
structure ReportSession (S : Type) where
  /-- `rtcp_sr_pkt.sr` -/
  srSr : SrBlock
  /-- `rtcp_sr_pkt.rr` -/
  srRr : RrBlock
  /-- `rtcp_rr_pkt.rr` -/
  rrRr : RrBlock
  seqCtrl : RtpSeqSession
  rtpLastTs : Nat
  clockRate : Nat
  decPktSize : Nat
  received : Nat
  expPrior : Nat
  rxPrior : Nat
  transit : Int
  jitter : Nat
  /-- `tv_base.sec` -/
  tvBase : Int
  tsFreq : Nat
  rtpTsBase : Nat
  rxLsr : Nat
  rxLsrTime : Nat
  peerSsrc : Nat
  rxPkt : Nat
  rxBytes : Nat
  rxDiscard : Nat
  rxLoss : Nat
  rxReorder : Nat
  rxDup : Nat
  rxLossPeriod : S
  rxJitter : S
  rxUpdateCnt : Nat
  txPkt : Nat
  txBytes : Nat

/-- `pjmedia_rtcp_session_setting` -/
structure SessionSetting where
  clockRate : Nat
  samplesPerFrame : Nat
  decSamplesPerFrame : Nat
  rtpTsBase : Nat
  deriving DecidableEq, Repr

namespace ReportSession

variable {S : Type}

/-- `pjmedia_rtcp_init2`, at a time and with a frequency of the clock. -/
def pjmediaRtcpInit2 (math : RxMath S) (settings : SessionSetting) (now : Int) (tsFreq : Nat) :
    ReportSession S where
  srSr := {}
  srRr := {}
  rrRr := {}
  seqCtrl := ⟨0, 0, 0, 0, 0⟩
  rtpLastTs := u32 (-1)
  clockRate := settings.clockRate
  decPktSize :=
    if settings.decSamplesPerFrame ≠ 0 then settings.decSamplesPerFrame
    else settings.samplesPerFrame
  received := 0
  expPrior := 0
  rxPrior := 0
  transit := 0
  jitter := 0
  tvBase := now
  tsFreq
  rtpTsBase := settings.rtpTsBase
  rxLsr := 0
  rxLsrTime := 0
  peerSsrc := 0
  rxPkt := 0
  rxBytes := 0
  rxDiscard := 0
  rxLoss := 0
  rxReorder := 0
  rxDup := 0
  rxLossPeriod := math.init
  rxJitter := math.init
  rxUpdateCnt := 0
  txPkt := 0
  txBytes := 0

/-! ## Received packets -/

/-- `rtcp_init_seq` -/
def rtcpInitSeq (sess : ReportSession S) : ReportSession S :=
  { sess with received := 0, expPrior := 0, rxPrior := 0, transit := 0, jitter := 0 }

/-- The packets that are expected up to the highest number. -/
def expected (ctrl : RtpSeqSession) : Nat :=
  u32 ((u32 (ctrl.maxSeq + (ctrl.cycles / 2 ^ 16 * 2 ^ 16 : Nat)) : Int) - ctrl.baseSeq)

/-- What is lost is counted when a packet comes in order. -/
def updateRxLoss (math : RxMath S) (sess : ReportSession S) : ReportSession S :=
  let expected := expected sess.seqCtrl
  let loss := if expected > sess.received then expected - sess.received else 0
  let count := if loss > sess.rxLoss then loss - sess.rxLoss else 0
  let sess := { sess with rxLoss := loss }
  if count > 0 then
    let period := u32 (u32 (count * sess.decPktSize) * 1000) / sess.clockRate
    { sess with rxLossPeriod := math.update sess.rxLossPeriod (UInt32.ofNat (period * 1000)) }
  else sess

/-- `PJMEDIA_RTCP_IGNORE_FIRST_PACKETS` -/
def ignoreFirstPackets : Nat := 25

/-- The jitter, of a packet that follows the one before. -/
def updateRxJitter (math : RxMath S) (sess : ReportSession S) (rtpTs ts : Nat) : ReportSession S :=
  let arrival : Nat := ts * sess.clockRate % 2 ^ 64 / sess.tsFreq % 2 ^ 32
  let transit := i32 ((arrival : Int) - rtpTs)
  if sess.transit = 0 ∨ sess.received < ignoreFirstPackets then
    { sess with transit, rxJitter := math.resetMin sess.rxJitter }
  else
    let d := (transit - sess.transit).natAbs
    let jitter := u32 (sess.jitter + (d - ((u32 (sess.jitter + 8) / 16 : Nat) : Int)))
    let usec :=
      if jitter / 16 < 4294 then u32 (jitter / 16 * 1000000) / sess.clockRate
      else u32 (u32 (jitter / 16 * 1000) / sess.clockRate * 1000)
    { sess with jitter, rxJitter := math.update sess.rxJitter (UInt32.ofNat usec), transit }

/-- The counts of `pjmedia_rtcp_rx_rtp2` by what the sequence control has found. -/
def countStatus (sess : ReportSession S) (st : RtpStatus) : ReportSession S :=
  let sess := if st.restart then sess.rtcpInitSeq else sess
  let sess := if st.dup then { sess with rxDup := u32 (sess.rxDup + 1) } else sess
  if st.outorder ∧ st.probation = false then { sess with rxReorder := u32 (sess.rxReorder + 1) }
  else sess

/-- The rest of `pjmedia_rtcp_rx_rtp2`: a packet that is not bad is counted, after the
probation. -/
def countPacket (math : RxMath S) (sess : ReportSession S) (st : RtpStatus) (rtpTs ts : Nat) :
    ReportSession S :=
  if st.bad then { sess with rxDiscard := u32 (sess.rxDiscard + 1) }
  else
    let sess := if st.probation then sess else { sess with received := u32 (sess.received + 1) }
    let sess :=
      if st.probation = false ∧ st.outorder = false then sess.updateRxLoss math else sess
    let sess :=
      if st.diff = 1 ∧ rtpTs ≠ sess.rtpLastTs then sess.updateRxJitter math rtpTs ts else sess
    { sess with rtpLastTs := rtpTs }

/-- `pjmedia_rtcp_rx_rtp2`; the time is that of `pj_get_timestamp`. Extended reports, which
`discarded` is for, are not compiled in. -/
def pjmediaRtcpRxRtp2 (math : RxMath S) (sess : ReportSession S) (seq rtpTs payload ts : Nat) :
    ReportSession S :=
  let ctrl :=
    if sess.rxPkt = 0 then pjmediaRtpSeqInit sess.seqCtrl (u16 seq) else sess.seqCtrl
  let updated := pjmediaRtpSeqUpdate ctrl (u16 seq)
  let sess := { sess with
    seqCtrl := updated.1
    rxPkt := u32 (sess.rxPkt + 1)
    rxBytes := u32 (sess.rxBytes + payload) }
  (sess.countStatus updated.2).countPacket math updated.2 rtpTs ts

/-- `pjmedia_rtcp_tx_rtp` -/
def pjmediaRtcpTxRtp (sess : ReportSession S) (bytes : Nat) : ReportSession S :=
  { sess with txPkt := u32 (sess.txPkt + 1), txBytes := u32 (sess.txBytes + bytes) }

/-! ## Reports -/

/-- The time of a report: `pjmedia_rtcp_get_ntp_time`, its fraction in milliseconds (a
floating-point division), and `pj_get_timestamp`. -/
structure Now where
  ntp : NtpRec
  msec : Nat
  ts : Nat
  deriving DecidableEq, Repr

/-- `JAN_1970` -/
def jan1970 : Int := 2208988800

/-- The sender's part of a sender report. -/
def senderInfo (sess : ReportSession S) (now : Now) : SrBlock :=
  let sec := (now.ntp.hi.toNat : Int) - sess.tvBase - jan1970
  let rtpTs :=
    u32 (sess.rtpTsBase + u32 (sess.clockRate * sec) + u32 ((sess.clockRate * now.msec / 1000 : Nat) : Int))
  { ntpSec := pjHtonl now.ntp.hi.toNat
    ntpFrac := pjHtonl now.ntp.lo.toNat
    rtpTs := pjHtonl rtpTs
    senderPcount := pjHtonl sess.txPkt
    senderBcount := pjHtonl sess.txBytes }

/-- Something has been sent since the last sender report. -/
def sends (sess : ReportSession S) : Bool := sess.txPkt ≠ pjHtonl sess.srSr.senderPcount

/-- The receiver's part of the one packet or of the other. -/
def rr (sess : ReportSession S) (asSr : Bool) : RrBlock := if asSr then sess.srRr else sess.rrRr

def setRr (sess : ReportSession S) (asSr : Bool) (rr : RrBlock) : ReportSession S :=
  if asSr then { sess with srRr := rr } else { sess with rrRr := rr }

/-- SSRC and `last_seq`: the largest number is added in both packets, in whatever order the
octets of the other one are. -/
def writeLastSeq (sess : ReportSession S) (asSr : Bool) : ReportSession S :=
  let sess := sess.setRr asSr { sess.rr asSr with
    ssrc := pjHtonl sess.peerSsrc
    lastSeq := sess.seqCtrl.cycles / 2 ^ 16 * 2 ^ 16 }
  let sess := { sess with
    srRr := { sess.srRr with lastSeq := u32 (sess.srRr.lastSeq + sess.seqCtrl.maxSeq) }
    rrRr := { sess.rrRr with lastSeq := u32 (sess.rrRr.lastSeq + sess.seqCtrl.maxSeq) } }
  sess.setRr asSr { sess.rr asSr with lastSeq := pjHtonl (sess.rr asSr).lastSeq }

/-- The fraction of the packets expected in an interval that has been lost, in 1/256. -/
def fractLost (expectedInterval receivedInterval : Nat) : Nat :=
  let lostInterval :=
    if expectedInterval ≥ receivedInterval then expectedInterval - receivedInterval else 0
  if expectedInterval = 0 ∨ lostInterval = 0 then 0
  else u32 (lostInterval * 256) / expectedInterval % 2 ^ 8

/-- The last sender report that was received, and the delay since then, in 1/65536 seconds. -/
def lastSr (sess : ReportSession S) (now : Now) : Nat × Nat :=
  if sess.rxLsrTime = 0 ∨ sess.rxLsr = 0 then (0, 0)
  else
    let lsrTime : Nat := sess.rxLsrTime * 2 ^ 16 % 2 ^ 64 / sess.tsFreq
    let ts : Nat := now.ts * 2 ^ 16 % 2 ^ 64 / sess.tsFreq
    (pjHtonl sess.rxLsr, pjHtonl (u32 ((ts : Int) - lsrTime)))

/-- The rest of a report, once its number has been written. -/
def writeLosses (sess : ReportSession S) (asSr : Bool) (now : Now) : ReportSession S :=
  let expected := u32 ((pjHtonl (sess.rr asSr).lastSeq : Int) - sess.seqCtrl.baseSeq)
  let lsr := sess.lastSr now
  let sess := sess.setRr asSr { sess.rr asSr with
    jitter := pjHtonl (sess.jitter / 16)
    totalLost2 := sess.rxLoss / 2 ^ 16 % 2 ^ 8
    totalLost1 := sess.rxLoss / 2 ^ 8 % 2 ^ 8
    totalLost0 := sess.rxLoss % 2 ^ 8
    fractLost := fractLost (u32 ((expected : Int) - sess.expPrior))
      (u32 ((sess.received : Int) - sess.rxPrior))
    lsr := lsr.1
    dlsr := lsr.2 }
  { sess with
    expPrior := expected
    rxPrior := sess.received
    rxUpdateCnt := u32 (sess.rxUpdateCnt + 1) }

end ReportSession

/-- The packet that is sent. -/
inductive RtcpReport where
  | sender (sr : SrBlock) (rr : RrBlock)
  | receiver (rr : RrBlock)
  deriving DecidableEq, Repr

def RtcpReport.rr : RtcpReport → RrBlock
  | .sender _ rr => rr
  | .receiver rr => rr

/-- `pjmedia_rtcp_build_rtcp` -/
def ReportSession.pjmediaRtcpBuildRtcp {S : Type} (sess : ReportSession S) (now : Now) :
    ReportSession S × RtcpReport :=
  let asSr := sess.sends
  let sess := if asSr then { sess with srSr := sess.senderInfo now } else sess
  let sess := (sess.writeLastSeq asSr).writeLosses asSr now
  (sess, if asSr then .sender sess.srSr sess.srRr else .receiver sess.rrRr)

end Pjsip.Pjmedia.Rtcp
