import Pjsip.Base.Reader
import Pjsip.Errno

/-!
# Received RTCP packets

`pjmedia_rtcp_rx_rtcp` walks over the sub-packets of a compound packet and hands each to its
parser with the length that the sub-packet itself states. A parser is a reader of just these
octets. Strings of a source description are copied to `peer_sdes_buf_` of the statistics, where
the statistics then point to.
-/

namespace Pjsip.Pjmedia.Rtcp

open Pjsip.Base Pjsip.Pjlib Reader

/-- What a parser can do wrong other than to look outside of its octets. -/
inductive Fault where
  | overflow
  | unfinished
  deriving DecidableEq, Repr

abbrev RtcpReader := Reader Fault

def rtcpSr : UInt8 := 200
def rtcpRr : UInt8 := 201
def rtcpSdes : UInt8 := 202
def rtcpBye : UInt8 := 203
def rtcpRtpfb : UInt8 := 205
def rtcpPsfb : UInt8 := 206
def rtcpXr : UInt8 := 207

/-- `PJMEDIA_RTCP_RX_SDES_BUF_LEN` -/
def sdesBufLen : Nat := 64

/-- `PJMEDIA_RTCP_NORMALIZE_FACTOR` -/
def normalizeFactor : UInt32 := 3

/-! ## State -/

/-- A string in `peer_sdes_buf_`. -/
structure SdesText where
  ptr : Nat
  slen : Nat
  deriving DecidableEq, Repr

/-- `pjmedia_rtcp_sdes`; `none` is a string with a null pointer and no length. -/
structure PeerSdes where
  cname : Option SdesText := none
  name : Option SdesText := none
  email : Option SdesText := none
  phone : Option SdesText := none
  loc : Option SdesText := none
  tool : Option SdesText := none
  note : Option SdesText := none
  deriving DecidableEq, Repr

/-- The item of a type; a type without a name is let go. -/
def PeerSdes.set (sdes : PeerSdes) (type : UInt8) (value : SdesText) : PeerSdes :=
  match type.toNat with
  | 1 => { sdes with cname := some value }
  | 2 => { sdes with name := some value }
  | 3 => { sdes with email := some value }
  | 4 => { sdes with phone := some value }
  | 5 => { sdes with loc := some value }
  | 6 => { sdes with tool := some value }
  | 7 => { sdes with note := some value }
  | _ => sdes

def PeerSdes.texts (sdes : PeerSdes) : List SdesText :=
  [sdes.cname, sdes.name, sdes.email, sdes.phone, sdes.loc, sdes.tool, sdes.note].filterMap id

/-- `peer_sdes_buf_`, and how many of its octets, from the first on, have been filled since
the last source description began. -/
structure SdesBuf where
  octets : Octets sdesBufLen
  filled : Nat
  deriving DecidableEq

/-- `pj_memcpy` to index `b` of the buffer. -/
def SdesBuf.copy (buf : SdesBuf) (b : Nat) (text : List UInt8) : RtcpReader SdesBuf :=
  if fits : b + text.length ≤ sdesBufLen then
    return { octets := ⟨buf.octets.1.take b ++ text ++ buf.octets.1.drop (b + text.length), by
               have size := buf.octets.2
               simp [size]
               omega⟩
             filled := max buf.filled (b + text.length) }
  else fail .overflow

/-- `pj_math_stat`, whose mean is a floating-point number. -/
structure MathStat (S : Type) where
  init : S
  update : S → UInt32 → S
  n : S → Nat
  mean : S → UInt32

structure FbNack where
  pid : UInt16
  blp : UInt16
  deriving DecidableEq, Repr

/-- `PJMEDIA_EVENT_RX_RTCP_FB`. The first entry of `nack` may never have been written. -/
inductive FbEvent where
  | nack (msg : Option FbNack)
  | pli
  deriving DecidableEq, Repr

/-- The fields of `pjmedia_rtcp_session` that depend on received RTCP packets, and the
events that were published, the latest first. -/
structure Session (S : Type) where
  clockRate : UInt32
  pktSize : UInt32
  rxLsr : UInt32
  txLoss : UInt32
  txLossPeriod : S
  txJitter : S
  rtt : S
  peerSdes : PeerSdes
  peerSdesBuf : SdesBuf
  published : List FbEvent

/-- `pjmedia_rtcp_init` -/
def pjmediaRtcpInit {S : Type} (math : MathStat S) (clockRate samplesPerFrame : UInt32) :
    Session S where
  clockRate := clockRate
  pktSize := samplesPerFrame
  rxLsr := 0
  txLoss := 0
  txLossPeriod := math.init
  txJitter := math.init
  rtt := math.init
  peerSdes := {}
  peerSdesBuf := { octets := ⟨List.replicate sdesBufLen 0, List.length_replicate⟩, filled := 0 }
  published := []

/-- `pjmedia_rtcp_ntp_rec` -/
structure NtpRec where
  hi : UInt32
  lo : UInt32
  deriving DecidableEq, Repr

/-! ## Reports -/

/-- The first word of `pjmedia_rtcp_common`. -/
structure Common where
  count : Nat
  pt : UInt8
  length : Nat
  deriving DecidableEq, Repr

def parseCommon : RtcpReader Common := do
  let first ← octet 0
  let pt ← octet 1
  let length ← field16 2
  return ⟨first.toNat % 32, pt, length.toNat⟩

/-- The fields of `pjmedia_rtcp_rr` that are used. -/
structure Rr where
  totalLost : UInt32
  jitter : UInt32
  lsr : UInt32
  dlsr : UInt32
  deriving DecidableEq, Repr

/-- `pjmedia_rtcp_rr` at an index. -/
def parseRr (pos : Nat) : RtcpReader Rr := do
  let lost2 ← octet (pos + 5)
  let lost1 ← octet (pos + 6)
  let lost0 ← octet (pos + 7)
  let jitter ← field32 (pos + 12)
  let lsr ← field32 (pos + 16)
  let dlsr ← field32 (pos + 20)
  return ⟨(lost2.toUInt32 <<< 16) + (lost1.toUInt32 <<< 8) + lost0.toUInt32, jitter, lsr, dlsr⟩

section Report

variable {S : Type} (math : MathStat S)

def updateLoss (sess : Session S) (rr : Rr) : Session S :=
  if sess.txLoss < rr.totalLost then
    let period := (rr.totalLost - sess.txLoss) * sess.pktSize * 1000 / sess.clockRate
    { sess with
      txLoss := rr.totalLost
      txLossPeriod := math.update sess.txLossPeriod (period * 1000) }
  else { sess with txLoss := rr.totalLost }

def updateJitter (sess : Session S) (rr : Rr) : Session S :=
  let jitter :=
    if rr.jitter ≤ 4294 then rr.jitter * 1000000 / sess.clockRate
    else rr.jitter * 1000 / sess.clockRate * 1000
  { sess with txJitter := math.update sess.txJitter jitter }

/-- A delay of 1/65536 second units in microseconds. -/
def eedelayUsec (eedelay : UInt64) : UInt64 :=
  if eedelay < 4294 then (eedelay * 1000000) >>> 16 else ((eedelay * 1000) >>> 16) * 1000

/-- The round trip time, from the middle 32 bits of the present NTP time. -/
def updateRtt (ntp : NtpRec) (sess : Session S) (rr : Rr) : Session S :=
  if rr.lsr = 0 ∨ rr.dlsr = 0 then sess
  else
    let now := ((ntp.hi &&& 0xFFFF) <<< 16) + (ntp.lo >>> 16)
    let eedelay := eedelayUsec (now - rr.lsr - rr.dlsr).toUInt64
    if now - rr.dlsr < rr.lsr then sess
    else if 30 * 1000 * 1000 < eedelay then sess
    else
      let rtt := eedelay.toUInt32
      let limit := math.mean sess.rtt * normalizeFactor
      let rtt := if limit < rtt ∧ math.n sess.rtt ≠ 0 then limit else rtt
      { sess with rtt := math.update sess.rtt rtt }

def applyRr (ntp : NtpRec) (sess : Session S) (rr : Rr) : Session S :=
  updateRtt math ntp (updateJitter math (updateLoss math sess rr) rr) rr

/-- `parse_rtcp_report`. Extended reports are not compiled in. -/
def parseRtcpReport (ntp : NtpRec) (size : Nat) (sess : Session S) : RtcpReader (Session S) := do
  let common ← parseCommon
  if common.pt = rtcpSr then
    if size < 8 + 20 then return sess
    else do
      let ntpSec ← field32 8
      let ntpFrac ← field32 12
      let sess := { sess with rxLsr := ((ntpSec &&& 0xFFFF) <<< 16) ||| (ntpFrac >>> 16) }
      if 0 < common.count ∧ 8 + 20 + 24 ≤ size then do
        let rr ← parseRr (8 + 20)
        return applyRr math ntp sess rr
      else return sess
  else if common.pt = rtcpRr ∧ 0 < common.count then
    if size < 8 + 24 then return sess
    else do
      let rr ← parseRr 8
      return applyRr math ntp sess rr
  else return sess

end Report

/-! ## Source descriptions -/

/-- The loop of `parse_rtcp_sdes`, `p` and `b` as indices of the packet and of the buffer. -/
def sdesItems (size : Nat) : (fuel p b : Nat) → PeerSdes → SdesBuf → RtcpReader (PeerSdes × SdesBuf)
  | 0, _, _, _, _ => fail .unfinished
  | fuel + 1, p, b, sdes, buf =>
    if p < size then do
      let sdesType ← octet p
      if sdesType = 0 ∨ p + 1 = size then return (sdes, buf)
      else do
        let len ← octet (p + 1)
        let sdesLen := len.toNat
        if size < p + 2 + sdesLen then return (sdes, buf)
        else do
          -- copied to the buffer, or only written to the log
          let text ← octets (p + 2) sdesLen
          if b + sdesLen < sdesBufLen then do
            let buf ← buf.copy b text.1
            sdesItems size fuel (p + 2 + sdesLen) (b + sdesLen) (sdes.set sdesType ⟨b, sdesLen⟩) buf
          else sdesItems size fuel (p + 2 + sdesLen) b sdes buf
    else return (sdes, buf)

def parseRtcpSdes {S : Type} (size : Nat) (sess : Session S) : RtcpReader (Session S) := do
  let (sdes, buf) ← sdesItems size (size + 1) 8 0 {} { sess.peerSdesBuf with filled := 0 }
  return { sess with peerSdes := sdes, peerSdesBuf := buf }

/-! ## Goodbyes -/

/-- `parse_rtcp_bye`: the reason goes to the buffer of the source description. -/
def parseRtcpBye {S : Type} (size : Nat) (sess : Session S) : RtcpReader (Session S) :=
  if 8 < size then do
    let declared ← octet 8
    let reasonLen := min (min sdesBufLen declared.toNat) (size - 9)
    let reason ← octets 9 reasonLen
    let buf ← sess.peerSdesBuf.copy 0 reason.1
    return { sess with peerSdesBuf := buf }
  else return sess

/-! ## Feedback -/

/-- `count` entries of a generic NACK, from index `p` on. -/
def nackEntries (p : Nat) : (count : Nat) → RtcpReader (List FbNack)
  | 0 => return []
  | count + 1 => do
      let pid ← field16 p
      let blp ← field16 (p + 2)
      let rest ← nackEntries (p + 4) count
      return ⟨pid, blp⟩ :: rest

/-- `pjmedia_rtcp_fb_parse_nack`: the entries that were stored, or why there are none. -/
def pjmediaRtcpFbParseNack (length nackCnt : Nat) : RtcpReader (Except PjStatus (List FbNack)) :=
  if length < 12 then return .error .etoosmall
  else do
    let hdr ← parseCommon
    if hdr.pt ≠ rtcpRtpfb ∨ hdr.count ≠ 1 then return .error .enotfound
    else
      let cnt := if 2 < hdr.length then hdr.length - 2 else 0
      if length < (cnt + 3) * 4 then return .error .etoosmall
      else do
        let nack ← nackEntries 12 (min nackCnt cnt)
        return .ok nack

/-- `pjmedia_rtcp_fb_parse_pli` -/
def pjmediaRtcpFbParsePli (length : Nat) : RtcpReader PjStatus :=
  if length < 12 then return .etoosmall
  else do
    let hdr ← parseCommon
    if hdr.pt ≠ rtcpPsfb ∨ hdr.count ≠ 1 then return .enotfound
    else return .success

/-- `parse_rtcp_fb` -/
def parseRtcpFb {S : Type} (size : Nat) (sess : Session S) : RtcpReader (Session S) :=
  if size < 12 then return sess
  else do
    let nack ← pjmediaRtcpFbParseNack size 1
    match nack with
    | .ok nack => return { sess with published := .nack nack.head? :: sess.published }
    | .error _ => do
        let status ← pjmediaRtcpFbParsePli size
        if status = .success then return { sess with published := .pli :: sess.published }
        else return sess

/-! ## Compound packets -/

section Walk

variable {S : Type} (math : MathStat S)

/-- The parser of a packet type. -/
def parseSub (ntp : NtpRec) (pt : UInt8) (len : Nat) (sess : Session S) : RtcpReader (Session S) :=
  if pt = rtcpSr ∨ pt = rtcpRr ∨ pt = rtcpXr then parseRtcpReport math ntp len sess
  else if pt = rtcpSdes then parseRtcpSdes len sess
  else if pt = rtcpBye then parseRtcpBye len sess
  else if pt = rtcpRtpfb ∨ pt = rtcpPsfb then parseRtcpFb len sess
  else return sess

/-- The loop of `pjmedia_rtcp_rx_rtcp`; `ntp` tells the time when the sub-packet at an index
is parsed. -/
def rxRtcpLoop (ntp : Nat → NtpRec) (size : Nat) :
    (fuel p : Nat) → Session S → RtcpReader (Session S)
  | 0, _, _ => fail .unfinished
  | fuel + 1, p, sess =>
    if p < size then
      if size < p + 8 then return sess
      else do
        let common ← within p (size - p) parseCommon
        let len := (common.length + 1) * 4
        if size < p + len then return sess
        else do
          let sess ← within p len (parseSub math (ntp p) common.pt len sess)
          rxRtcpLoop ntp size fuel (p + len) sess
    else return sess

/-- `pjmedia_rtcp_rx_rtcp` -/
def pjmediaRtcpRxRtcp (ntp : Nat → NtpRec) (sess : Session S) (pkt : List UInt8) :
    Read Fault (Session S) :=
  (rxRtcpLoop math ntp pkt.length (pkt.length + 1) 0 sess).run pkt

end Walk

end Pjsip.Pjmedia.Rtcp
