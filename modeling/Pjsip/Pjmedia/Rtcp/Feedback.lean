import Pjsip.Pjmedia.Rtcp.Safety

/-!
# Feedback packets

The packets of `rtcp_fb.c` that carry content: generic NACK, slice loss indication and reference
picture selection indication. Their number of entries, or of bits, is told by the length field of
the header alone. The parsers of the last two test that field as it is stored, with its octets
exchanged on a little-endian host.
-/

namespace Pjsip.Pjmedia.Rtcp

open Pjsip.Base Pjsip.Pjlib Reader

/-- `pjmedia_rtcp_fb_sli` -/
structure FbSli where
  first : UInt16
  number : UInt16
  pictId : UInt8
  deriving DecidableEq, Repr

/-- `pjmedia_rtcp_fb_rpsi` as parsed: its string points into the packet. -/
structure FbRpsi where
  pt : UInt8
  ptr : Nat
  slen : Nat
  rpsiBitLen : Nat
  deriving DecidableEq, Repr

/-! ## Parsers -/

/-- `hdr->rtcp_common.length` as a little-endian host stores it. -/
def rawLength : RtcpReader UInt16 := do
  let low ← octet 2
  let high ← octet 3
  return value16 [high, low]

/-- An entry of a slice loss indication: 13, 13 and 6 bits. -/
def unpackSli (p0 p1 p2 p3 : UInt8) : FbSli where
  first := (p0.toUInt16 <<< 5) + ((p1 &&& 0xF8) >>> 3).toUInt16
  number := ((p1 &&& 0x07).toUInt16 <<< 10) + (p2.toUInt16 <<< 2) + ((p3 &&& 0xC0) >>> 6).toUInt16
  pictId := p3 &&& 0x3F

def sliEntry (p : Nat) : RtcpReader FbSli := do
  let p0 ← octet p
  let p1 ← octet (p + 1)
  let p2 ← octet (p + 2)
  let p3 ← octet (p + 3)
  return unpackSli p0 p1 p2 p3

/-- `count` entries of a slice loss indication, from index `p` on. -/
def sliEntries (p : Nat) : (count : Nat) → RtcpReader (List FbSli)
  | 0 => return []
  | count + 1 => do
      let entry ← sliEntry p
      let rest ← sliEntries (p + 4) count
      return entry :: rest

/-- `PJ_MIN` of two counts -/
def pjMin (x y : UInt32) : UInt32 := if x < y then x else y

/-- `pjmedia_rtcp_fb_parse_sli` -/
def pjmediaRtcpFbParseSli (length : Nat) (sliCnt : UInt32) :
    RtcpReader (Except PjStatus (List FbSli)) :=
  if length < 12 then return .error .etoosmall
  else do
    let hdr ← parseCommon
    if hdr.pt ≠ rtcpPsfb ∨ hdr.count ≠ 2 then return .error .enotfound
    else do
      let raw ← rawLength
      if raw < 3 then return .error .etoosmall
      else
        let cnt := UInt32.ofNat hdr.length - 2
        if length < ((cnt + 3) * 4).toNat then return .error .etoosmall
        else do
          let sli ← sliEntries 12 (pjMin sliCnt cnt).toNat
          return .ok sli

/-- What follows the header of a reference picture selection indication. -/
def rpsiFci (rpsiLen : UInt64) : RtcpReader (Except PjStatus FbRpsi) := do
  let padlen ← octet 12
  if 32 ≤ padlen then return .error .etoobig
  else if rpsiLen * 8 < 16 + padlen.toUInt64 then return .error .etoosmall
  else do
    let pt ← octet 13
    let rpsiBitLen := rpsiLen * 8 - 16 - padlen.toUInt64
    return .ok ⟨pt &&& 0x7F, 14, ((rpsiBitLen + 7) / 8).toNat, rpsiBitLen.toNat⟩

/-- `pjmedia_rtcp_fb_parse_rpsi`, on a host with sizes of 64 bits. -/
def pjmediaRtcpFbParseRpsi (length : Nat) : RtcpReader (Except PjStatus FbRpsi) :=
  if length < 12 then return .error .etoosmall
  else do
    let hdr ← parseCommon
    if hdr.pt ≠ rtcpPsfb ∨ hdr.count ≠ 3 then return .error .enotfound
    else do
      let raw ← rawLength
      if raw < 3 then return .error .etoosmall
      else
        let rpsiLen := (UInt64.ofNat hdr.length - 2) * 4
        if length < (rpsiLen + 12).toNat then return .error .etoosmall
        else rpsiFci rpsiLen

/-! ## What is read of the header -/

section Header

variable (b0 b1 b2 b3 : UInt8) (rest : List UInt8)

theorem rawLength_run :
    rawLength.run (b0 :: b1 :: b2 :: b3 :: rest) = .value (value16 [b3, b2]) := by
  have low : (octet 2 : RtcpReader UInt8).run (b0 :: b1 :: b2 :: b3 :: rest) = .value b2 :=
    octet_value.2 rfl
  have high : (octet 3 : RtcpReader UInt8).run (b0 :: b1 :: b2 :: b3 :: rest) = .value b3 :=
    octet_value.2 rfl
  rw [rawLength, run_bind, low, bind_value, run_bind, high, bind_value, run_pure]

theorem raw_lt_three :
    value16 [b3, b2] < 3 ↔ b2.toNat * 256 + b3.toNat = 0 ∨ b2.toNat * 256 + b3.toNat = 256
      ∨ b2.toNat * 256 + b3.toNat = 512 := by
  have b3small := b3.toNat_lt
  rw [UInt16.lt_iff_toNat_lt, toNat_value16]
  show b3.toNat * 256 + b2.toNat < 3 ↔ _
  omega

end Header

/-! ## Entries of a slice loss indication -/

section Entries

variable {p count : Nat} {buf : List UInt8}

theorem sliEntry_value (fits : p + 4 ≤ buf.length) : ∃ entry, (sliEntry p).run buf = .value entry := by
  obtain ⟨p0, read0⟩ : ∃ v, (octet p : RtcpReader UInt8).run buf = .value v :=
    octet_inside (by omega)
  obtain ⟨p1, read1⟩ : ∃ v, (octet (p + 1) : RtcpReader UInt8).run buf = .value v :=
    octet_inside (by omega)
  obtain ⟨p2, read2⟩ : ∃ v, (octet (p + 2) : RtcpReader UInt8).run buf = .value v :=
    octet_inside (by omega)
  obtain ⟨p3, read3⟩ : ∃ v, (octet (p + 3) : RtcpReader UInt8).run buf = .value v :=
    octet_inside (by omega)
  refine ⟨unpackSli p0 p1 p2 p3, ?_⟩
  rw [sliEntry, run_bind, read0, bind_value, run_bind, read1, bind_value, run_bind, read2,
    bind_value, run_bind, read3, bind_value, run_pure]

theorem sliEntry_fits (inside : (sliEntry p).run buf ≠ .outside) : p + 4 ≤ buf.length := by
  simp only [sliEntry, bind_ne_outside] at inside
  obtain ⟨in0, inside⟩ := inside
  obtain ⟨p0, read0⟩ := octet_inside (octet_ne_outside.1 in0)
  obtain ⟨in1, inside⟩ := inside p0 read0
  obtain ⟨p1, read1⟩ := octet_inside (octet_ne_outside.1 in1)
  obtain ⟨in2, inside⟩ := inside p1 read1
  obtain ⟨p2, read2⟩ := octet_inside (octet_ne_outside.1 in2)
  have last := octet_ne_outside.1 (inside p2 read2).1
  omega

theorem sliEntries_value (fits : p + 4 * count ≤ buf.length) :
    ∃ sli, (sliEntries p count).run buf = .value sli ∧ sli.length = count := by
  induction count generalizing p with
  | zero => exact ⟨[], rfl, rfl⟩
  | succ count ih =>
    obtain ⟨entry, first⟩ := sliEntry_value (show p + 4 ≤ buf.length by omega)
    obtain ⟨sli, rest, length⟩ := ih (show p + 4 + 4 * count ≤ buf.length by omega)
    refine ⟨entry :: sli, ?_, by rw [List.length_cons, length]⟩
    rw [sliEntries, run_bind, first, bind_value, run_bind, rest]
    rfl

theorem sliEntries_fits (positive : 0 < count) (inside : (sliEntries p count).run buf ≠ .outside) :
    p + 4 * count ≤ buf.length := by
  induction count generalizing p with
  | zero => cases positive
  | succ count ih =>
    simp only [sliEntries, bind_ne_outside] at inside
    have here := sliEntry_fits inside.1
    obtain ⟨entry, first⟩ := sliEntry_value here
    cases count with
    | zero => omega
    | succ count =>
      have rest := ih (Nat.succ_pos count) (inside.2 entry first).1
      omega

end Entries

/-! ## Staying inside -/

section Inside

variable {α : Type}

/-- With enough memory behind the packet, whatever it holds, the parser returns an error. -/
def Refuses (parser : RtcpReader (Except PjStatus α)) (pkt : List UInt8) : Prop :=
  ∃ size, ∀ more : List UInt8, size ≤ more.length →
    ∃ status, parser.run (pkt ++ more) = .value (.error status)

/-- The parser returns an error, or reads nothing behind the packet and returns something good. -/
def StaysInside (parser : RtcpReader (Except PjStatus α)) (good : α → Prop)
    (pkt : List UInt8) : Prop :=
  Refuses parser pkt ∨ ∃ content, parser.run pkt = .value (.ok content) ∧ good content

variable {parser : RtcpReader (Except PjStatus α)} {good : α → Prop} {pkt : List UInt8}

theorem staysInside_of_value (stable : Stable parser) {result : Except PjStatus α}
    (read : parser.run pkt = .value result) (holds : ∀ content, result = .ok content → good content) :
    StaysInside parser good pkt := by
  cases result with
  | ok content => exact .inr ⟨content, read, holds content rfl⟩
  | error status =>
    refine .inl ⟨0, fun more _ => ⟨status, ?_⟩⟩
    rw [stable pkt more (by rw [read]; nofun), read]

theorem staysInside_congr {parser' : RtcpReader (Except PjStatus α)}
    (same : ∀ more, parser.run (pkt ++ more) = parser'.run (pkt ++ more)) :
    StaysInside parser good pkt ↔ StaysInside parser' good pkt := by
  have here := same []
  rw [List.append_nil] at here
  simp only [StaysInside, Refuses, same, here]

theorem staysInside_ok (stable : Stable parser) {content : α}
    (read : parser.run pkt = .value (.ok content)) :
    StaysInside parser good pkt ↔ good content := by
  constructor
  · rintro (⟨size, refuses⟩ | ⟨content', read', holds⟩)
    · obtain ⟨status, refused⟩ := refuses (List.replicate size 0) (by simp)
      rw [stable pkt _ (by rw [read]; nofun), read] at refused
      cases refused
    · rw [read] at read'
      cases read'
      exact holds
  · exact fun holds => .inr ⟨content, read, holds⟩

/-- A parser that looks behind the packet, and does not return an error for all that can be
there, does not stay inside. -/
theorem not_staysInside (outside : parser.run pkt = .outside)
    (accepts : ∀ size, ∃ more : List UInt8, size ≤ more.length
      ∧ ∃ content, parser.run (pkt ++ more) = .value (.ok content)) :
    ¬ StaysInside parser good pkt := by
  rintro (⟨size, refuses⟩ | ⟨content, read, -⟩)
  · obtain ⟨more, long, content, read⟩ := accepts size
    obtain ⟨status, refused⟩ := refuses more long
    rw [read] at refused
    cases refused
  · rw [outside] at read
    cases read

end Inside

theorem stable_common : Stable parseCommon := by
  refine stable_bind (stable_octet 0) fun _ => stable_bind (stable_octet 1) fun _ => ?_
  exact stable_bind (stable_field16 2) fun _ => stable_pure _

theorem stable_rawLength : Stable rawLength :=
  stable_bind (stable_octet 2) fun _ => stable_bind (stable_octet 3) fun _ => stable_pure _

theorem stable_nackEntries (p count : Nat) : Stable (nackEntries p count) := by
  induction count generalizing p with
  | zero => exact stable_pure _
  | succ count ih =>
    refine stable_bind (stable_field16 p) fun _ => stable_bind (stable_field16 (p + 2)) fun _ => ?_
    exact stable_bind (ih (p + 4)) fun _ => stable_pure _

theorem stable_sliEntries (p count : Nat) : Stable (sliEntries p count) := by
  induction count generalizing p with
  | zero => exact stable_pure _
  | succ count ih =>
    refine stable_bind ?_ fun _ => stable_bind (ih (p + 4)) fun _ => stable_pure _
    refine stable_bind (stable_octet p) fun _ => stable_bind (stable_octet (p + 1)) fun _ => ?_
    refine stable_bind (stable_octet (p + 2)) fun _ => ?_
    exact stable_bind (stable_octet (p + 3)) fun _ => stable_pure _

theorem stable_nack (length nackCnt : Nat) : Stable (pjmediaRtcpFbParseNack length nackCnt) := by
  refine stable_ite (stable_pure _) (stable_bind stable_common fun hdr => ?_)
  refine stable_ite (stable_pure _) (stable_ite (stable_pure _) ?_)
  exact stable_bind (stable_nackEntries _ _) fun _ => stable_pure _

theorem stable_sli (length : Nat) (sliCnt : UInt32) :
    Stable (pjmediaRtcpFbParseSli length sliCnt) := by
  refine stable_ite (stable_pure _) (stable_bind stable_common fun hdr => ?_)
  refine stable_ite (stable_pure _) (stable_bind stable_rawLength fun raw => ?_)
  refine stable_ite (stable_pure _) (stable_ite (stable_pure _) ?_)
  exact stable_bind (stable_sliEntries _ _) fun _ => stable_pure _

theorem stable_rpsiFci (rpsiLen : UInt64) : Stable (rpsiFci rpsiLen) := by
  refine stable_bind (stable_octet 12) fun padlen => ?_
  refine stable_ite (stable_pure _) (stable_ite (stable_pure _) ?_)
  exact stable_bind (stable_octet 13) fun pt => stable_pure _

theorem stable_rpsi (length : Nat) : Stable (pjmediaRtcpFbParseRpsi length) := by
  refine stable_ite (stable_pure _) (stable_bind stable_common fun hdr => ?_)
  refine stable_ite (stable_pure _) (stable_bind stable_rawLength fun raw => ?_)
  exact stable_ite (stable_pure _) (stable_ite (stable_pure _) (stable_rpsiFci _))

/-- A packet that holds at least the header of a feedback packet. -/
abbrev FbPacket := { pkt : List UInt8 // 12 ≤ pkt.length }

/-- What is asked of entries: that many are in the packet, and were asked for. -/
def Counted {α : Type} (pkt : FbPacket) (capacity : Nat) (entries : List α) : Prop :=
  entries.length ≤ (pkt.1.length - 12) / 4 ∧ entries.length ≤ capacity

def FbRpsi.Within (pkt : FbPacket) (rpsi : FbRpsi) : Prop := rpsi.ptr + rpsi.slen ≤ pkt.1.length

def States (pkt : FbPacket) (hdr : Common) : Prop := parseCommon.run pkt.1 = .value hdr

theorem nack_staysInside (pkt : FbPacket) (nackCnt : Nat) :
    StaysInside (pjmediaRtcpFbParseNack pkt.1.length nackCnt) (Counted pkt nackCnt) pkt.1 := by
  obtain ⟨result, read, counted⟩ := yields_nack nackCnt pkt.1 (Nat.le_refl _)
  exact staysInside_of_value (stable_nack _ _) read counted

theorem FbPacket.header (pkt : FbPacket) :
    ∃ hdr raw, hdr.length < 65536 ∧ (∀ more, parseCommon.run (pkt.1 ++ more) = .value hdr)
      ∧ (∀ more, rawLength.run (pkt.1 ++ more) = .value raw)
      ∧ (raw < 3 ↔ hdr.length = 0 ∨ hdr.length = 256 ∨ hdr.length = 512) := by
  obtain ⟨pkt, long⟩ := pkt
  match pkt, long with
  | b0 :: b1 :: b2 :: b3 :: rest, _ =>
    have b2small := b2.toNat_lt
    have b3small := b3.toNat_lt
    exact ⟨_, _, show b2.toNat * 256 + b3.toNat < 65536 by omega,
      fun more => parseCommon_run b0 b1 b2 b3 (rest ++ more),
      fun more => rawLength_run b0 b1 b2 b3 (rest ++ more), raw_lt_three b2 b3⟩

theorem toNat_pjMin (x y : UInt32) : (pjMin x y).toNat = min x.toNat y.toNat := by
  unfold pjMin
  simp only [UInt32.lt_iff_toNat_lt]
  split <;> omega

/-- The number of entries is two less than the length; that of a length of one wraps around, and
so does what the packet's length is compared to. -/
theorem sliCnt_toNat {length : Nat} (small : length < 65536) :
    (length = 1 → (UInt32.ofNat length - 2).toNat = 4294967295
        ∧ ((UInt32.ofNat length - 2 + 3) * 4).toNat = 8)
      ∧ (2 ≤ length → (UInt32.ofNat length - 2).toNat = length - 2
        ∧ ((UInt32.ofNat length - 2 + 3) * 4).toNat = (length + 1) * 4) := by
  have two : (2 : UInt32).toNat = 2 := rfl
  have three : (3 : UInt32).toNat = 3 := rfl
  have four : (4 : UInt32).toNat = 4 := rfl
  rw [UInt32.toNat_mul, UInt32.toNat_add, UInt32.toNat_sub, UInt32.toNat_ofNat', two, three, four]
  omega

/-- Both parsers refuse a packet of another kind, or whose stored length is small. What they do
with the others decides. -/
theorem staysInside_iff_harmless {α : Type} {parser : RtcpReader (Except PjStatus α)}
    {good : α → Prop} {pkt : FbPacket} {hdr : Common} {raw : UInt16} {count : Nat}
    {harmless : Prop} {body : Read Fault (Except PjStatus α)} (stable : Stable parser)
    (common : parseCommon.run pkt.1 = .value hdr)
    (tiny : raw < 3 ↔ hdr.length = 0 ∨ hdr.length = 256 ∨ hdr.length = 512)
    (ran : parser.run pkt.1 = if hdr.pt ≠ rtcpPsfb ∨ hdr.count ≠ count then
        .value (.error .enotfound)
      else if raw < 3 then .value (.error .etoosmall) else body)
    (one : ¬ (hdr.pt ≠ rtcpPsfb ∨ hdr.count ≠ count) → ¬ raw < 3 → hdr.length = 1 →
      (StaysInside parser good pkt.1 ↔ harmless))
    (more : ¬ (hdr.pt ≠ rtcpPsfb ∨ hdr.count ≠ count) → ¬ raw < 3 → 2 ≤ hdr.length →
      StaysInside parser good pkt.1) :
    StaysInside parser good pkt.1 ↔ (States pkt ⟨count, rtcpPsfb, 1⟩ → harmless) := by
  rw [States, common, Read.value.injEq]
  by_cases other : hdr.pt ≠ rtcpPsfb ∨ hdr.count ≠ count
  · rw [if_pos other] at ran
    refine iff_of_true (staysInside_of_value stable ran nofun) ?_
    rintro rfl
    simp at other
  · rw [if_neg other] at ran
    by_cases low : raw < 3
    · rw [if_pos low] at ran
      refine iff_of_true (staysInside_of_value stable ran nofun) ?_
      rintro rfl
      rcases tiny.1 low with h | h | h <;> cases h
    · by_cases least : hdr.length = 1
      · have same : hdr = ⟨count, rtcpPsfb, 1⟩ := by
          rw [not_or, not_not, not_not] at other
          cases hdr
          rw [Common.mk.injEq]
          exact ⟨other.2, other.1, least⟩
        rw [imp_iff_right same]
        exact one (by simp [same]) low least
      · have positive : hdr.length ≠ 0 := fun zero => low (tiny.2 (.inl zero))
        refine iff_of_true (more other low (by omega)) ?_
        rintro rfl
        exact absurd rfl least

theorem sli_staysInside_iff (pkt : FbPacket) (sliCnt : UInt32) :
    StaysInside (pjmediaRtcpFbParseSli pkt.1.length sliCnt) (Counted pkt sliCnt.toNat) pkt.1
      ↔ (States pkt ⟨2, rtcpPsfb, 1⟩ → 12 + 4 * sliCnt.toNat ≤ pkt.1.length) := by
  obtain ⟨hdr, raw, small, common, stored, tiny⟩ := pkt.header
  obtain ⟨one, more⟩ := sliCnt_toNat small
  -- what the parser does with the packet and memory behind it
  have ran (behind : List UInt8) : (pjmediaRtcpFbParseSli pkt.1.length sliCnt).run (pkt.1 ++ behind)
      = if hdr.pt ≠ rtcpPsfb ∨ hdr.count ≠ 2 then .value (.error .enotfound)
        else if raw < 3 then .value (.error .etoosmall)
        else if pkt.1.length < ((UInt32.ofNat hdr.length - 2 + 3) * 4).toNat then
          .value (.error .etoosmall)
        else ((sliEntries 12 (pjMin sliCnt (UInt32.ofNat hdr.length - 2)).toNat).run
          (pkt.1 ++ behind)).bind fun sli => .value (.ok sli) := by
    rw [pjmediaRtcpFbParseSli, if_neg (by omega), run_bind, common, bind_value]
    split
    · rfl
    · rw [run_bind, stored, bind_value]
      split
      · rfl
      · dsimp only
        split <;> rfl
  have first := common []
  have here := ran []
  rw [List.append_nil] at first here
  have asked : (pjMin sliCnt (UInt32.ofNat hdr.length - 2)).toNat
      = min sliCnt.toNat (UInt32.ofNat hdr.length - 2).toNat := toNat_pjMin _ _
  refine staysInside_iff_harmless (stable_sli _ _) first tiny here (fun other low least => ?_)
    fun other low two => ?_
  · -- all the entries that were asked for are read
    obtain ⟨all, wrapped⟩ := one least
    have capacity := sliCnt.toNat_lt
    have count : (pjMin sliCnt (UInt32.ofNat hdr.length - 2)).toNat = sliCnt.toNat := by omega
    rw [if_neg other, if_neg low, wrapped, if_neg (by omega), count] at here
    by_cases fits : 12 + 4 * sliCnt.toNat ≤ pkt.1.length
    · obtain ⟨sli, read, length⟩ := sliEntries_value fits
      rw [read, bind_value] at here
      refine iff_of_true (staysInside_of_value (stable_sli _ _) here ?_) fits
      rintro _ ⟨⟩
      exact ⟨by omega, by omega⟩
    · refine iff_of_false (not_staysInside ?_ fun size => ?_) fits
      · rw [here]
        have outside : (sliEntries 12 sliCnt.toNat).run pkt.1 = .outside := by
          by_contra inside
          exact fits (sliEntries_fits (by omega) inside)
        rw [outside]
        rfl
      · -- with enough memory behind the packet the parser returns entries of it
        obtain ⟨sli, read, -⟩ := sliEntries_value (show 12 + 4 * sliCnt.toNat
            ≤ (pkt.1 ++ List.replicate (size + 4 * sliCnt.toNat) 0).length by
            rw [List.length_append, List.length_replicate]
            omega)
        refine ⟨List.replicate (size + 4 * sliCnt.toNat) 0, by simp, sli, ?_⟩
        rw [ran, if_neg other, if_neg low, wrapped, if_neg (by omega), count, read]
        rfl
  · obtain ⟨plain, needed⟩ := more two
    rw [if_neg other, if_neg low, needed] at here
    by_cases short : pkt.1.length < (hdr.length + 1) * 4
    · rw [if_pos short] at here
      exact staysInside_of_value (stable_sli _ _) here nofun
    · obtain ⟨sli, read, length⟩ := sliEntries_value
        (show 12 + 4 * (pjMin sliCnt (UInt32.ofNat hdr.length - 2)).toNat ≤ pkt.1.length by omega)
      rw [if_neg short, read, bind_value] at here
      refine staysInside_of_value (stable_sli _ _) here ?_
      rintro _ ⟨⟩
      exact ⟨by omega, by omega⟩

/-- The length of the bit string with its padding; that of a length of one wraps around, and so
does what the packet's length is compared to. -/
theorem rpsiLen_toNat {length : Nat} (small : length < 65536) (padlen : UInt8) :
    (length = 1 → ((UInt64.ofNat length - 2) * 4 + 12).toNat = 8
        ∧ ¬ (UInt64.ofNat length - 2) * 4 * 8 < 16 + padlen.toUInt64
        ∧ (padlen < 32 → (((UInt64.ofNat length - 2) * 4 * 8 - 16 - padlen.toUInt64 + 7) / 8).toNat
            = (2 ^ 64 - 41 - padlen.toNat) / 8))
      ∧ (2 ≤ length → ((UInt64.ofNat length - 2) * 4 + 12).toNat = (length + 1) * 4
        ∧ ((UInt64.ofNat length - 2) * 4 * 8 < 16 + padlen.toUInt64
          ↔ (length - 2) * 32 < 16 + padlen.toNat)
        ∧ (16 + padlen.toNat ≤ (length - 2) * 32 →
          ((UInt64.ofNat length - 2) * 4 * 8 - 16 - padlen.toUInt64).toNat
              = (length - 2) * 32 - 16 - padlen.toNat
            ∧ (((UInt64.ofNat length - 2) * 4 * 8 - 16 - padlen.toUInt64 + 7) / 8).toNat
              = ((length - 2) * 32 - 16 - padlen.toNat + 7) / 8)) := by
  have octet := padlen.toNat_lt
  simp only [UInt64.lt_iff_toNat_lt, UInt8.lt_iff_toNat_lt, UInt8.toNat_ofNat, UInt64.toNat_div, UInt64.toNat_add, UInt64.toNat_sub,
    UInt64.toNat_mul, UInt64.toNat_ofNat', UInt8.toNat_toUInt64, UInt64.toNat_ofNat,
    Nat.reducePow, Nat.reduceMod]
  refine ⟨?_, fun two => ?_⟩
  · rintro rfl
    omega
  · omega

/-- Where the length is one: the packet says that more bits are padding than can be, or holds all
of a bit string of some 2^61 octets. -/
def LongString (pkt : FbPacket) : Prop :=
  ∃ padlen, pkt.1[12]? = some padlen
    ∧ (32 ≤ padlen ∨ 14 + (2 ^ 64 - 41 - padlen.toNat) / 8 ≤ pkt.1.length)

section Fci

variable (rpsiLen : UInt64) {padlen : UInt8} {buf : List UInt8}

theorem rpsiFci_run (first : buf[12]? = some padlen) : (rpsiFci rpsiLen).run buf
      = if 32 ≤ padlen then .value (.error .etoobig)
        else if rpsiLen * 8 < 16 + padlen.toUInt64 then .value (.error .etoosmall)
        else ((octet 13).run buf).bind fun pt => .value (.ok ⟨pt &&& 0x7F, 14,
          ((rpsiLen * 8 - 16 - padlen.toUInt64 + 7) / 8).toNat,
          (rpsiLen * 8 - 16 - padlen.toUInt64).toNat⟩) := by
  rw [rpsiFci, run_bind, octet_value.2 first, bind_value]
  split
  · rfl
  · split <;> rfl

theorem rpsiFci_outside (short : buf.length ≤ 12) : (rpsiFci rpsiLen).run buf = .outside := by
  have outside : (octet 12 : RtcpReader UInt8).run buf = .outside := by
    by_contra inside
    have := octet_ne_outside.1 inside
    omega
  rw [rpsiFci, run_bind, outside]
  rfl

theorem rpsiFci_one (pkt : FbPacket) :
    StaysInside (rpsiFci ((UInt64.ofNat 1 - 2) * 4)) (FbRpsi.Within pkt) pkt.1
      ↔ LongString pkt := by
  have lengths (padlen : UInt8) := (rpsiLen_toNat (show 1 < 65536 by omega) padlen).1 rfl
  have long := pkt.2
  -- zeros behind the packet are taken for a bit string
  have accepts {padlen : UInt8} (little : ¬ 32 ≤ padlen) (size : Nat)
      (first : (pkt.1 ++ List.replicate (size + 2) 0)[12]? = some padlen) :
      ∃ content, (rpsiFci ((UInt64.ofNat 1 - 2) * 4)).run
        (pkt.1 ++ List.replicate (size + 2) 0) = .value (.ok content) := by
    obtain ⟨pt, second⟩ : ∃ pt, (octet 13 : RtcpReader UInt8).run
        (pkt.1 ++ List.replicate (size + 2) 0) = .value pt :=
      octet_inside (by rw [List.length_append, List.length_replicate]; omega)
    rw [rpsiFci_run _ first, if_neg little, if_neg (lengths padlen).2.1, second]
    exact ⟨_, rfl⟩
  by_cases short : pkt.1.length = 12
  · refine iff_of_false (not_staysInside (rpsiFci_outside _ (by omega)) fun size => ?_) ?_
    · refine ⟨_, by simp, accepts (show ¬ (32 : UInt8) ≤ 0 by decide) size ?_⟩
      rw [List.getElem?_append_right (by omega), List.getElem?_replicate, if_pos (by omega)]
    · rintro ⟨padlen, first, -⟩
      rw [List.getElem?_eq_none (by omega)] at first
      cases first
  · obtain ⟨padlen, first⟩ : ∃ padlen, pkt.1[12]? = some padlen :=
      ⟨_, List.getElem?_eq_getElem (show 12 < pkt.1.length by omega)⟩
    have longString : LongString pkt
        ↔ 32 ≤ padlen ∨ 14 + (2 ^ 64 - 41 - padlen.toNat) / 8 ≤ pkt.1.length := by
      constructor
      · rintro ⟨padlen', first', either⟩
        rw [first] at first'
        cases first'
        exact either
      · exact fun either => ⟨padlen, first, either⟩
    have ran := rpsiFci_run ((UInt64.ofNat 1 - 2) * 4) first
    rw [longString]
    by_cases big : 32 ≤ padlen
    · rw [if_pos big] at ran
      exact iff_of_true (staysInside_of_value (stable_rpsiFci _) ran nofun) (.inl big)
    · rw [if_neg big, if_neg (lengths padlen).2.1] at ran
      by_cases one : pkt.1.length = 13
      · refine iff_of_false (not_staysInside ?_ fun size => ?_) fun either => ?_
        · rw [ran]
          have outside : (octet 13 : RtcpReader UInt8).run pkt.1 = .outside := by
            by_contra inside
            have := octet_ne_outside.1 inside
            omega
          rw [outside]
          rfl
        · refine ⟨_, by simp, accepts big size ?_⟩
          rw [List.getElem?_append_left (by omega), first]
        · rcases either with large | far
          · exact big large
          · omega
      · obtain ⟨pt, second⟩ : ∃ pt, (octet 13 : RtcpReader UInt8).run pkt.1 = .value pt :=
          octet_inside (by omega)
        rw [second, bind_value] at ran
        rw [staysInside_ok (stable_rpsiFci _) ran, or_iff_right big, FbRpsi.Within,
          (lengths padlen).2.2 (UInt8.not_le.1 big)]

theorem rpsiFci_inside (pkt : FbPacket) {length : Nat} (two : 2 ≤ length) (small : length < 65536)
    (enough : (length + 1) * 4 ≤ pkt.1.length) :
    StaysInside (rpsiFci ((UInt64.ofNat length - 2) * 4)) (FbRpsi.Within pkt) pkt.1 := by
  have lengths (padlen : UInt8) := (rpsiLen_toNat small padlen).2 two
  by_cases short : pkt.1.length = 12
  · -- only an error can follow
    refine .inl ⟨1, fun more behind => ?_⟩
    obtain ⟨padlen, first⟩ : ∃ padlen, (pkt.1 ++ more)[12]? = some padlen :=
      ⟨_, List.getElem?_eq_getElem (by rw [List.length_append]; omega)⟩
    rw [rpsiFci_run _ first]
    split
    · exact ⟨_, rfl⟩
    · rw [if_pos ((lengths padlen).2.1.2 (by omega))]
      exact ⟨_, rfl⟩
  · obtain ⟨padlen, first⟩ : ∃ padlen, pkt.1[12]? = some padlen :=
      ⟨_, List.getElem?_eq_getElem (show 12 < pkt.1.length by omega)⟩
    have ran := rpsiFci_run ((UInt64.ofNat length - 2) * 4) first
    by_cases big : 32 ≤ padlen
    · rw [if_pos big] at ran
      exact staysInside_of_value (stable_rpsiFci _) ran nofun
    · rw [if_neg big] at ran
      by_cases few : (length - 2) * 32 < 16 + padlen.toNat
      · rw [if_pos ((lengths padlen).2.1.2 few)] at ran
        exact staysInside_of_value (stable_rpsiFci _) ran nofun
      · obtain ⟨pt, second⟩ : ∃ pt, (octet 13 : RtcpReader UInt8).run pkt.1 = .value pt :=
          octet_inside (by omega)
        rw [if_neg (fun less => few ((lengths padlen).2.1.1 less)), second, bind_value] at ran
        rw [staysInside_ok (stable_rpsiFci _) ran, FbRpsi.Within,
          ((lengths padlen).2.2 (by omega)).2]
        show 14 + ((length - 2) * 32 - 16 - padlen.toNat + 7) / 8 ≤ pkt.1.length
        omega

end Fci

theorem rpsi_staysInside_iff (pkt : FbPacket) :
    StaysInside (pjmediaRtcpFbParseRpsi pkt.1.length) (FbRpsi.Within pkt) pkt.1
      ↔ (States pkt ⟨3, rtcpPsfb, 1⟩ → LongString pkt) := by
  obtain ⟨hdr, raw, small, common, stored, tiny⟩ := pkt.header
  have ran (behind : List UInt8) : (pjmediaRtcpFbParseRpsi pkt.1.length).run (pkt.1 ++ behind)
      = if hdr.pt ≠ rtcpPsfb ∨ hdr.count ≠ 3 then .value (.error .enotfound)
        else if raw < 3 then .value (.error .etoosmall)
        else if pkt.1.length < ((UInt64.ofNat hdr.length - 2) * 4 + 12).toNat then
          .value (.error .etoosmall)
        else (rpsiFci ((UInt64.ofNat hdr.length - 2) * 4)).run (pkt.1 ++ behind) := by
    rw [pjmediaRtcpFbParseRpsi, if_neg (by omega), run_bind, common, bind_value]
    split
    · rfl
    · rw [run_bind, stored, bind_value]
      split
      · rfl
      · dsimp only
        split <;> rfl
  have first := common []
  have here := ran []
  rw [List.append_nil] at first here
  refine staysInside_iff_harmless (stable_rpsi _) first tiny here (fun other low least => ?_)
    fun other low two => ?_
  · rw [← rpsiFci_one pkt]
    refine staysInside_congr fun more => ?_
    rw [ran, if_neg other, if_neg low,
      if_neg (by rw [((rpsiLen_toNat small 0).1 least).1]; omega), least]
  · have plain := ((rpsiLen_toNat small 0).2 two).1
    by_cases short : pkt.1.length < (hdr.length + 1) * 4
    · rw [if_neg other, if_neg low, if_pos (by omega)] at here
      exact staysInside_of_value (stable_rpsi _) here nofun
    · refine (staysInside_congr fun more => ?_).2
        (rpsiFci_inside pkt two small (Nat.le_of_not_lt short))
      rw [ran, if_neg other, if_neg low, if_neg (by omega)]

/-- The parsers stay inside of the packet exactly if it does not state a length of one word, of
which the count of two words less is huge, or that count does no harm. -/
theorem feedback_staysInside_iff (pkt : FbPacket) (nackCnt : Nat) (sliCnt : UInt32) :
    StaysInside (pjmediaRtcpFbParseNack pkt.1.length nackCnt) (Counted pkt nackCnt) pkt.1
      ∧ (StaysInside (pjmediaRtcpFbParseSli pkt.1.length sliCnt) (Counted pkt sliCnt.toNat) pkt.1
        ↔ (States pkt ⟨2, rtcpPsfb, 1⟩ → 12 + 4 * sliCnt.toNat ≤ pkt.1.length))
      ∧ (StaysInside (pjmediaRtcpFbParseRpsi pkt.1.length) (FbRpsi.Within pkt) pkt.1
        ↔ (States pkt ⟨3, rtcpPsfb, 1⟩ → LongString pkt)) :=
  ⟨nack_staysInside pkt nackCnt, sli_staysInside_iff pkt sliCnt, rpsi_staysInside_iff pkt⟩

/-- A slice loss indication whose length is one word, and no entry in it. -/
def sliOfOneWord : FbPacket := ⟨[0x82, 206, 0, 1, 0, 0, 0, 0, 0, 0, 0, 0], by decide⟩

theorem sliOfOneWord_outside :
    ¬ StaysInside (pjmediaRtcpFbParseSli sliOfOneWord.1.length 1) (Counted sliOfOneWord 1)
      sliOfOneWord.1 := by
  rw [show 1 = (1 : UInt32).toNat from rfl, sli_staysInside_iff]
  intro inside
  have fits := inside rfl
  revert fits
  decide

end Pjsip.Pjmedia.Rtcp
