import Pjsip.Pjmedia.Rtcp.Feedback

/-!
# Feedback packets that are built and parsed

What the builders of `rtcp_fb.c` write, the parsers return, but for two lengths: a packet of 257
or 513 words has a length field of 256 or 512, whose octets exchanged make a number below three.
-/

namespace Pjsip.Pjmedia.Rtcp

open Pjsip.Base Pjsip.Pjlib Reader

/-! ## Builders -/

/-- What a builder takes of the session: the first octet and the source of `rtcp_fb_com`, and
`peer_ssrc`. -/
structure FbSession where
  flags : UInt8
  ssrc : UInt32
  peerSsrc : UInt32
  deriving DecidableEq, Repr

/-- The header of a packet of `len` octets. -/
def fbCommon (session : FbSession) (pt fmt : UInt8) (len : UInt32) : List UInt8 :=
  [(session.flags &&& 0xE0) ||| fmt, pt] ++ put16 (len / 4 - 1).toUInt16
    ++ (put32 session.ssrc ++ put32 session.peerSsrc)

/-- `pjmedia_rtcp_fb_nack`, as it is given to the builder. -/
structure NackEntry where
  pid : Int32
  blp : UInt16
  deriving DecidableEq

/-- `pjmedia_rtcp_fb_build_nack`: the octets written, and the length returned. -/
def pjmediaRtcpFbBuildNack (session : FbSession) (length : Nat) (nack : List NackEntry) :
    Except PjStatus (List UInt8 × UInt32) :=
  let len := (3 + UInt32.ofNat nack.length) * 4
  if length < len.toNat then .error .etoosmall
  else .ok (fbCommon session rtcpRtpfb 1 len
    ++ nack.flatMap fun entry => put16 entry.pid.toUInt32.toUInt16 ++ put16 entry.blp, len)

/-- An entry of a slice loss indication in four octets. -/
def packSli (sli : FbSli) : List UInt8 :=
  [((sli.first >>> 5) &&& 0xFF).toUInt8,
    ((sli.first &&& 31) <<< 3).toUInt8 ||| ((sli.number >>> 10) &&& 7).toUInt8,
    ((sli.number >>> 2) &&& 0xFF).toUInt8,
    ((sli.number &&& 3) <<< 6).toUInt8 ||| (sli.pictId &&& 63)]

/-- `pjmedia_rtcp_fb_build_sli` -/
def pjmediaRtcpFbBuildSli (session : FbSession) (length : Nat) (sli : List FbSli) :
    Except PjStatus (List UInt8 × UInt32) :=
  let len := (3 + UInt32.ofNat sli.length) * 4
  if length < len.toNat then .error .etoosmall
  else .ok (fbCommon session rtcpPsfb 2 len ++ sli.flatMap packSli, len)

/-- `pjmedia_rtcp_fb_rpsi`, as it is given to the builder: the string holds the bits. -/
structure RpsiBits where
  pt : UInt8
  rpsi : List UInt8
  rpsiBitLen : Nat
  holds : rpsi.length = (rpsiBitLen + 7) / 8
  deriving DecidableEq

/-- `pjmedia_rtcp_fb_build_rpsi` -/
def pjmediaRtcpFbBuildRpsi (session : FbSession) (length : Nat) (rpsi : RpsiBits) :
    Except PjStatus (List UInt8 × UInt32) :=
  let bitlen := UInt32.ofNat rpsi.rpsiBitLen + 16
  let padlen := (32 - bitlen % 32) % 32
  let len := (3 + (bitlen + padlen) / 32) * 4
  if length < len.toNat then .error .etoosmall
  else .ok (fbCommon session rtcpPsfb 3 len ++ [padlen.toUInt8, rpsi.pt &&& 0x7F]
    ++ (rpsi.rpsi.take (rpsi.rpsiBitLen / 8)
      -- the last octet is copied with the bits that do not count
      ++ (if rpsi.rpsiBitLen % 8 ≠ 0 then [rpsi.rpsi.getD (rpsi.rpsiBitLen / 8) 0] else [])
      ++ List.replicate (padlen / 8).toNat 0), len)

/-! ## Contents -/

/-- Entries for a packet of at most 65536 words: any number, and at least one. -/
structure FbEntries (α : Type) where
  entries : List α
  nonempty : 1 ≤ entries.length
  words : 3 + entries.length ≤ 65536

def FbSli.Fits (sli : FbSli) : Prop := sli.first < 8192 ∧ sli.number < 8192 ∧ sli.pictId < 64

structure FbSlices extends FbEntries FbSli where
  fits : ∀ sli ∈ entries, sli.Fits

def FbNack.entry (nack : FbNack) : NackEntry := ⟨nack.pid.toUInt32.toInt32, nack.blp⟩

/-- A bit string for a packet of at most 65536 words, and a payload type of seven bits. -/
structure FbBits extends RpsiBits where
  type : pt < 128
  nonempty : 1 ≤ rpsiBitLen
  words : 3 + (rpsiBitLen + 47) / 32 ≤ 65536

/-! ## Reading a header back -/

theorem fbCommon_length (session : FbSession) (pt fmt : UInt8) (len : UInt32) :
    (fbCommon session pt fmt len).length = 12 := rfl

theorem fmt_read (flags : UInt8) {fmt : UInt8} (small : fmt.toNat < 32) :
    ((flags &&& 0xE0) ||| fmt).toNat % 32 = fmt.toNat := by
  rw [UInt8.toNat_or, UInt8.toNat_and]
  show ((flags.toNat &&& 224) ||| fmt.toNat) % 2 ^ 5 = _
  rw [Nat.or_mod_two_pow, Nat.and_mod_two_pow, Nat.mod_eq_of_lt small]
  simp

/-- The header as the parsers see it; the length field counts the words after the first one. -/
theorem fbCommon_read (session : FbSession) (pt fmt : UInt8) {count : Nat}
    (counted : ((session.flags &&& 0xE0) ||| fmt).toNat % 32 = count) {len : UInt32} {words : Nat}
    (length : len.toNat = (words + 1) * 4) (small : words < 65536) (fci : List UInt8) :
    parseCommon.run (fbCommon session pt fmt len ++ fci) = .value ⟨count, pt, words⟩
      ∧ ∃ raw, rawLength.run (fbCommon session pt fmt len ++ fci) = .value raw
        ∧ (raw < 3 ↔ words = 0 ∨ words = 256 ∨ words = 512) := by
  have field : (len / 4 - 1).toUInt16.toNat = words := by
    have one : (1 : UInt32).toNat = 1 := rfl
    have four : (4 : UInt32).toNat = 4 := rfl
    rw [UInt32.toNat_toUInt16, UInt32.toNat_sub, UInt32.toNat_div, one, four]
    omega
  obtain ⟨b2, b3, written⟩ : ∃ b2 b3, put16 (len / 4 - 1).toUInt16 = [b2, b3] := ⟨_, _, rfl⟩
  have value : b2.toNat * 256 + b3.toNat = words := by
    rw [← toNat_value16, ← written, value16_put16, field]
  rw [fbCommon, written, ← counted, ← value]
  exact ⟨parseCommon_run _ pt b2 b3 _, _, rawLength_run _ pt b2 b3 _, raw_lt_three b2 b3⟩

/-! ## Entries -/

theorem pid_read (pid : UInt16) : pid.toUInt32.toInt32.toUInt32.toUInt16 = pid := by
  simp

theorem nackEntries_written (before : List UInt8) (nack : List FbNack) :
    (nackEntries before.length nack.length).run (before
        ++ (nack.map FbNack.entry).flatMap fun entry =>
          put16 entry.pid.toUInt32.toUInt16 ++ put16 entry.blp)
      = .value nack := by
  induction nack generalizing before with
  | nil => rfl
  | cons entry nack ih =>
    have rest := ih (before ++ (put16 entry.pid ++ put16 entry.blp))
    have pid : (field16 before.length : RtcpReader UInt16).run (before ++ (put16 entry.pid
        ++ put16 entry.blp ++ (nack.map FbNack.entry).flatMap fun entry =>
          put16 entry.pid.toUInt32.toUInt16 ++ put16 entry.blp)) = .value entry.pid :=
      field16_between before entry.pid _ (by rw [List.append_assoc]) rfl
    have blp : (field16 (before.length + 2) : RtcpReader UInt16).run (before ++ (put16 entry.pid
        ++ put16 entry.blp ++ (nack.map FbNack.entry).flatMap fun entry =>
          put16 entry.pid.toUInt32.toUInt16 ++ put16 entry.blp)) = .value entry.blp :=
      field16_between (before ++ put16 entry.pid) entry.blp _
        (by rw [List.append_assoc, List.append_assoc]) (by rw [List.length_append, put16_length])
    rw [List.append_assoc] at rest
    rw [List.map_cons, List.flatMap_cons, FbNack.entry, pid_read, List.length_cons, nackEntries,
      run_bind, pid, bind_value, run_bind, blp, bind_value, run_bind]
    rw [show before.length + 4 = (before ++ (put16 entry.pid ++ put16 entry.blp)).length by
      simp, rest]
    rfl

theorem sli_middle : ∀ (a : Fin 32) (b : Fin 8),
    ((((UInt16.ofNat a <<< 3).toUInt8 ||| (UInt16.ofNat b).toUInt8) &&& 0xF8) >>> 3).toUInt16
        = UInt16.ofNat a
      ∧ (((UInt16.ofNat a <<< 3).toUInt8 ||| (UInt16.ofNat b).toUInt8) &&& 0x07).toUInt16
        = UInt16.ofNat b := by
  decide +kernel

theorem sli_last : ∀ (c : Fin 4) (d : Fin 64),
    ((((UInt16.ofNat c <<< 6).toUInt8 ||| UInt8.ofNat d) &&& 0xC0) >>> 6).toUInt16 = UInt16.ofNat c
      ∧ ((UInt16.ofNat c <<< 6).toUInt8 ||| UInt8.ofNat d) &&& 0x3F = UInt8.ofNat d := by
  decide +kernel

theorem and_mask {n : UInt16} (k : Nat) (mask : UInt16) (low : mask.toNat = 2 ^ k - 1)
    (small : 2 ^ k ≤ 65536) : n &&& mask = UInt16.ofNat (n.toNat % 2 ^ k) := by
  apply UInt16.toNat_inj.1
  have positive : 0 < 2 ^ k := Nat.two_pow_pos k
  rw [UInt16.toNat_and, low, Nat.and_two_pow_sub_one_eq_mod, UInt16.toNat_ofNat',
    Nat.mod_eq_of_lt (show n.toNat % 2 ^ k < 2 ^ 16 by omega)]

theorem unpackSli_packSli {sli : FbSli} (fits : sli.Fits) :
    ∃ p0 p1 p2 p3, packSli sli = [p0, p1, p2, p3] ∧ unpackSli p0 p1 p2 p3 = sli := by
  refine ⟨_, _, _, _, rfl, ?_⟩
  obtain ⟨first, number, pictId⟩ := sli
  obtain ⟨firstFits, numberFits, pictFits⟩ := fits
  have firstSmall : first.toNat < 8192 := UInt16.lt_iff_toNat_lt.1 firstFits
  have numberSmall : number.toNat < 8192 := UInt16.lt_iff_toNat_lt.1 numberFits
  have pictSmall : pictId.toNat < 64 := UInt8.lt_iff_toNat_lt.1 pictFits
  obtain ⟨five, three⟩ := sli_middle ⟨first.toNat % 32, Nat.mod_lt _ (by decide)⟩
    ⟨(number >>> 10).toNat % 8, Nat.mod_lt _ (by decide)⟩
  obtain ⟨two, six⟩ := sli_last ⟨number.toNat % 4, Nat.mod_lt _ (by decide)⟩
    ⟨pictId.toNat, pictSmall⟩
  have pict : pictId &&& 63 = UInt8.ofNat pictId.toNat := by
    rw [UInt8.ofNat_toNat]
    apply UInt8.toNat_inj.1
    rw [UInt8.toNat_and]
    show pictId.toNat &&& 2 ^ 6 - 1 = _
    rw [Nat.and_two_pow_sub_one_eq_mod, Nat.mod_eq_of_lt pictSmall]
  dsimp only at five three two six
  simp only [unpackSli, and_mask 5 31 rfl (by decide), and_mask 3 7 rfl (by decide),
    and_mask 2 3 rfl (by decide), and_mask 8 0xFF rfl (by decide), pict, Nat.reducePow]
  rw [FbSli.mk.injEq, five, three, two, six, UInt8.ofNat_toNat]
  refine ⟨?_, ?_, rfl⟩
  all_goals
    apply UInt16.toNat_inj.1
    simp only [UInt16.toNat_add, UInt16.toNat_shiftLeft, UInt8.toNat_toUInt16,
      UInt16.toNat_toUInt8, UInt16.toNat_ofNat', UInt16.toNat_shiftRight, UInt16.toNat_ofNat,
      Nat.shiftLeft_eq, Nat.shiftRight_eq_div_pow, Nat.reducePow, Nat.reduceMod]
    omega

theorem sliEntries_written (before : List UInt8) {sli : List FbSli} (fits : ∀ e ∈ sli, e.Fits) :
    (sliEntries before.length sli.length).run (before ++ sli.flatMap packSli) = .value sli := by
  induction sli generalizing before with
  | nil => rfl
  | cons entry sli ih =>
    obtain ⟨p0, p1, p2, p3, packed, unpacked⟩ := unpackSli_packSli (fits _ (List.mem_cons_self ..))
    have rest := ih (before ++ [p0, p1, p2, p3]) fun e mem => fits e (List.mem_cons_of_mem _ mem)
    rw [List.append_assoc, List.length_append] at rest
    have octet_at (i : Nat) (byte : UInt8) (there : [p0, p1, p2, p3][i]? = some byte) :
        (octet (before.length + i) : RtcpReader UInt8).run
          (before ++ ([p0, p1, p2, p3] ++ sli.flatMap packSli)) = .value byte := by
      obtain ⟨below, -⟩ := List.getElem?_eq_some_iff.1 there
      rw [octet_value, List.getElem?_append_right (by omega), Nat.add_sub_cancel_left,
        List.getElem?_append_left below, there]
    have first : (sliEntry before.length).run
        (before ++ ([p0, p1, p2, p3] ++ sli.flatMap packSli)) = .value entry := by
      have at0 := octet_at 0 p0 rfl
      rw [Nat.add_zero] at at0
      rw [sliEntry, run_bind, at0, bind_value, run_bind, octet_at 1 p1 rfl,
        bind_value, run_bind, octet_at 2 p2 rfl, bind_value, run_bind, octet_at 3 p3 rfl,
        bind_value, run_pure, unpacked]
    rw [List.flatMap_cons, packed, List.length_cons, sliEntries, run_bind, first, bind_value,
      run_bind]
    change ((sliEntries (before.length + 4) sli.length).run _).bind _ = _
    rw [show before.length + 4 = before.length + [p0, p1, p2, p3].length from rfl, rest]
    rfl

/-! ## Packets -/

/-- The parser returns the content that the builder was given, from as many octets as the
builder says that it wrote. -/
def RoundTrip {α : Type} (built : Except PjStatus (List UInt8 × UInt32))
    (parser : Nat → RtcpReader (Except PjStatus α)) (same : List UInt8 → α → Prop) : Prop :=
  ∃ pkt len content, built = .ok (pkt, len) ∧ pkt.length = len.toNat
    ∧ (parser len.toNat).run pkt = .value (.ok content) ∧ same pkt content

theorem roundTrip_iff {α : Type} {built : Except PjStatus (List UInt8 × UInt32)}
    {parser : Nat → RtcpReader (Except PjStatus α)} {same : List UInt8 → α → Prop}
    {pkt : List UInt8} {len : UInt32} (made : built = .ok (pkt, len))
    (length : pkt.length = len.toNat) :
    RoundTrip built parser same
      ↔ ∃ content, (parser len.toNat).run pkt = .value (.ok content) ∧ same pkt content := by
  constructor
  · rintro ⟨pkt', len', content, made', -, read, holds⟩
    rw [made] at made'
    cases made'
    exact ⟨content, read, holds⟩
  · rintro ⟨content, read, holds⟩
    exact ⟨pkt, len, content, made, length, read, holds⟩

theorem entriesLen_toNat {count : Nat} (words : 3 + count ≤ 65536) :
    ((3 + UInt32.ofNat count) * 4).toNat = (count + 2 + 1) * 4 := by
  have three : (3 : UInt32).toNat = 3 := rfl
  have four : (4 : UInt32).toNat = 4 := rfl
  rw [UInt32.toNat_mul, UInt32.toNat_add, UInt32.toNat_ofNat', three, four]
  omega

theorem flatMap_length {α : Type} {f : α → List UInt8} (four : ∀ a, (f a).length = 4)
    (xs : List α) : (xs.flatMap f).length = 4 * xs.length := by
  induction xs with
  | nil => rfl
  | cons x xs ih =>
    rw [List.flatMap_cons, List.length_append, four, ih, List.length_cons]
    omega

theorem nack_roundTrip (session : FbSession) (spare : Nat) (nack : FbEntries FbNack) :
    RoundTrip (pjmediaRtcpFbBuildNack session ((3 + nack.entries.length) * 4 + spare)
        (nack.entries.map FbNack.entry))
      (fun length => pjmediaRtcpFbParseNack length nack.entries.length)
      fun _ content => content = nack.entries := by
  have words := nack.words
  have len := entriesLen_toNat words
  obtain ⟨common, -⟩ := fbCommon_read session rtcpRtpfb 1 (fmt_read session.flags (by decide)) len (by omega)
    ((nack.entries.map FbNack.entry).flatMap fun entry =>
      put16 entry.pid.toUInt32.toUInt16 ++ put16 entry.blp)
  have entries := nackEntries_written
    (fbCommon session rtcpRtpfb 1 ((3 + UInt32.ofNat nack.entries.length) * 4)) nack.entries
  rw [fbCommon_length] at entries
  have made : pjmediaRtcpFbBuildNack session ((3 + nack.entries.length) * 4 + spare)
      (nack.entries.map FbNack.entry) = .ok (fbCommon session rtcpRtpfb 1
          ((3 + UInt32.ofNat nack.entries.length) * 4)
        ++ (nack.entries.map FbNack.entry).flatMap fun entry =>
          put16 entry.pid.toUInt32.toUInt16 ++ put16 entry.blp,
        (3 + UInt32.ofNat nack.entries.length) * 4) := by
    rw [pjmediaRtcpFbBuildNack, List.length_map, if_neg (by omega)]
  rw [roundTrip_iff made]
  · refine ⟨nack.entries, ?_, rfl⟩
    have nonempty := nack.nonempty
    have counted : (if 2 < nack.entries.length + 2 then nack.entries.length + 2 - 2 else 0)
        = nack.entries.length := by
      rw [if_pos (by omega), Nat.add_sub_cancel]
    rw [pjmediaRtcpFbParseNack, if_neg (by omega), run_bind, common, bind_value, if_neg (by simp)]
    rw [counted, if_neg (by omega), Nat.min_self, run_bind, entries]
    rfl
  · rw [List.length_append, fbCommon_length, flatMap_length (fun _ => rfl), List.length_map]
    omega

theorem sli_roundTrip_iff (session : FbSession) (spare : Nat) (sli : FbSlices) :
    RoundTrip (pjmediaRtcpFbBuildSli session ((3 + sli.entries.length) * 4 + spare) sli.entries)
        (fun length => pjmediaRtcpFbParseSli length (UInt32.ofNat sli.entries.length))
        (fun _ content => content = sli.entries)
      ↔ sli.entries.length ≠ 254 ∧ sli.entries.length ≠ 510 := by
  have words := sli.words
  have len := entriesLen_toNat words
  obtain ⟨common, raw, stored, tiny⟩ := fbCommon_read session rtcpPsfb 2
    (fmt_read session.flags (by decide)) len (by omega) (sli.entries.flatMap packSli)
  have entries := sliEntries_written
    (fbCommon session rtcpPsfb 2 ((3 + UInt32.ofNat sli.entries.length) * 4)) sli.fits
  rw [fbCommon_length] at entries
  have made : pjmediaRtcpFbBuildSli session ((3 + sli.entries.length) * 4 + spare) sli.entries
      = .ok (fbCommon session rtcpPsfb 2 ((3 + UInt32.ofNat sli.entries.length) * 4)
        ++ sli.entries.flatMap packSli, (3 + UInt32.ofNat sli.entries.length) * 4) := by
    rw [pjmediaRtcpFbBuildSli, if_neg (by omega)]
  obtain ⟨cnt, least⟩ := (sliCnt_toNat (show sli.entries.length + 2 < 65536 by omega)).2 (by omega)
  have asked : (pjMin (UInt32.ofNat sli.entries.length)
      (UInt32.ofNat (sli.entries.length + 2) - 2)).toNat = sli.entries.length := by
    rw [toNat_pjMin, cnt, UInt32.toNat_ofNat']
    omega
  rw [roundTrip_iff made]
  · have ran : (pjmediaRtcpFbParseSli ((3 + UInt32.ofNat sli.entries.length) * 4).toNat
        (UInt32.ofNat sli.entries.length)).run (fbCommon session rtcpPsfb 2
          ((3 + UInt32.ofNat sli.entries.length) * 4) ++ sli.entries.flatMap packSli)
        = if raw < 3 then .value (.error .etoosmall) else .value (.ok sli.entries) := by
      rw [pjmediaRtcpFbParseSli, if_neg (by omega), run_bind, common, bind_value, if_neg (by simp),
        run_bind, stored, bind_value]
      split
      · rfl
      · show (if _ < ((UInt32.ofNat (sli.entries.length + 2) - 2 + 3) * 4).toNat then _ else _
          : RtcpReader _).run _ = _
        rw [if_neg (by omega), run_bind, asked, entries]
        rfl
    rw [ran]
    split
    · next low =>
      refine iff_of_false ?_ (by have := tiny.1 low; omega)
      rintro ⟨content, stop, -⟩
      cases stop
    · next high =>
      have apart : ¬ (sli.entries.length + 2 = 0 ∨ sli.entries.length + 2 = 256
        ∨ sli.entries.length + 2 = 512) := fun equal => high (tiny.2 equal)
      exact iff_of_true ⟨sli.entries, rfl, rfl⟩ (by omega)
  · rw [List.length_append, fbCommon_length, flatMap_length (fun _ => rfl)]
    omega

/-! ## Bit strings -/

/-- The padding of a bit string behind its two octets of header. -/
def rpsiPadding (bits : Nat) : Nat := (32 - (bits + 16) % 32) % 32

/-- The words that a bit string takes with the two octets before it and its padding. -/
def rpsiWords (bits : Nat) : Nat := (bits + 47) / 32

theorem rpsiPadding_toNat (bits : Nat) :
    ((32 - (UInt32.ofNat bits + 16) % 32) % 32).toNat = rpsiPadding bits := by
  unfold rpsiPadding
  simp only [UInt32.toNat_mod, UInt32.toNat_sub, UInt32.toNat_add, UInt32.toNat_ofNat',
    UInt32.toNat_ofNat, Nat.reducePow, Nat.reduceMod]
  omega

theorem rpsiLen_words {bits : Nat} (words : 3 + rpsiWords bits ≤ 65536) :
    ((3 + (UInt32.ofNat bits + 16 + (32 - (UInt32.ofNat bits + 16) % 32) % 32) / 32) * 4).toNat
      = (rpsiWords bits + 2 + 1) * 4 := by
  unfold rpsiWords at words ⊢
  simp only [UInt32.toNat_mod, UInt32.toNat_sub, UInt32.toNat_add, UInt32.toNat_ofNat',
    UInt32.toNat_ofNat, UInt32.toNat_mul, UInt32.toNat_div, Nat.reducePow, Nat.reduceMod]
  omega

theorem RpsiBits.copied (rpsi : RpsiBits) : rpsi.rpsi.take (rpsi.rpsiBitLen / 8)
      ++ (if rpsi.rpsiBitLen % 8 ≠ 0 then [rpsi.rpsi.getD (rpsi.rpsiBitLen / 8) 0] else [])
      = rpsi.rpsi := by
  have holds := rpsi.holds
  split
  · have last : rpsi.rpsiBitLen / 8 < rpsi.rpsi.length := by omega
    rw [List.getD_eq_getElem?_getD, List.getElem?_eq_getElem last, Option.getD_some,
      List.take_append_getElem, List.take_of_length_le (by omega)]
  · rw [List.append_nil, List.take_of_length_le (by omega)]

theorem type_kept {pt : UInt8} (small : pt < 128) : pt &&& 0x7F = pt := by
  rw [← UInt8.toNat_inj, UInt8.toNat_and]
  exact Nat.and_two_pow_sub_one_of_lt_two_pow (n := 7) small

/-- The parsed string is the one that was built. -/
def FbRpsi.Same (rpsi : RpsiBits) (pkt : List UInt8) (parsed : FbRpsi) : Prop :=
  parsed.pt = rpsi.pt ∧ parsed.rpsiBitLen = rpsi.rpsiBitLen
    ∧ (pkt.drop parsed.ptr).take parsed.slen = rpsi.rpsi

theorem rpsi_roundTrip_iff (session : FbSession) (spare : Nat) (rpsi : FbBits) :
    RoundTrip (pjmediaRtcpFbBuildRpsi session ((3 + rpsiWords rpsi.rpsiBitLen) * 4 + spare)
        rpsi.toRpsiBits) pjmediaRtcpFbParseRpsi (FbRpsi.Same rpsi.toRpsiBits)
      ↔ rpsiWords rpsi.rpsiBitLen ≠ 254 ∧ rpsiWords rpsi.rpsiBitLen ≠ 510 := by
  have words : 3 + rpsiWords rpsi.rpsiBitLen ≤ 65536 := rpsi.words
  have holds := rpsi.holds
  have len := rpsiLen_words words
  have pad := rpsiPadding_toNat rpsi.rpsiBitLen
  -- the packet, its length and its padding by name
  generalize lenIs : (3 + (UInt32.ofNat rpsi.rpsiBitLen + 16
    + (32 - (UInt32.ofNat rpsi.rpsiBitLen + 16) % 32) % 32) / 32) * 4 = n at len
  generalize padIs : (32 - (UInt32.ofNat rpsi.rpsiBitLen + 16) % 32) % 32 = padlen at pad
  let zeros : List UInt8 := List.replicate (padlen / 8).toNat 0
  have zerosLength : zeros.length = rpsiPadding rpsi.rpsiBitLen / 8 := by
    rw [List.length_replicate, UInt32.toNat_div, pad]
    rfl
  have padFits : rpsiPadding rpsi.rpsiBitLen < 32 := Nat.mod_lt _ (by decide)
  have made : pjmediaRtcpFbBuildRpsi session ((3 + rpsiWords rpsi.rpsiBitLen) * 4 + spare)
      rpsi.toRpsiBits = .ok (fbCommon session rtcpPsfb 3 n
        ++ (padlen.toUInt8 :: (rpsi.pt &&& 0x7F) :: (rpsi.rpsi ++ zeros)), n) := by
    simp only [pjmediaRtcpFbBuildRpsi, padIs]
    rw [padIs] at lenIs
    rw [lenIs, if_neg (by omega), rpsi.copied, List.append_assoc]
    rfl
  have size : (fbCommon session rtcpPsfb 3 n
      ++ (padlen.toUInt8 :: (rpsi.pt &&& 0x7F) :: (rpsi.rpsi ++ zeros))).length = n.toNat := by
    simp only [List.length_append, List.length_cons, fbCommon_length, zerosLength, holds, len]
    unfold rpsiPadding rpsiWords
    omega
  obtain ⟨common, raw, stored, tiny⟩ := fbCommon_read session rtcpPsfb 3
    (fmt_read session.flags (by decide)) len (by omega)
    (padlen.toUInt8 :: (rpsi.pt &&& 0x7F) :: (rpsi.rpsi ++ zeros))
  generalize pktIs : fbCommon session rtcpPsfb 3 n
    ++ (padlen.toUInt8 :: (rpsi.pt &&& 0x7F) :: (rpsi.rpsi ++ zeros)) = pkt at *
  have first : pkt[12]? = some padlen.toUInt8 := by
    rw [← pktIs]
    rfl
  have second : pkt[13]? = some (rpsi.pt &&& 0x7F) := by
    rw [← pktIs]
    rfl
  have padOctet : padlen.toUInt8.toNat = rpsiPadding rpsi.rpsiBitLen := by
    rw [UInt32.toNat_toUInt8, pad]
    omega
  obtain ⟨plain, few, whole⟩ := (rpsiLen_toNat
    (show rpsiWords rpsi.rpsiBitLen + 2 < 65536 by omega) padlen.toUInt8).2 (by omega)
  rw [padOctet, Nat.add_sub_cancel] at few whole
  have covers : 16 + rpsiPadding rpsi.rpsiBitLen ≤ rpsiWords rpsi.rpsiBitLen * 32 := by
    unfold rpsiPadding rpsiWords
    omega
  have left : rpsiWords rpsi.rpsiBitLen * 32 - 16 - rpsiPadding rpsi.rpsiBitLen
      = rpsi.rpsiBitLen := by
    unfold rpsiPadding rpsiWords
    omega
  obtain ⟨bitLen, slen⟩ := whole covers
  rw [left] at bitLen slen
  have once := type_kept rpsi.type
  have ran : (pjmediaRtcpFbParseRpsi n.toNat).run pkt = if raw < 3 then .value (.error .etoosmall)
        else .value (.ok ⟨rpsi.pt, 14, (rpsi.rpsiBitLen + 7) / 8, rpsi.rpsiBitLen⟩) := by
    rw [pjmediaRtcpFbParseRpsi, if_neg (by omega), run_bind, common, bind_value, if_neg (by simp),
      run_bind, stored, bind_value]
    split
    · rfl
    · dsimp only
      have little : ¬ 32 ≤ padlen.toUInt8 := by
        rw [UInt8.le_iff_toNat_le, padOctet]
        exact Nat.not_le.2 padFits
      rw [if_neg (by omega), rpsiFci_run _ first, if_neg little,
        if_neg (fun less => absurd (few.1 less) (by omega)), octet_value.2 second, bind_value,
        bitLen, slen, once, once]
  rw [roundTrip_iff made size, ran]
  split
  · next low =>
    refine iff_of_false ?_ (by have := tiny.1 low; omega)
    rintro ⟨content, stop, -⟩
    cases stop
  · next high =>
    have apart : ¬ (rpsiWords rpsi.rpsiBitLen + 2 = 0 ∨ rpsiWords rpsi.rpsiBitLen + 2 = 256
      ∨ rpsiWords rpsi.rpsiBitLen + 2 = 512) := fun equal => high (tiny.2 equal)
    refine iff_of_true ⟨_, rfl, rfl, rfl, ?_⟩ (by omega)
    show (pkt.drop 14).take ((rpsi.rpsiBitLen + 7) / 8) = _
    rw [← pktIs]
    show (rpsi.rpsi ++ zeros).take _ = _
    rw [← holds, List.take_left]

/-- What is built is parsed again, but for a packet of 257 or 513 words. -/
theorem feedback_roundTrip_iff (session : FbSession) (spare : Nat) (nack : FbEntries FbNack)
    (sli : FbSlices) (rpsi : FbBits) :
    RoundTrip (pjmediaRtcpFbBuildNack session ((3 + nack.entries.length) * 4 + spare)
          (nack.entries.map FbNack.entry))
        (fun length => pjmediaRtcpFbParseNack length nack.entries.length)
        (fun _ content => content = nack.entries)
      ∧ (RoundTrip (pjmediaRtcpFbBuildSli session ((3 + sli.entries.length) * 4 + spare)
            sli.entries)
          (fun length => pjmediaRtcpFbParseSli length (UInt32.ofNat sli.entries.length))
          (fun _ content => content = sli.entries)
        ↔ sli.entries.length ≠ 254 ∧ sli.entries.length ≠ 510)
      ∧ (RoundTrip (pjmediaRtcpFbBuildRpsi session ((3 + rpsiWords rpsi.rpsiBitLen) * 4 + spare)
            rpsi.toRpsiBits) pjmediaRtcpFbParseRpsi (FbRpsi.Same rpsi.toRpsiBits)
        ↔ rpsiWords rpsi.rpsiBitLen ≠ 254 ∧ rpsiWords rpsi.rpsiBitLen ≠ 510) :=
  ⟨nack_roundTrip session spare nack, sli_roundTrip_iff session spare sli,
    rpsi_roundTrip_iff session spare rpsi⟩

/-- 254 slices make a packet of 257 words. -/
def manySlices : FbSlices where
  entries := List.replicate 254 ⟨0, 1, 0⟩
  nonempty := by rw [List.length_replicate]; decide
  words := by rw [List.length_replicate]; decide
  fits sli mem := by
    rw [List.eq_of_mem_replicate mem]
    exact ⟨by decide, by decide, by decide⟩

theorem manySlices_refused :
    ¬ RoundTrip (pjmediaRtcpFbBuildSli ⟨0x81, 1, 2⟩ ((3 + manySlices.entries.length) * 4 + 0)
        manySlices.entries)
      (fun length => pjmediaRtcpFbParseSli length (UInt32.ofNat manySlices.entries.length))
      (fun _ content => content = manySlices.entries) := by
  rw [sli_roundTrip_iff]
  exact fun apart => apart.1 List.length_replicate

end Pjsip.Pjmedia.Rtcp
