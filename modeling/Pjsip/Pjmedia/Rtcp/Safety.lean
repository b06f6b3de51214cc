import Pjsip.Pjmedia.Rtcp.Packet

/-!
# Any compound packet is received safely

Whatever the octets are, each parser stays inside of its sub-packet and each string that
the statistics point to has been stored in the buffer. A parser tests the length of its
sub-packet itself: the walk only knows that it is a positive multiple of four.
-/

namespace Pjsip.Pjmedia.Rtcp

open Pjsip.Base Pjsip.Pjlib Reader

variable {S : Type}

/-! ## Strings in the filled part -/

/-- Every string ends before index `filled` of the buffer. -/
def PeerSdes.Inside (sdes : PeerSdes) (filled : Nat) : Prop :=
  ∀ text ∈ sdes.texts, text.ptr + text.slen ≤ filled

/-- What the statistics point to has been filled, and the filled part is a part of the buffer. -/
structure Session.Sound (sess : Session S) : Prop where
  fits : sess.peerSdesBuf.filled ≤ sdesBufLen
  inside : sess.peerSdes.Inside sess.peerSdesBuf.filled

variable {sdes : PeerSdes}

theorem PeerSdes.mem_texts {text : SdesText} :
    text ∈ sdes.texts ↔ sdes.cname = some text ∨ sdes.name = some text ∨ sdes.email = some text
      ∨ sdes.phone = some text ∨ sdes.loc = some text ∨ sdes.tool = some text
      ∨ sdes.note = some text := by
  simp [PeerSdes.texts, List.mem_filterMap, eq_comm]

theorem PeerSdes.empty_inside (filled : Nat) : PeerSdes.Inside {} filled := by
  intro text mem
  simp [PeerSdes.texts] at mem

theorem PeerSdes.Inside.mono {filled filled' : Nat} (inside : sdes.Inside filled)
    (more : filled ≤ filled') : sdes.Inside filled' := by
  intro text mem
  have own := inside text mem
  omega

theorem PeerSdes.mem_set {type : UInt8} {value text : SdesText}
    (mem : text ∈ (sdes.set type value).texts) : text = value ∨ text ∈ sdes.texts := by
  rw [PeerSdes.mem_texts] at mem ⊢
  unfold PeerSdes.set at mem
  split at mem <;> grind

theorem PeerSdes.Inside.set {filled : Nat} (inside : sdes.Inside filled)
    (type : UInt8) {value : SdesText} (own : value.ptr + value.slen ≤ filled) :
    (sdes.set type value).Inside filled := by
  intro text mem
  rcases PeerSdes.mem_set mem with rfl | mem
  · exact own
  · exact inside text mem

theorem pjmediaRtcpInit_sound (math : MathStat S) (clockRate samplesPerFrame : UInt32) :
    (pjmediaRtcpInit math clockRate samplesPerFrame).Sound where
  fits := Nat.zero_le _
  inside := PeerSdes.empty_inside _

theorem SdesBuf.yields_copy {buf : SdesBuf} {b : Nat} {text : List UInt8} (n : Nat)
    (fits : b + text.length ≤ sdesBufLen) :
    Yields n (fun buf' => buf'.filled = max buf.filled (b + text.length)) (buf.copy b text) := by
  unfold SdesBuf.copy
  rw [dif_pos fits]
  exact yields_pure rfl

/-! ## Parsers -/

theorem parseCommon_run (b0 b1 b2 b3 : UInt8) (rest : List UInt8) :
    parseCommon.run (b0 :: b1 :: b2 :: b3 :: rest)
      = .value ⟨b0.toNat % 32, b1, b2.toNat * 256 + b3.toNat⟩ := by
  have first : (octet 0 : RtcpReader UInt8).run (b0 :: b1 :: b2 :: b3 :: rest) = .value b0 :=
    octet_value.2 rfl
  have second : (octet 1 : RtcpReader UInt8).run (b0 :: b1 :: b2 :: b3 :: rest) = .value b1 :=
    octet_value.2 rfl
  have field : (field16 2 : RtcpReader UInt16).run (b0 :: b1 :: b2 :: b3 :: rest)
      = .value (value16 [b2, b3]) :=
    field16_value.2 ⟨by simp, rfl⟩
  rw [parseCommon, run_bind, first, bind_value, run_bind, second, bind_value, run_bind, field,
    bind_value, run_pure, toNat_value16]

section Parsers

variable {n : Nat}

theorem yields_common (word : 4 ≤ n) : Yields n (fun _ => True) parseCommon := by
  refine yields_bind (yields_octet (by omega)) fun _ _ => ?_
  refine yields_bind (yields_octet (by omega)) fun _ _ => ?_
  refine yields_bind (yields_field16 (by omega)) fun _ _ => ?_
  exact yields_pure trivial

theorem yields_rr {pos : Nat} (fits : pos + 24 ≤ n) : Yields n (fun _ => True) (parseRr pos) := by
  refine yields_bind (yields_octet (by omega)) fun _ _ => ?_
  refine yields_bind (yields_octet (by omega)) fun _ _ => ?_
  refine yields_bind (yields_octet (by omega)) fun _ _ => ?_
  refine yields_bind (yields_field32 (by omega)) fun _ _ => ?_
  refine yields_bind (yields_field32 (by omega)) fun _ _ => ?_
  refine yields_bind (yields_field32 (by omega)) fun _ _ => ?_
  exact yields_pure trivial

variable {sess : Session S}

theorem applyRr_sound (math : MathStat S) (ntp : NtpRec) (sound : sess.Sound)
    (rr : Rr) : (applyRr math ntp sess rr).Sound := by
  have loss : (updateLoss math sess rr).Sound := by
    unfold updateLoss
    split
    · exact ⟨sound.fits, sound.inside⟩
    · exact ⟨sound.fits, sound.inside⟩
  have jitter : (updateJitter math (updateLoss math sess rr) rr).Sound := ⟨loss.fits, loss.inside⟩
  unfold applyRr updateRtt
  split
  · exact jitter
  · dsimp only
    split
    · exact jitter
    · split
      · exact jitter
      · exact ⟨jitter.fits, jitter.inside⟩

theorem yields_report (math : MathStat S) (ntp : NtpRec) (sound : sess.Sound)
    (word : 4 ≤ n) : Yields n Session.Sound (parseRtcpReport math ntp n sess) := by
  refine yields_bind (yields_common word) fun common _ => ?_
  refine yields_ite (fun _ => yields_ite (fun _ => yields_pure sound) fun long => ?_) fun _ =>
    yields_ite (fun _ => yields_ite (fun _ => yields_pure sound) fun long => ?_) fun _ =>
      yields_pure sound
  · -- a sender report, and its first receiver report if there is space for one
    refine yields_bind (yields_field32 (by omega)) fun _ _ => ?_
    refine yields_bind (yields_field32 (by omega)) fun _ _ => ?_
    have received (lsr : UInt32) : Session.Sound { sess with rxLsr := lsr } :=
      ⟨sound.fits, sound.inside⟩
    refine yields_ite (fun block => ?_) fun _ => yields_pure (received _)
    refine yields_bind (yields_rr (by omega)) fun rr _ => ?_
    exact yields_pure (applyRr_sound math ntp (received _) rr)
  · refine yields_bind (yields_rr (by omega)) fun rr _ => ?_
    exact yields_pure (applyRr_sound math ntp sound rr)

theorem yields_items {fuel p b : Nat} {sdes : PeerSdes} {buf : SdesBuf} (enough : n + 1 ≤ fuel + p)
    (used : 0 < fuel) (filled : buf.filled = b) (fits : b ≤ sdesBufLen) (inside : sdes.Inside b) :
    Yields n (fun found => found.2.filled ≤ sdesBufLen ∧ found.1.Inside found.2.filled)
      (sdesItems n fuel p b sdes buf) := by
  have done : Yields n (fun found => found.2.filled ≤ sdesBufLen ∧ found.1.Inside found.2.filled)
      (pure (sdes, buf) : RtcpReader (PeerSdes × SdesBuf)) :=
    yields_pure ⟨filled ▸ fits, filled ▸ inside⟩
  induction fuel generalizing p b sdes buf with
  | zero => omega
  | succ fuel ih =>
    refine yields_ite (fun more => ?_) fun _ => done
    refine yields_bind (yields_octet (by omega)) fun sdesType _ => ?_
    refine yields_ite (fun _ => done) fun ends => ?_
    refine yields_bind (yields_octet (by omega)) fun len _ => ?_
    refine yields_ite (fun _ => done) fun whole => ?_
    refine yields_bind (yields_octets (by omega)) fun text _ => ?_
    refine yields_ite (fun space => ?_) fun _ => ?_
    · have length := text.2
      refine yields_bind (SdesBuf.yields_copy n (by omega)) fun buf' grown => ?_
      have filled' : buf'.filled = b + len.toNat := by omega
      have inside' : (sdes.set sdesType ⟨b, len.toNat⟩).Inside (b + len.toNat) :=
        (inside.mono (Nat.le_add_right b len.toNat)).set sdesType (Nat.le_refl _)
      exact ih (by omega) (by omega) filled' (by omega) inside'
        (yields_pure ⟨by rw [filled']; omega, filled' ▸ inside'⟩)
    · exact ih (by omega) (by omega) filled fits inside done

theorem yields_sdes (sess : Session S) : Yields n Session.Sound (parseRtcpSdes n sess) := by
  refine yields_bind (yields_items (by omega) (by omega) rfl (by omega)
    (PeerSdes.empty_inside 0)) fun found sound => ?_
  exact yields_pure ⟨sound.1, sound.2⟩

/-- The reason is cut to the buffer and to the packet; strings already there stay inside. -/
theorem yields_bye (sound : sess.Sound) : Yields n Session.Sound (parseRtcpBye n sess) := by
  refine yields_ite (fun long => ?_) fun _ => yields_pure sound
  refine yields_bind (yields_octet (by omega)) fun declared _ => ?_
  refine yields_bind (yields_octets (by omega)) fun reason _ => ?_
  have fits := sound.fits
  refine yields_bind (SdesBuf.yields_copy n (by omega)) fun buf grown => ?_
  refine yields_pure ⟨?_, ?_⟩
  · show buf.filled ≤ sdesBufLen
    omega
  · show sess.peerSdes.Inside buf.filled
    exact sound.inside.mono (by omega)

theorem yields_nackEntries {p count : Nat} (fits : p + 4 * count ≤ n) :
    Yields n (fun nack => nack.length = count) (nackEntries p count) := by
  induction count generalizing p with
  | zero => exact yields_pure rfl
  | succ count ih =>
    refine yields_bind (yields_field16 (by omega)) fun _ _ => ?_
    refine yields_bind (yields_field16 (by omega)) fun _ _ => ?_
    refine yields_bind (ih (by omega)) fun rest length => ?_
    exact yields_pure (by rw [List.length_cons, length])

theorem yields_nack (nackCnt : Nat) : Yields n (fun result => ∀ nack, result = .ok nack →
        nack.length ≤ (n - 12) / 4 ∧ nack.length ≤ nackCnt)
      (pjmediaRtcpFbParseNack n nackCnt) := by
  refine yields_ite (fun _ => yields_pure nofun) fun long => ?_
  refine yields_bind (yields_common (by omega)) fun hdr _ => ?_
  refine yields_ite (fun _ => yields_pure nofun) fun _ => ?_
  refine yields_ite (fun _ => yields_pure nofun) fun space => ?_
  refine yields_bind (yields_nackEntries (by omega)) fun nack length => yields_pure ?_
  rintro _ ⟨⟩
  rw [length]
  exact ⟨by omega, Nat.min_le_left ..⟩

theorem yields_pli : Yields n (fun _ => True) (pjmediaRtcpFbParsePli n) := by
  refine yields_ite (fun _ => yields_pure trivial) fun long => ?_
  refine yields_bind (yields_common (by omega)) fun hdr _ => ?_
  exact yields_ite (fun _ => yields_pure trivial) fun _ => yields_pure trivial

theorem yields_fb (sound : sess.Sound) : Yields n Session.Sound (parseRtcpFb n sess) := by
  refine yields_ite (fun _ => yields_pure sound) fun long => ?_
  refine yields_bind (yields_nack 1) fun nack _ => ?_
  cases nack with
  | ok nack => exact yields_pure ⟨sound.fits, sound.inside⟩
  | error status =>
    refine yields_bind yields_pli fun status _ => ?_
    exact yields_ite (fun _ => yields_pure ⟨sound.fits, sound.inside⟩) fun _ => yields_pure sound

theorem yields_sub (math : MathStat S) (ntp : NtpRec) (pt : UInt8)
    (sound : sess.Sound) (word : 4 ≤ n) :
    Yields n Session.Sound (parseSub math ntp pt n sess) := by
  refine yields_ite (fun _ => yields_report math ntp sound word) fun _ => ?_
  refine yields_ite (fun _ => yields_sdes sess) fun _ => ?_
  refine yields_ite (fun _ => yields_bye sound) fun _ => ?_
  exact yields_ite (fun _ => yields_fb sound) fun _ => yields_pure sound

end Parsers

/-! ## The walk -/

theorem yields_loop (math : MathStat S) (ntp : Nat → NtpRec) {size fuel p : Nat}
    {sess : Session S} (enough : size + 1 ≤ fuel + p) (used : 0 < fuel) (sound : sess.Sound) :
    Yields size Session.Sound (rxRtcpLoop math ntp size fuel p sess) := by
  induction fuel generalizing p sess with
  | zero => omega
  | succ fuel ih =>
    refine yields_ite (fun more => ?_) fun _ => yields_pure sound
    refine yields_ite (fun _ => yields_pure sound) fun header => ?_
    refine yields_bind (yields_within (yields_common (by omega)) (by omega)) fun common _ => ?_
    refine yields_ite (fun _ => yields_pure sound) fun whole => ?_
    have own := yields_sub math (ntp p) common.pt sound (show 4 ≤ (common.length + 1) * 4 by omega)
    refine yields_bind (yields_within own (by omega)) fun sess' sound' => ?_
    exact ih (by omega) (by omega) sound'

/-- Every packet is walked to its end, no parser looks outside of its sub-packet or writes
outside of the buffer, and the strings of the statistics are in its filled part. -/
theorem pjmediaRtcpRxRtcp_safe (math : MathStat S) (ntp : Nat → NtpRec) (sess : Session S)
    (sound : sess.Sound) (pkt : List UInt8) :
    ∃ sess', pjmediaRtcpRxRtcp math ntp sess pkt = .value sess' ∧ sess'.Sound :=
  yields_loop math ntp (by omega) (by omega) sound pkt (Nat.le_refl _)

/-- Samples with their mean rounded down. -/
def samples : MathStat (List UInt32) where
  init := []
  update seen value := value :: seen
  n seen := seen.length
  mean seen := UInt32.ofNat ((seen.map UInt32.toNat).sum / seen.length)

/-- A source description with a one-letter name, and a goodbye that writes over it. -/
theorem pjmediaRtcpRxRtcp_safe_goodbye :
    ∃ sess', pjmediaRtcpRxRtcp samples (fun _ => ⟨0, 0⟩) (pjmediaRtcpInit samples 8000 160)
        [0x81, 202, 0, 2, 0, 0, 0, 1, 1, 1, 97, 0, 0x81, 203, 0, 2, 0, 0, 0, 1, 2, 98, 121, 0]
          = .value sess'
      ∧ sess'.Sound :=
  pjmediaRtcpRxRtcp_safe samples _ _ (pjmediaRtcpInit_sound samples 8000 160) _

/-- Sessions after any packets. -/
inductive Received (math : MathStat S) : Session S → Prop
  | init (clockRate samplesPerFrame : UInt32) :
      Received math (pjmediaRtcpInit math clockRate samplesPerFrame)
  | rx {sess sess' : Session S} {ntp : Nat → NtpRec} {pkt : List UInt8} (before : Received math sess)
      (rx : pjmediaRtcpRxRtcp math ntp sess pkt = .value sess') : Received math sess'

theorem Received.sound {math : MathStat S} {sess : Session S} (received : Received math sess) :
    sess.Sound := by
  induction received with
  | init clockRate samplesPerFrame => exact pjmediaRtcpInit_sound math clockRate samplesPerFrame
  | @rx sess sess' ntp pkt before rx ih =>
    have walked : Yields pkt.length Session.Sound
        (rxRtcpLoop math ntp pkt.length (pkt.length + 1) 0 sess) :=
      yields_loop math ntp (by omega) (by omega) ih
    obtain ⟨found, read, sound⟩ := walked pkt (Nat.le_refl _)
    have same : found = sess' := by
      have both := read.symm.trans rx
      injection both
    exact same ▸ sound

end Pjsip.Pjmedia.Rtcp
