import Pjsip.PjmediaCodec.Vpx.Descriptor

/-!
# Frames sent and received

The sender's descriptors are well formed, so the receiver finds one octet in front of every
payload, and what is behind these octets is the frame.
-/

namespace Pjsip.PjmediaCodec.Vpx

open Pjsip.Base Reader

/-- What the sender's octet says, as a descriptor of the format. -/
def sentDescriptor (isKeyframe start last : Bool) : Format → Descriptor
  | .vp8 => .vp8 { extension := none, r := false, n := !isKeyframe, s := start,
                   pid := (false, false, false, false) }
  | .vp9 => .vp9 { pictureId := none, p := !isKeyframe, layers := none, flexible := false,
                   references := .one 0, b := start, e := last, scalability := none, z := false,
                   identified := nofun }

theorem sentDescriptor_fmt (isKeyframe start last : Bool) (fmt : Format) :
    (sentDescriptor isKeyframe start last fmt).fmt = fmt := by
  cases fmt <;> rfl

theorem sentDescriptor_vp8 : ∀ isKeyframe start last : Bool,
    (sentDescriptor isKeyframe start last .vp8).octets
      = [(if isKeyframe then 0 else 0x20) ||| (if start then 0x10 else 0)] := by
  decide

theorem sentDescriptor_vp9 : ∀ isKeyframe start last : Bool,
    (sentDescriptor isKeyframe start last .vp9).octets
      = [(if isKeyframe then 0 else 0x40) ||| (if start then 0x8 else 0)
        ||| (if last then 0x4 else 0)] := by
  decide

/-- What one call sends: a descriptor of one octet, and at least an octet of the frame. -/
structure Sent (cfg : Cfg) (frame : Frame) (encProcessed : UInt32) (octet : UInt8) (len : Nat) :
    Prop where
  formed : ∃ desc : Descriptor, desc.fmt = cfg.fmtId ∧ desc.octets = [octet]
  positive : 0 < len
  inside : encProcessed.toNat + len ≤ frame.1.length
  small : len + 1 ≤ cfg.mtu.toNat

theorem packetize_sent {cfg : Cfg} (frame : Frame) {encProcessed : UInt32} (isKeyframe : Bool)
    {outSize : Nat} (mtu : 2 ≤ cfg.mtu.toNat) (room : cfg.mtu.toNat ≤ outSize)
    (more : encProcessed.toNat < frame.1.length) :
    ∃ octet len, pjmediaVpxPacketize cfg frame.1.length encProcessed isKeyframe outSize
        = .ok (octet, len) ∧ Sent cfg frame encProcessed octet len := by
  have counted := frame.2
  have max : (cfg.mtu - 1).toNat = cfg.mtu.toNat - 1 := by
    rw [UInt32.toNat_sub_of_le _ _ (UInt32.le_iff_toNat_le.2 (by simp; omega))]
    rfl
  have remaining : (UInt32.ofNat frame.1.length - encProcessed).toNat
      = frame.1.length - encProcessed.toNat := by
    have whole : (UInt32.ofNat frame.1.length).toNat = frame.1.length :=
      UInt32.toNat_ofNat_of_lt' counted
    rw [UInt32.toNat_sub_of_le _ _ (UInt32.le_iff_toNat_le.2 (by omega)), whole]
  have len : (if UInt32.ofNat frame.1.length - encProcessed < cfg.mtu - 1
      then UInt32.ofNat frame.1.length - encProcessed else cfg.mtu - 1).toNat
        = min (frame.1.length - encProcessed.toNat) (cfg.mtu.toNat - 1) := by
    split
    · next less =>
        rw [UInt32.lt_iff_toNat_lt] at less
        omega
    · next less =>
        rw [UInt32.lt_iff_toNat_lt] at less
        omega
  unfold pjmediaVpxPacketize
  dsimp only
  rw [len]
  generalize size : min (frame.1.length - encProcessed.toNat) (cfg.mtu.toNat - 1) = len
  rw [if_neg (by omega)]
  refine ⟨_, _, rfl, ⟨?_, by omega, by omega, by omega⟩⟩
  refine ⟨_, sentDescriptor_fmt isKeyframe (encProcessed = 0)
    (encProcessed.toNat + len = frame.1.length) cfg.fmtId, ?_⟩
  cases cfg.fmtId with
  | vp8 =>
    rw [sentDescriptor_vp8]
    simp only [decide_eq_true_eq]
  | vp9 =>
    rw [sentDescriptor_vp9]
    simp only [decide_eq_true_eq]

theorem Sent.received {cfg : Cfg} {frame : Frame} {encProcessed : UInt32} {octet : UInt8} {len : Nat}
    (sent : Sent cfg frame encProcessed octet len) {bits : List UInt8} (long : bits.length = len) :
    (pjmediaVpxUnpacketize cfg.fmtId (octet :: bits).length).run (octet :: bits) = .value 1 := by
  obtain ⟨desc, fmt, octets⟩ := sent.formed
  have positive := sent.positive
  obtain ⟨c, after, rfl⟩ := List.exists_cons_of_length_pos (show 0 < bits.length by omega)
  have found := unpacketize_octets desc c after
  rw [octets, fmt] at found
  exact found

/-- What the receiver makes of the payloads of a frame from a position on. -/
structure Rebuilt (cfg : Cfg) (frame : Frame) (encProcessed : UInt32)
    (payloads : List (List UInt8)) : Prop where
  small : ∀ payload ∈ payloads, payload.length ≤ cfg.mtu.toNat
  descLen : ∀ payload ∈ payloads,
    (pjmediaVpxUnpacketize cfg.fmtId payload.length).run payload = .value 1
  frame : payloads.flatMap (List.drop 1) = frame.1.drop encProcessed.toNat

theorem encodeMore_rebuilt {cfg : Cfg} (frame : Frame) (isKeyframe : Bool) {outSize : Nat}
    (mtu : 2 ≤ cfg.mtu.toNat) (room : cfg.mtu.toNat ≤ outSize) (fuel : Nat)
    (encProcessed : UInt32) (enough : frame.1.length - encProcessed.toNat < fuel) :
    ∃ payloads, encodeMore cfg frame isKeyframe outSize fuel encProcessed = some payloads
      ∧ Rebuilt cfg frame encProcessed payloads := by
  -- by induction on the calls that are left: each one takes an octet of the frame at least
  induction fuel generalizing encProcessed with
  | zero => exact absurd enough (Nat.not_lt_zero _)
  | succ fuel ih =>
    rw [encodeMore]
    by_cases more : encProcessed.toNat < frame.1.length
    · obtain ⟨octet, len, call, sent⟩ := packetize_sent frame isKeyframe mtu room more
      have moved : (encProcessed + UInt32.ofNat len).toNat = encProcessed.toNat + len := by
        have inside := sent.inside
        simp only [UInt32.toNat_add, UInt32.toNat_ofNat', Nat.reducePow]
        omega
      have positive := sent.positive
      have inside := sent.inside
      obtain ⟨payloads, rest, rebuilt⟩ := ih (encProcessed + UInt32.ofNat len) (by omega)
      have long : ((frame.1.drop encProcessed.toNat).take len).length = len := by
        rw [List.length_take, List.length_drop]
        omega
      rw [if_pos more, call]
      dsimp only
      rw [rest]
      refine ⟨_, rfl, ⟨?_, ?_, ?_⟩⟩
      · refine List.forall_mem_cons.2 ⟨?_, rebuilt.small⟩
        rw [List.length_cons, long]
        exact sent.small
      · exact List.forall_mem_cons.2 ⟨sent.received long, rebuilt.descLen⟩
      · show _ ++ payloads.flatMap (List.drop 1) = _
        rw [rebuilt.frame, moved, ← List.drop_drop]
        exact List.take_append_drop _ _
    · rw [if_neg more]
      exact ⟨[], rfl, ⟨nofun, nofun, (List.drop_eq_nil_of_le (by omega)).symm⟩⟩

/-- A configuration whose payloads have room for an octet of the frame. -/
abbrev SendingCfg := { cfg : Cfg // 2 ≤ cfg.mtu.toNat }

/-- The receiver stays inside of a payload and leaves an octet for the frame, except where the
resolutions of a VP9 scalability structure reach to the end of the payload; it passes over every
well-formed descriptor, and over the sender's, whose payloads put the frame together again. -/
theorem descriptors_contained_iff_and_roundTrip (fmt payload) (desc : Descriptor) (c after)
    (cfg : SendingCfg) (frame isKeyframe spare) :
    (Contained payload.length ((pjmediaVpxUnpacketize fmt payload.length).run payload)
      ↔ (fmt = .vp9 → ¬ OverranBy payload))
    ∧ (pjmediaVpxUnpacketize desc.fmt (desc.octets ++ c :: after).length).run
        (desc.octets ++ c :: after) = .value desc.octets.length
    ∧ ∃ payloads, encodeMore cfg.1 frame isKeyframe (cfg.1.mtu.toNat + spare) (frame.1.length + 1) 0
          = some payloads
        ∧ Rebuilt cfg.1 frame 0 payloads := by
  refine ⟨unpacketize_contained_iff fmt payload, unpacketize_octets desc c after, ?_⟩
  exact encodeMore_rebuilt frame isKeyframe cfg.2 (Nat.le_add_right _ _) _ 0 (by simp)

/-- A structure with the resolutions of one layer, and none of their octets: the descriptor is
said to be of six octets, of three. -/
theorem resolutions_overrun :
    ¬ Contained 3 ((pjmediaVpxUnpacketize .vp9 3).run [0x02, 0x10, 0]) := by
  rintro ⟨-, bounds⟩
  exact absurd (bounds 6 rfl).2 (by decide)

end Pjsip.PjmediaCodec.Vpx
