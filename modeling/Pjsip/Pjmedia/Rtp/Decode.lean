import Pjsip.Base.Octets

/-!
# RTP packets

The length of a packet is an `int`, far from whose bound the offsets stay. A pointer into the packet
is its index there, and `none` is a null pointer.
-/

namespace Pjsip.Pjmedia.Rtp

open Pjsip.Base

inductive RtpError where
  | einver | einlen
  deriving DecidableEq, Repr

/-- `pjmedia_rtp_dec_hdr`, and the payload. -/
structure RtpDecoded where
  extHdr : Option Nat
  ext : Option Nat
  extLen : Nat
  payload : Option Nat
  payloadlen : Nat
  deriving DecidableEq, Repr

/-- The end of `pjmedia_rtp_decode_rtp2`: the payload from an offset on, and its padding. -/
def decodePayload (pkt : List UInt8) (p : Bool) (dec : RtpDecoded) (offset : Nat) :
    Except RtpError RtpDecoded :=
  if offset > pkt.length then .error .einlen
  else
    let payload := if offset = pkt.length then none else some offset
    let payloadlen := pkt.length - offset
    let padLen := (pkt.getD (offset + payloadlen - 1) 0).toNat
    let payloadlen :=
      if p ∧ payloadlen > 0 ∧ padLen ≤ payloadlen then payloadlen - padLen else payloadlen
    .ok { dec with payload := payload, payloadlen := payloadlen }

/-- `pjmedia_rtp_decode_rtp2` -/
def pjmediaRtpDecodeRtp2 (pkt : List UInt8) : Except RtpError RtpDecoded :=
  let hdr := (pkt.headD 0).toNat
  let p : Bool := hdr / 32 % 2 = 1
  if hdr / 64 ≠ 2 then .error .einver
  else
    let offset := 12 + hdr % 16 * 4
    if hdr / 16 % 2 = 1 then
      if offset + 4 > pkt.length then .error .einlen
      else
        let extLen := (value16 ((pkt.drop (offset + 2)).take 2)).toNat
        decodePayload pkt p ⟨some offset, some (offset + 4), extLen, none, 0⟩
          (offset + (extLen + 1) * 4)
    else decodePayload pkt p ⟨none, none, 0, none, 0⟩ offset

/-! ## Packets -/

structure RtpExtension where
  profile : Octets 2
  count : UInt16
  words : Octets (count.toNat * 4)

/-- The octets before the last one of a padding. -/
structure RtpPadding where
  before : List UInt8
  few : before.length < 255

/-- What a packet is assembled from; `rest` is the fixed header but for its first octet. -/
structure RtpParts where
  cc : Fin 16
  rest : Octets 11
  csrc : Octets (cc.1 * 4)
  ext : Option RtpExtension
  payload : List UInt8
  padding : Option RtpPadding

def RtpExtension.octets (ext : RtpExtension) : List UInt8 :=
  ext.profile.1 ++ put16 ext.count ++ ext.words.1

/-- The last octet counts them all. -/
def RtpPadding.octets (padding : RtpPadding) : List UInt8 :=
  padding.before ++ [UInt8.ofNat (padding.before.length + 1)]

/-- The header with its sources, in version 2. -/
def RtpParts.header (parts : RtpParts) : List UInt8 :=
  UInt8.ofNat (128 + parts.padding.isSome.toNat * 32 + parts.ext.isSome.toNat * 16 + parts.cc) ::
    parts.rest.1 ++ parts.csrc.1

def RtpParts.octets (parts : RtpParts) : List UInt8 :=
  parts.header ++ (parts.ext.elim [] RtpExtension.octets) ++
    (parts.payload ++ parts.padding.elim [] RtpPadding.octets)

/-- The octets of a packet from a pointer on. -/
def sliceAt (pkt : List UInt8) (ptr : Option Nat) (n : Nat) : List UInt8 :=
  ptr.elim [] fun i => (pkt.drop i).take n

/-- A slice is in the packet, and is empty where its pointer is null. -/
def SliceInside (pkt : List UInt8) (ptr : Option Nat) (n : Nat) : Prop :=
  (sliceAt pkt ptr n).length = n

/-- Both slices are in the packet. -/
def RtpDecoded.Inside (d : RtpDecoded) (pkt : List UInt8) : Prop :=
  SliceInside pkt d.ext (d.extLen * 4) ∧ SliceInside pkt d.payload d.payloadlen

/-- The extension and the payload are those of the parts. -/
def RtpDecoded.Holds (d : RtpDecoded) (parts : RtpParts) : Prop :=
  d.ext = d.extHdr.map (· + 4) ∧ d.ext.isSome = parts.ext.isSome ∧
    sliceAt parts.octets d.extHdr (4 + d.extLen * 4) = parts.ext.elim [] RtpExtension.octets ∧
    sliceAt parts.octets d.payload d.payloadlen = parts.payload

/-! ## Every packet -/

variable {pkt : List UInt8}

theorem sliceInside_some {i n : Nat} (inside : i + n ≤ pkt.length) :
    SliceInside pkt (some i) n := by
  show ((pkt.drop i).take n).length = n
  rw [List.length_take, List.length_drop]
  omega

theorem decodePayload_inside {p : Bool} {dec d : RtpDecoded} {offset : Nat}
    (decoded : decodePayload pkt p dec offset = .ok d) :
    offset ≤ pkt.length ∧ d.ext = dec.ext ∧ d.extLen = dec.extLen ∧
      SliceInside pkt d.payload d.payloadlen := by
  unfold decodePayload at decoded
  split at decoded
  · cases decoded
  · rename_i inside
    cases decoded
    refine ⟨by omega, rfl, rfl, ?_⟩
    simp only
    by_cases ends : offset = pkt.length
    · rw [if_pos ends, if_neg (by omega)]
      show 0 = _
      omega
    · rw [if_neg ends]
      apply sliceInside_some
      split
      · omega
      · omega

theorem decode_inside {d : RtpDecoded}
    (decoded : pjmediaRtpDecodeRtp2 pkt = .ok d) : d.Inside pkt := by
  unfold pjmediaRtpDecodeRtp2 at decoded
  simp only at decoded
  split at decoded
  · cases decoded
  · split at decoded
    · split at decoded
      · cases decoded
      · obtain ⟨inside, ext, extLen, payload⟩ := decodePayload_inside decoded
        refine ⟨?_, payload⟩
        rw [ext, extLen]
        apply sliceInside_some
        simp only
        omega
    · obtain ⟨-, ext, extLen, payload⟩ := decodePayload_inside decoded
      refine ⟨?_, payload⟩
      rw [ext, extLen]
      rfl

/-! ## An assembled packet -/

theorem decodePayload_parts (front payload : List UInt8) (padding : Option RtpPadding)
    (dec : RtpDecoded) :
    ∃ ptr, decodePayload (front ++ (payload ++ padding.elim [] RtpPadding.octets)) padding.isSome
        dec front.length = .ok { dec with payload := ptr, payloadlen := payload.length } ∧
      sliceAt (front ++ (payload ++ padding.elim [] RtpPadding.octets)) ptr payload.length =
        payload := by
  have found : ∀ tail : List UInt8,
      sliceAt (front ++ (payload ++ tail)) (some front.length) payload.length = payload := by
    intro tail
    show (List.drop front.length (front ++ (payload ++ tail))).take payload.length = _
    rw [List.drop_left, List.take_left]
  cases padding with
  | none =>
    refine ⟨if front.length = (front ++ (payload ++ [])).length then none else some front.length,
      ?_, ?_⟩
    · simp [decodePayload]
    · split
      · rename_i ends
        simp only [List.append_nil, List.length_append] at ends
        have empty : payload = [] := List.length_eq_zero_iff.1 (by omega)
        rw [empty]
        rfl
      · exact found []
  | some padding =>
    obtain ⟨before, few⟩ := padding
    refine ⟨some front.length, ?_, found _⟩
    have text : front ++ (payload ++ (before ++ [UInt8.ofNat (before.length + 1)])) =
        (front ++ payload ++ before) ++ [UInt8.ofNat (before.length + 1)] := by simp
    have size : (front ++ payload ++ before).length =
        front.length + payload.length + before.length := by
      rw [List.length_append, List.length_append]
    have last : (((front ++ payload ++ before) ++ [UInt8.ofNat (before.length + 1)]).getD
        (front.length + payload.length + before.length) 0).toNat = before.length + 1 := by
      rw [← size, List.getD_append_right _ _ _ _ (Nat.le_refl _), Nat.sub_self]
      show (before.length + 1) % 2 ^ 8 = _
      omega
    show decodePayload (front ++ (payload ++ (before ++ [_]))) true dec front.length = _
    rw [text, decodePayload, List.length_append, size]
    simp only [List.length_singleton]
    rw [if_neg (by omega), if_neg (by omega),
      show front.length + (front.length + payload.length + before.length + 1 - front.length) - 1 =
        front.length + payload.length + before.length by omega, last,
      if_pos ⟨trivial, by omega, by omega⟩]
    have left : front.length + payload.length + before.length + 1 - front.length -
        (before.length + 1) = payload.length := by omega
    rw [left]

theorem header_length (parts : RtpParts) : parts.header.length = 12 + parts.cc.1 * 4 := by
  obtain ⟨cc, ⟨rest, restLength⟩, ⟨csrc, csrcLength⟩, -⟩ := parts
  show (rest ++ csrc).length + 1 = 12 + cc.1 * 4
  rw [List.length_append, restLength, csrcLength]
  omega

theorem first_octet (parts : RtpParts) :
    (parts.octets.headD 0).toNat / 64 = 2 ∧ (parts.octets.headD 0).toNat % 16 = parts.cc ∧
      decide ((parts.octets.headD 0).toNat / 32 % 2 = 1) = parts.padding.isSome ∧
      ((parts.octets.headD 0).toNat / 16 % 2 = 1 ↔ parts.ext.isSome = true) := by
  have first : (parts.octets.headD 0).toNat =
      128 + parts.padding.isSome.toNat * 32 + parts.ext.isSome.toNat * 16 + parts.cc := by
    have bit := Bool.toNat_le parts.padding.isSome
    have bit' := Bool.toNat_le parts.ext.isSome
    show (128 + parts.padding.isSome.toNat * 32 + parts.ext.isSome.toNat * 16 +
      parts.cc) % 2 ^ 8 = _
    omega
  rw [first]
  cases parts.padding.isSome <;> cases parts.ext.isSome <;>
    simp only [Bool.toNat_false, Bool.toNat_true, decide_eq_true_eq, decide_eq_false_iff_not,
      Bool.false_eq_true, iff_true, iff_false] <;> omega

theorem decode_parts (parts : RtpParts) :
    ∃ d, pjmediaRtpDecodeRtp2 parts.octets = .ok d ∧ d.Holds parts := by
  have length := header_length parts
  obtain ⟨version, cc, padded, extended⟩ := first_octet parts
  unfold pjmediaRtpDecodeRtp2
  simp only [version, cc, padded, extended, ne_eq, not_true_eq_false, if_false]
  have octets : parts.octets = parts.header ++ (parts.ext.elim [] RtpExtension.octets) ++
    (parts.payload ++ parts.padding.elim [] RtpPadding.octets) := rfl
  cases ext : parts.ext with
  | none =>
    rw [ext, Option.elim_none, List.append_nil] at octets
    obtain ⟨ptr, decoded, slice⟩ := decodePayload_parts parts.header parts.payload parts.padding
      ⟨none, none, 0, none, 0⟩
    rw [← octets] at decoded slice
    rw [length] at decoded
    refine ⟨_, decoded, rfl, ?_, ?_, slice⟩
    · rw [ext]
      rfl
    · rw [ext]
      rfl
  | some e =>
    rw [ext, Option.elim_some] at octets
    have size : e.octets.length = 4 + e.count.toNat * 4 := by
      simp only [RtpExtension.octets, List.length_append, e.profile.2, e.words.2, put16_length]
    have count : (parts.octets.drop (12 + parts.cc.1 * 4 + 2)).take 2 = put16 e.count := by
      have front : 12 + parts.cc.1 * 4 + 2 = (parts.header ++ e.profile.1).length := by
        rw [List.length_append, length, e.profile.2]
      have text : parts.octets = (parts.header ++ e.profile.1) ++ (put16 e.count ++
          (e.words.1 ++ (parts.payload ++ parts.padding.elim [] RtpPadding.octets))) := by
        simp [octets, RtpExtension.octets]
      rw [front, text, List.drop_left]
      exact List.take_left' (put16_length e.count)
    have room : ¬ 12 + parts.cc.1 * 4 + 4 > parts.octets.length := by
      rw [octets, List.length_append, List.length_append, length, size]
      omega
    obtain ⟨ptr, decoded, slice⟩ := decodePayload_parts (parts.header ++ e.octets) parts.payload
      parts.padding ⟨some (12 + parts.cc.1 * 4), some (12 + parts.cc.1 * 4 + 4), e.count.toNat,
        none, 0⟩
    have offset : (parts.header ++ e.octets).length =
        12 + parts.cc.1 * 4 + (e.count.toNat + 1) * 4 := by
      rw [List.length_append, length, size]
      omega
    rw [← octets] at decoded slice
    rw [offset] at decoded
    simp only [Option.isSome_some, if_true, if_neg room, count, value16_put16]
    refine ⟨_, decoded, rfl, ?_, ?_, slice⟩
    · rw [ext]
      rfl
    · rw [ext, Option.elim_some, octets]
      show ((parts.header ++ e.octets ++ _).drop (12 + parts.cc.1 * 4)).take
        (4 + e.count.toNat * 4) = _
      rw [List.append_assoc, ← length, List.drop_left, ← size, List.take_left]

/-- What is decoded lies in the packet, and a packet comes apart into what it was assembled from. -/
theorem rtp_decode (pkt : List UInt8) (parts : RtpParts) :
    (∀ d, pjmediaRtpDecodeRtp2 pkt = .ok d → d.Inside pkt) ∧
      ∃ d, pjmediaRtpDecodeRtp2 parts.octets = .ok d ∧ d.Holds parts :=
  ⟨fun _ => decode_inside, decode_parts parts⟩

end Pjsip.Pjmedia.Rtp
