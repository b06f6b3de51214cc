import Pjsip.Base.Reader
import Pjsip.Errno

/-!
# VP8 and VP9 payloads

`vpx_packetizer.c`. A payload begins with a descriptor. The receiver does not keep what it says:
it walks over it with one index, `desc_len`, that every field moves on and that is to stay below
the length of the payload. The sender writes descriptors of one octet.
-/

namespace Pjsip.PjmediaCodec.Vpx

open Pjsip.Base Reader

/-- The formats that `pjmedia_vpx_packetizer_create` takes. -/
inductive Format where
  | vp8 | vp9
  deriving DecidableEq, Repr

/-! ## Descriptors received -/

abbrev DescReader := Reader CodecStatus

/-- `INC_DESC_LEN` -/
def incDescLen (payloadLen descLen : Nat) : DescReader Nat :=
  if payloadLen ≤ descLen + 1 then fail .etoosmall else return descLen + 1

def incIf (c : Prop) [Decidable c] (payloadLen descLen : Nat) : DescReader Nat :=
  if c then incDescLen payloadLen descLen else return descLen

/-- A picture ID at the index: one octet, or two where its first bit is set. -/
def pictureId (payloadLen descLen : Nat) : DescReader Nat := do
  let next ← incDescLen payloadLen descLen
  let q ← octet descLen
  incIf (q &&& 0x80 ≠ 0) payloadLen next

/-- I: picture ID present. -/
def pictureIdIf (i : Prop) [Decidable i] (payloadLen descLen : Nat) : DescReader Nat :=
  if i then pictureId payloadLen descLen else return descLen

/-- The VP8 part of `pjmedia_vpx_unpacketize`. -/
def vp8DescLen (payloadLen : Nat) : DescReader Nat := do
  let p0 ← octet 0
  if p0 &&& 0x80 ≠ 0 then do
    let descLen ← incDescLen payloadLen 1
    let p1 ← octet 1
    let descLen ← pictureIdIf (p1 &&& 0x80 ≠ 0) payloadLen descLen
    let descLen ← incIf (p1 &&& 0x40 ≠ 0) payloadLen descLen
    incIf (p1 &&& 0x20 ≠ 0 ∨ p1 &&& 0x10 ≠ 0) payloadLen descLen
  else return 1

/-- L: layer indices present. -/
def vp9Layers (payloadLen : Nat) (p0 : UInt8) (descLen : Nat) : DescReader Nat :=
  if p0 &&& 0x20 ≠ 0 then do
    let descLen ← incDescLen payloadLen descLen
    incIf (p0 &&& 0x10 = 0) payloadLen descLen
  else return descLen

/-- F: flexible mode, up to three reference indices. -/
def vp9References (payloadLen : Nat) (p0 : UInt8) (descLen : Nat) : DescReader Nat :=
  if p0 &&& 0x10 ≠ 0 ∧ p0 &&& 0x80 ≠ 0 ∧ p0 &&& 0x40 ≠ 0 then do
    let q := descLen
    let descLen ← incDescLen payloadLen descLen
    let q0 ← octet q
    if q0 &&& 0x1 ≠ 0 then do
      let descLen ← incDescLen payloadLen descLen
      let q1 ← octet (q + 1)
      incIf (q1 &&& 0x1 ≠ 0) payloadLen descLen
    else return descLen
  else return descLen

/-- What comes before the scalability structure. -/
def vp9Fixed (payloadLen : Nat) (p0 : UInt8) : DescReader Nat := do
  let descLen ← pictureIdIf (p0 &&& 0x80 ≠ 0) payloadLen 1
  let descLen ← vp9Layers payloadLen p0 descLen
  vp9References payloadLen p0 descLen

/-- A picture of a picture group, with its reference indices. -/
def vp9GroupPicture (payloadLen descLen : Nat) : DescReader Nat := do
  let next ← incDescLen payloadLen descLen
  let q ← octet descLen
  let r := ((q &&& 0x0F) >>> 2).toNat
  if payloadLen ≤ next + r then fail .etoosmall else return next + r

/-- The loop over the pictures of a picture group. -/
def vp9Group (payloadLen : Nat) : (pictures : Nat) → (descLen : Nat) → DescReader Nat
  | 0, descLen => return descLen
  | pictures + 1, descLen => do
      let descLen ← vp9GroupPicture payloadLen descLen
      vp9Group payloadLen pictures descLen

/-- V: scalability structure present. -/
def vp9Scalability (payloadLen : Nat) (p0 : UInt8) (descLen : Nat) : DescReader Nat :=
  if p0 &&& 0x2 ≠ 0 then do
    let q ← octet descLen
    let nS := (q >>> 5).toNat + 1
    let descLen ← incDescLen payloadLen descLen
    -- the resolutions are passed over without a look at the length
    let descLen := if q &&& 0x10 ≠ 0 then descLen + nS * 4 else descLen
    if q &&& 0x8 ≠ 0 then do
      let nG ← octet descLen
      let descLen ← incDescLen payloadLen descLen
      vp9Group payloadLen nG.toNat descLen
    else return descLen
  else return descLen

/-- `pjmedia_vpx_unpacketize`: the length of the descriptor. -/
def pjmediaVpxUnpacketize (fmt : Format) (payloadLen : Nat) : DescReader Nat :=
  if payloadLen ≤ 1 then fail .etoosmall
  else match fmt with
    | .vp8 => vp8DescLen payloadLen
    | .vp9 => do
        let p0 ← octet 0
        let descLen ← vp9Fixed payloadLen p0
        vp9Scalability payloadLen p0 descLen

/-! ## Payloads sent -/

/-- `pjmedia_vpx_packetizer_cfg` -/
structure Cfg where
  fmtId : Format
  mtu : UInt32
  deriving DecidableEq, Repr

/-- `pjmedia_vpx_packetize`: the octet of the descriptor, and how many octets of the frame are to
follow it. -/
def pjmediaVpxPacketize (cfg : Cfg) (bitsLen : Nat) (bitsPos : UInt32) (isKeyframe : Bool)
    (outSize : Nat) : Except CodecStatus (UInt8 × Nat) :=
  let maxSize := cfg.mtu - 1
  let remainingSize := UInt32.ofNat bitsLen - bitsPos
  let payloadLen := (if remainingSize < maxSize then remainingSize else maxSize).toNat
  if outSize < payloadLen + 1 then .error .efrmtooshort
  else
    let desc := match cfg.fmtId with
      | .vp8 => (if isKeyframe then 0 else 0x20) ||| (if bitsPos = 0 then 0x10 else 0)
      | .vp9 => (if isKeyframe then 0 else 0x40) ||| (if bitsPos = 0 then 0x8 else 0)
          ||| (if bitsPos.toNat + payloadLen = bitsLen then 0x4 else 0)
    .ok (desc, payloadLen)

/-- A frame whose octets `bits_pos` can count. -/
abbrev Frame := { bits : List UInt8 // bits.length < 2 ^ 32 }

/-- The loop over `vpx_codec_encode_more`: the payloads of a frame from a position on, if none of
the calls fails and there are no more of them than `fuel`. -/
def encodeMore (cfg : Cfg) (frame : Frame) (isKeyframe : Bool) (outSize : Nat) :
    (fuel : Nat) → (encProcessed : UInt32) → Option (List (List UInt8))
  | 0, _ => none
  | fuel + 1, encProcessed =>
    if encProcessed.toNat < frame.1.length then
      match pjmediaVpxPacketize cfg frame.1.length encProcessed isKeyframe outSize with
      | .error _ => none
      | .ok (desc, payloadLen) =>
        (encodeMore cfg frame isKeyframe outSize fuel (encProcessed + UInt32.ofNat payloadLen)).map
            ((desc :: (frame.1.drop encProcessed.toNat).take payloadLen) :: ·)
    else some []

end Pjsip.PjmediaCodec.Vpx

/-!
# What a received descriptor can make of the index

Every field of a descriptor but one moves the index on with a look at the length of the payload.
The resolutions of a VP9 scalability structure do not.
-/

namespace Pjsip.PjmediaCodec.Vpx

open Pjsip.Base Reader

/-- Run on a payload of `n` octets from an index on, it looks at no others, and leaves an index
that is not behind the payload. -/
def Advances (n descLen : Nat) (r : DescReader Nat) : Prop :=
  ∀ buf : List UInt8, buf.length = n →
    r.run buf ≠ .outside ∧ ∀ next, r.run buf = .value next → descLen ≤ next ∧ next < n

variable {next : Nat → DescReader Nat} {r : DescReader Nat}

section Advances

variable {n descLen : Nat}

theorem advances_return (inside : descLen < n) : Advances n descLen (return descLen) := by
  intro buf long
  refine ⟨nofun, ?_⟩
  rintro _ ⟨⟩
  exact ⟨Nat.le_refl _, inside⟩

theorem advances_fail (status : CodecStatus) : Advances n descLen (fail status) := by
  intro buf long
  exact ⟨nofun, nofun⟩

theorem Advances.weaken {next : Nat} (moves : Advances n next r)
    (on : descLen ≤ next) : Advances n descLen r := by
  intro buf long
  obtain ⟨inside, bounds⟩ := moves buf long
  exact ⟨inside, fun last read => ⟨on.trans (bounds last read).1, (bounds last read).2⟩⟩

theorem Advances.bind
    (first : Advances n descLen r)
    (then_ : ∀ d, descLen ≤ d → d < n → Advances n d (next d)) :
    Advances n descLen (r >>= next) := by
  intro buf long
  obtain ⟨inside, bounds⟩ := first buf long
  rw [run_bind]
  cases read : r.run buf with
  | value d =>
    obtain ⟨after, below⟩ := bounds d read
    exact ((then_ d after below).weaken after) buf long
  | error status => exact ⟨nofun, nofun⟩
  | outside => exact absurd read inside

theorem advances_octet {pos : Nat} {next : UInt8 → DescReader Nat} (fits : pos < n)
    (then_ : ∀ q, Advances n descLen (next q)) : Advances n descLen (octet pos >>= next) := by
  intro buf long
  obtain ⟨q, read⟩ : ∃ q, (octet pos : DescReader UInt8).run buf = .value q :=
    octet_inside (by omega)
  rw [run_bind, read]
  exact then_ q buf long

theorem advances_ite {c : Prop} [Decidable c] {r r' : DescReader Nat} (yes : Advances n descLen r)
    (no : Advances n descLen r') : Advances n descLen (if c then r else r') :=
  iteInduction (fun _ => yes) fun _ => no

theorem advances_inc : Advances n descLen (incDescLen n descLen) := by
  unfold incDescLen
  split
  · exact advances_fail _
  · next room => exact (advances_return (by omega)).weaken (Nat.le_succ _)

theorem advances_inc_bind
    (then_ : descLen + 1 < n → Advances n (descLen + 1) (next (descLen + 1))) :
    Advances n descLen (incDescLen n descLen >>= next) := by
  unfold incDescLen
  split
  · exact advances_fail _
  · next room => exact (then_ (by omega)).weaken (Nat.le_succ _)

theorem advances_incIf (c : Prop) [Decidable c] (inside : descLen < n) :
    Advances n descLen (incIf c n descLen) :=
  advances_ite advances_inc (advances_return inside)

theorem advances_pictureId (inside : descLen < n) : Advances n descLen (pictureId n descLen) := by
  refine advances_inc_bind fun below => ?_
  exact advances_octet inside fun q => advances_incIf _ below

theorem advances_pictureIdIf (i : Prop) [Decidable i] (inside : descLen < n) :
    Advances n descLen (pictureIdIf i n descLen) :=
  advances_ite (advances_pictureId inside) (advances_return inside)

end Advances

theorem advances_vp8 {n : Nat} (two : 1 < n) : Advances n 1 (vp8DescLen n) := by
  refine advances_octet (by omega) fun p0 => advances_ite ?_ (advances_return two)
  refine advances_inc_bind fun below => advances_octet two fun p1 => ?_
  refine (advances_pictureIdIf _ below).bind fun _ _ below => ?_
  refine (advances_incIf _ below).bind fun _ _ below => ?_
  exact advances_incIf _ below

/-! ## The scalability structure -/

theorem advances_groupPicture {n descLen : Nat} (inside : descLen < n) :
    Advances n descLen (vp9GroupPicture n descLen) := by
  refine advances_inc_bind fun below => advances_octet inside fun q => ?_
  show Advances n (descLen + 1) (if n ≤ descLen + 1 + _ then _ else _)
  split
  · exact advances_fail _
  · next room => exact (advances_return (by omega)).weaken (Nat.le_add_right _ _)

theorem advances_group {n : Nat} (pictures : Nat) {descLen : Nat} (inside : descLen < n) :
    Advances n descLen (vp9Group n pictures descLen) := by
  induction pictures generalizing descLen with
  | zero => exact advances_return inside
  | succ pictures ih => exact (advances_groupPicture inside).bind fun _ _ below => ih below

/-- The resolutions are present, and reach to the end of the payload or behind it. -/
def ResolutionsBeyond (n : Nat) (p0 q : UInt8) (descLen : Nat) : Prop :=
  p0 &&& 0x2 ≠ 0 ∧ q &&& 0x10 ≠ 0 ∧ descLen + 1 < n ∧ n ≤ descLen + 1 + ((q >>> 5).toNat + 1) * 4

/-- It is read inside of the payload, and an error is returned, or a length that leaves an octet
for the frame. -/
def Contained (n : Nat) (result : Read CodecStatus Nat) : Prop :=
  result ≠ .outside ∧ ∀ descLen, result = .value descLen → 1 ≤ descLen ∧ descLen < n

theorem scalability_contained_iff {buf : List UInt8} {p0 q : UInt8} {descLen : Nat}
    (positive : 1 ≤ descLen) (there : buf[descLen]? = some q) :
    Contained buf.length ((vp9Scalability buf.length p0 descLen).run buf)
      ↔ ¬ ResolutionsBeyond buf.length p0 q descLen := by
  obtain ⟨inside, -⟩ := List.getElem?_eq_some_iff.1 there
  have contained {r : DescReader Nat} {d : Nat} (after : 1 ≤ d)
      (moves : Advances buf.length d r) : Contained buf.length (r.run buf) := by
    obtain ⟨inside, bounds⟩ := moves buf rfl
    exact ⟨inside, fun next read => ⟨after.trans (bounds next read).1, (bounds next read).2⟩⟩
  unfold vp9Scalability
  by_cases v : p0 &&& 0x2 ≠ 0
  · rw [if_pos v, run_bind, octet_value.2 there, bind_value, run_bind]
    by_cases room : buf.length ≤ descLen + 1
    · rw [incDescLen, if_pos room, run_fail, bind_error]
      exact iff_of_true ⟨nofun, nofun⟩ fun beyond => absurd beyond.2.2.1 (by omega)
    · rw [incDescLen, if_neg room, run_pure, bind_value]
      generalize at_ : (if q &&& 0x10 ≠ 0 then descLen + 1 + ((q >>> 5).toNat + 1) * 4
        else descLen + 1) = d
      by_cases below : d < buf.length
      · have fine : ¬ ResolutionsBeyond buf.length p0 q descLen := by
          rintro ⟨-, y, -, beyond⟩
          rw [if_pos y] at at_
          omega
        have after : 1 ≤ d := by
          rw [← at_]
          split <;> omega
        refine iff_of_true (contained after (advances_ite ?_ (advances_return below))) fine
        refine advances_octet below fun nG => ?_
        exact advances_inc_bind fun below => advances_group _ below
      · have beyond : ResolutionsBeyond buf.length p0 q descLen := by
          by_cases y : q &&& 0x10 ≠ 0
          · rw [if_pos y] at at_
            exact ⟨v, y, by omega, by omega⟩
          · rw [if_neg y] at at_
            omega
        refine iff_of_false ?_ fun fine => fine beyond
        rintro ⟨inside, bounds⟩
        by_cases g : q &&& 0x8 ≠ 0
        · rw [if_pos g, bind_ne_outside, octet_ne_outside] at inside
          exact below inside.1
        · rw [if_neg g] at bounds
          exact below (bounds d rfl).2
  · rw [if_neg v]
    refine iff_of_true (contained positive (advances_return inside)) fun beyond => v beyond.1

/-! ## Where the structure begins -/

/-- The index behind a picture ID. -/
def pictureIdEnd (payload : List UInt8) (p0 : UInt8) (descLen : Nat) : Nat :=
  if p0 &&& 0x80 ≠ 0 then
    if payload.getD descLen 0 &&& 0x80 ≠ 0 then descLen + 2 else descLen + 1
  else descLen

/-- The index behind the layer indices. -/
def layersEnd (p0 : UInt8) (descLen : Nat) : Nat :=
  if p0 &&& 0x20 ≠ 0 then if p0 &&& 0x10 = 0 then descLen + 2 else descLen + 1 else descLen

/-- The index behind the reference indices. -/
def referencesEnd (payload : List UInt8) (p0 : UInt8) (descLen : Nat) : Nat :=
  if p0 &&& 0x10 ≠ 0 ∧ p0 &&& 0x80 ≠ 0 ∧ p0 &&& 0x40 ≠ 0 then
    if payload.getD descLen 0 &&& 0x1 ≠ 0 then
      if payload.getD (descLen + 1) 0 &&& 0x1 ≠ 0 then descLen + 3 else descLen + 2
    else descLen + 1
  else descLen

/-- The index of the scalability structure, as the flags of the fields before it tell. -/
def structureIndex (payload : List UInt8) (p0 : UInt8) : Nat :=
  referencesEnd payload p0 (layersEnd p0 (pictureIdEnd payload p0 1))

theorem le_pictureIdEnd {payload : List UInt8} {p0 : UInt8} {descLen : Nat} :
    descLen ≤ pictureIdEnd payload p0 descLen := by
  unfold pictureIdEnd
  split
  · split <;> omega
  · exact Nat.le_refl _

theorem le_layersEnd {p0 : UInt8} {descLen : Nat} : descLen ≤ layersEnd p0 descLen := by
  unfold layersEnd
  split
  · split <;> omega
  · exact Nat.le_refl _

theorem le_referencesEnd {payload : List UInt8} {p0 : UInt8} {descLen : Nat} :
    descLen ≤ referencesEnd payload p0 descLen := by
  unfold referencesEnd
  split
  · split
    · split <;> omega
    · omega
  · exact Nat.le_refl _

/-- The reader finds this index, if it is inside of the payload. -/
def Finds (payload : List UInt8) (index : Nat) (r : DescReader Nat) : Prop :=
  r.run payload = if index < payload.length then .value index else .error .etoosmall

section Finds

variable {payload : List UInt8} {descLen index : Nat}

theorem finds_return (inside : index < payload.length) : Finds payload index (return index) := by
  show Read.value index = _
  rw [if_pos inside]

theorem finds_inc : Finds payload (descLen + 1) (incDescLen payload.length descLen) := by
  unfold Finds incDescLen
  split
  · next short => rw [if_neg (by omega), run_fail]
  · next room => rw [if_pos (by omega), run_pure]

theorem Finds.bind (first : Finds payload descLen r)
    (after : descLen ≤ index) (then_ : descLen < payload.length → Finds payload index (next descLen)) :
    Finds payload index (r >>= next) := by
  unfold Finds at first ⊢
  rw [run_bind, first]
  by_cases inside : descLen < payload.length
  · rw [if_pos inside, bind_value]
    exact then_ inside
  · rw [if_neg inside, bind_error, if_neg (by omega)]

theorem finds_octet {next : UInt8 → DescReader Nat} (inside : descLen < payload.length)
    (then_ : Finds payload index (next (payload.getD descLen 0))) :
    Finds payload index (octet descLen >>= next) := by
  have read : (octet descLen : DescReader UInt8).run payload = .value (payload.getD descLen 0) := by
    refine octet_value.2 ?_
    rw [List.getD_eq_getElem _ _ inside]
    exact List.getElem?_eq_getElem inside
  unfold Finds
  rw [run_bind, read]
  exact then_

theorem finds_ite {c : Prop} [Decidable c] {yes no : Nat} {r r' : DescReader Nat}
    (then_ : c → Finds payload yes r) (else_ : ¬ c → Finds payload no r') :
    Finds payload (if c then yes else no) (if c then r else r') := by
  by_cases h : c
  · rw [if_pos h, if_pos h]
    exact then_ h
  · rw [if_neg h, if_neg h]
    exact else_ h

theorem finds_incIf (c : Prop) [Decidable c] (inside : descLen < payload.length) :
    Finds payload (if c then descLen + 1 else descLen) (incIf c payload.length descLen) :=
  finds_ite (fun _ => finds_inc) (fun _ => finds_return inside)

end Finds

theorem finds_pictureId {payload : List UInt8} (p0 : UInt8) {descLen : Nat}
    (inside : descLen < payload.length) : Finds payload (pictureIdEnd payload p0 descLen)
      (pictureIdIf (p0 &&& 0x80 ≠ 0) payload.length descLen) := by
  refine finds_ite (fun _ => ?_) fun _ => finds_return inside
  refine finds_inc.bind (by split <;> omega) fun below => finds_octet inside ?_
  exact finds_incIf _ below

theorem finds_layers {payload : List UInt8} (p0 : UInt8) {descLen : Nat}
    (inside : descLen < payload.length) :
    Finds payload (layersEnd p0 descLen) (vp9Layers payload.length p0 descLen) := by
  refine finds_ite (fun _ => ?_) fun _ => finds_return inside
  exact finds_inc.bind (by split <;> omega) fun below => finds_incIf _ below

theorem finds_references {payload : List UInt8} (p0 : UInt8) {descLen : Nat}
    (inside : descLen < payload.length) : Finds payload (referencesEnd payload p0 descLen)
      (vp9References payload.length p0 descLen) := by
  refine finds_ite (fun _ => ?_) fun _ => finds_return inside
  refine finds_inc.bind ?_ fun one => finds_octet inside (finds_ite (fun _ => ?_) fun _ => ?_)
  · split
    · split <;> omega
    · exact Nat.le_refl _
  · refine finds_inc.bind (by split <;> omega) fun two => finds_octet one ?_
    exact finds_incIf _ two
  · exact finds_return one

theorem finds_structure {payload : List UInt8} (p0 : UInt8) (some : 1 < payload.length) :
    Finds payload (structureIndex payload p0) (vp9Fixed payload.length p0) := by
  refine (finds_pictureId p0 some).bind (le_layersEnd.trans le_referencesEnd) fun below => ?_
  exact (finds_layers p0 below).bind le_referencesEnd fun below => finds_references p0 below

/-- A VP9 payload with a scalability structure whose resolutions reach to the end of it. -/
def OverranBy (payload : List UInt8) : Prop :=
  ∃ p0 q, payload[0]? = some p0 ∧ payload[structureIndex payload p0]? = some q
    ∧ ResolutionsBeyond payload.length p0 q (structureIndex payload p0)

theorem unpacketize_contained_iff (fmt : Format) (payload : List UInt8) :
    Contained payload.length ((pjmediaVpxUnpacketize fmt payload.length).run payload)
      ↔ (fmt = .vp9 → ¬ OverranBy payload) := by
  unfold pjmediaVpxUnpacketize
  by_cases tiny : payload.length ≤ 1
  · rw [if_pos tiny]
    refine iff_of_true ⟨nofun, nofun⟩ ?_
    rintro - ⟨p0, q, -, -, -, -, room, -⟩
    omega
  · rw [if_neg tiny]
    cases fmt with
    | vp8 =>
      obtain ⟨inside, bounds⟩ := advances_vp8 (by omega) payload rfl
      exact iff_of_true ⟨inside, bounds⟩ nofun
    | vp9 =>
      obtain ⟨p0, rest, rfl⟩ := List.exists_cons_of_length_pos (show 0 < payload.length by omega)
      have found : Finds (p0 :: rest) _ _ := finds_structure p0 (by omega)
      have first : (p0 :: rest)[0]? = some p0 := rfl
      have positive : 1 ≤ structureIndex (p0 :: rest) p0 :=
        le_pictureIdEnd.trans (le_layersEnd.trans le_referencesEnd)
      rw [run_bind, octet_value.2 first, bind_value, run_bind, found, imp_iff_right rfl]
      by_cases below : structureIndex (p0 :: rest) p0 < (p0 :: rest).length
      · have there := List.getElem?_eq_getElem below
        rw [if_pos below, bind_value, scalability_contained_iff positive there, not_iff_not]
        constructor
        · exact fun beyond => ⟨p0, _, first, there, beyond⟩
        · rintro ⟨p0', q, first', there', beyond⟩
          cases first'
          rw [there] at there'
          cases there'
          exact beyond
      · rw [if_neg below, bind_error]
        refine iff_of_true ⟨nofun, nofun⟩ ?_
        rintro ⟨p0', q, ⟨⟩, there, -⟩
        exact below (List.getElem?_eq_some_iff.1 there).1

end Pjsip.PjmediaCodec.Vpx
