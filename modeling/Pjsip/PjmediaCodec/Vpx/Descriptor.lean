import Pjsip.PjmediaCodec.Vpx.Packetizer

/-!
# Well-formed descriptors

The descriptors of the two payload formats, field by field, and the octets that they take. The
receiver passes over exactly these octets. The sender's descriptors are among them, and its
payloads put the frame together again.
-/

namespace Pjsip.PjmediaCodec.Vpx

open Pjsip.Base Reader

/-- An octet of eight bits, the first one the most significant. -/
def bitsOctet (b7 b6 b5 b4 b3 b2 b1 b0 : Bool) : UInt8 :=
  UInt8.ofNat (b7.toNat * 128 + b6.toNat * 64 + b5.toNat * 32 + b4.toNat * 16 + b3.toNat * 8
    + b2.toNat * 4 + b1.toNat * 2 + b0.toNat)

/-- A picture ID of 7 bits, or of 15 bits behind a bit that says so. -/
inductive PictureId where
  | short (id : Fin 128)
  | long (id : Fin 32768)
  deriving DecidableEq

def PictureId.octets : PictureId → List UInt8
  | .short id => [UInt8.ofNat id]
  | .long id => [UInt8.ofNat (128 + id / 256), UInt8.ofNat (id % 256)]

/-! ## VP8 -/

/-- The extended control bits and what they announce. -/
structure Vp8Extension where
  pictureId : Option PictureId
  tl0PicIdx : Option UInt8
  t : Bool
  k : Bool
  tidKeyIdx : UInt8
  rsv : Bool × Bool × Bool × Bool
  deriving DecidableEq

def Vp8Extension.octets (ext : Vp8Extension) : List UInt8 :=
  bitsOctet ext.pictureId.isSome ext.tl0PicIdx.isSome ext.t ext.k ext.rsv.1 ext.rsv.2.1
      ext.rsv.2.2.1 ext.rsv.2.2.2
    :: (ext.pictureId.elim [] PictureId.octets ++ (ext.tl0PicIdx.elim [] ([·])
      ++ if ext.t || ext.k then [ext.tidKeyIdx] else []))

structure Vp8Descriptor where
  extension : Option Vp8Extension
  r : Bool
  n : Bool
  s : Bool
  pid : Bool × Bool × Bool × Bool
  deriving DecidableEq

def Vp8Descriptor.octets (desc : Vp8Descriptor) : List UInt8 :=
  bitsOctet desc.extension.isSome desc.r desc.n desc.s desc.pid.1 desc.pid.2.1 desc.pid.2.2.1
      desc.pid.2.2.2
    :: desc.extension.elim [] Vp8Extension.octets

/-! ## VP9 -/

/-- One to three reference indices of 7 bits, each with a bit that tells whether one follows. -/
inductive References where
  | one (a : Fin 128)
  | two (a b : Fin 128)
  | three (a b c : Fin 128)
  deriving DecidableEq

def References.octets : References → List UInt8
  | .one a => [UInt8.ofNat (2 * a)]
  | .two a b => [UInt8.ofNat (2 * a + 1), UInt8.ofNat (2 * b)]
  | .three a b c => [UInt8.ofNat (2 * a + 1), UInt8.ofNat (2 * b + 1), UInt8.ofNat (2 * c)]

/-- A picture of a picture group: its layer bits and up to three reference indices. -/
structure GroupPicture where
  tidU : Fin 16
  rsv : Fin 4
  diffs : List UInt8
  few : diffs.length < 4
  deriving DecidableEq

def GroupPicture.octets (picture : GroupPicture) : List UInt8 :=
  UInt8.ofNat (picture.tidU * 16 + picture.diffs.length * 4 + picture.rsv) :: picture.diffs

/-- A scalability structure: a resolution for each of `nS + 1` layers, and a picture group. -/
structure Scalability where
  nS : Fin 8
  rsv : Fin 8
  resolutions : Option { layers : List (Octets 4) // layers.length = nS + 1 }
  group : Option { pictures : List GroupPicture // pictures.length < 256 }

def Scalability.octets (ss : Scalability) : List UInt8 :=
  UInt8.ofNat (ss.nS * 32 + ss.resolutions.isSome.toNat * 16 + ss.group.isSome.toNat * 8 + ss.rsv)
    :: (ss.resolutions.elim [] (fun layers => layers.1.flatMap Subtype.val)
      ++ ss.group.elim [] fun pictures =>
        UInt8.ofNat pictures.1.length :: pictures.1.flatMap GroupPicture.octets)

/-- The layer indices; the second octet is there outside of flexible mode. -/
structure LayerIndices where
  indices : UInt8
  tl0PicIdx : UInt8
  deriving DecidableEq

structure Vp9Descriptor where
  pictureId : Option PictureId
  p : Bool
  layers : Option LayerIndices
  flexible : Bool
  references : References
  b : Bool
  e : Bool
  scalability : Option Scalability
  z : Bool
  /-- Flexible mode is for pictures with an ID. -/
  identified : flexible = true → pictureId.isSome = true

def Vp9Descriptor.octets (desc : Vp9Descriptor) : List UInt8 :=
  bitsOctet desc.pictureId.isSome desc.p desc.layers.isSome desc.flexible desc.b desc.e
      desc.scalability.isSome desc.z
    :: (desc.pictureId.elim [] PictureId.octets ++ (desc.layers.elim [] (fun layers =>
          layers.indices :: if desc.flexible then [] else [layers.tl0PicIdx])
        ++ ((if desc.flexible && desc.p then desc.references.octets else [])
          ++ desc.scalability.elim [] Scalability.octets)))

/-- A descriptor of either format. -/
inductive Descriptor where
  | vp8 (desc : Vp8Descriptor)
  | vp9 (desc : Vp9Descriptor)

def Descriptor.fmt : Descriptor → Format
  | .vp8 _ => .vp8
  | .vp9 _ => .vp9

def Descriptor.octets : Descriptor → List UInt8
  | .vp8 desc => desc.octets
  | .vp9 desc => desc.octets

/-! ## Bits -/

theorem bitsOctet_test : ∀ b7 b6 b5 b4 b3 b2 b1 b0 : Bool,
    (bitsOctet b7 b6 b5 b4 b3 b2 b1 b0 &&& 0x80 ≠ 0 ↔ b7 = true)
      ∧ (bitsOctet b7 b6 b5 b4 b3 b2 b1 b0 &&& 0x40 ≠ 0 ↔ b6 = true)
      ∧ (bitsOctet b7 b6 b5 b4 b3 b2 b1 b0 &&& 0x20 ≠ 0 ↔ b5 = true)
      ∧ (bitsOctet b7 b6 b5 b4 b3 b2 b1 b0 &&& 0x10 ≠ 0 ↔ b4 = true)
      ∧ (bitsOctet b7 b6 b5 b4 b3 b2 b1 b0 &&& 0x2 ≠ 0 ↔ b1 = true) := by
  decide +kernel

theorem pictureId_bit (octet : UInt8) : octet &&& 0x80 ≠ 0 ↔ 128 ≤ octet.toNat := by
  have octet_ := octet.toNat_lt
  refine (bit_iff octet (show 7 < 8 by decide)).trans ?_
  omega

theorem reference_bit (octet : UInt8) : octet &&& 0x1 ≠ 0 ↔ octet.toNat % 2 = 1 := by
  refine (bit_iff octet (show 0 < 8 by decide)).trans ?_
  omega

theorem group_bits (octet : UInt8) : ((octet &&& 0x0F) >>> 2).toNat = octet.toNat / 4 % 4 := by
  show (octet.toNat &&& 2 ^ 4 - 1) >>> 2 = _
  rw [Nat.and_two_pow_sub_one_eq_mod, Nat.shiftRight_eq_div_pow]
  omega

theorem scalability_bits (octet : UInt8) :
    (octet >>> 5).toNat = octet.toNat / 32 ∧ (octet &&& 0x10 ≠ 0 ↔ octet.toNat / 16 % 2 = 1)
      ∧ (octet &&& 0x8 ≠ 0 ↔ octet.toNat / 8 % 2 = 1) := by
  refine ⟨?_, bit_iff octet (show 4 < 8 by decide), bit_iff octet (show 3 < 8 by decide)⟩
  exact Nat.shiftRight_eq_div_pow _ 5

/-! ## Passing over fields -/

/-- From an index on, the reader passes over these octets when more follow. -/
def Passes (r : Nat → Nat → DescReader Nat) (part : List UInt8) : Prop :=
  ∀ (before : List UInt8) (c : UInt8) (after : List UInt8),
    (r (before ++ (part ++ c :: after)).length before.length).run (before ++ (part ++ c :: after))
      = .value (before.length + part.length)

theorem inc_return {n descLen : Nat} (room : descLen + 1 < n) :
    incDescLen n descLen = return descLen + 1 :=
  if_neg (Nat.not_le.2 room)

theorem passes_return : Passes (fun _ descLen => return descLen) [] := by
  intro before c after
  rfl

theorem passes_inc (x : UInt8) : Passes incDescLen [x] := by
  intro before c after
  rw [inc_return (by simp), run_pure]
  rfl

theorem Passes.bind {r next : Nat → Nat → DescReader Nat} {first second : List UInt8}
    (passes : Passes r first) (then_ : Passes next second) :
    Passes (fun n descLen => r n descLen >>= next n) (first ++ second) := by
  intro before c after
  obtain ⟨c', after', more⟩ : ∃ c' after', second ++ c :: after = c' :: after' := by
    cases second with
    | nil => exact ⟨c, after, rfl⟩
    | cons x second => exact ⟨x, second ++ c :: after, rfl⟩
  have one := passes before c' after'
  have two := then_ (before ++ first) c after
  rw [← more] at one
  rw [List.append_assoc] at two
  rw [run_bind, List.append_assoc, one, bind_value, ← List.length_append, two]
  simp only [List.length_append, Nat.add_assoc]

theorem octet_first (before : List UInt8) (x : UInt8) (rest : List UInt8) :
    (octet before.length : DescReader UInt8).run (before ++ x :: rest) = .value x :=
  octet_between before x rest rfl rfl

theorem passes_incIf (c : Prop) [Decidable c] (part : List UInt8) (present : c → part.length = 1)
    (absent : ¬ c → part = []) : Passes (fun n descLen => incIf c n descLen) part := by
  unfold incIf
  by_cases h : c
  · obtain ⟨x, rfl⟩ := List.length_eq_one_iff.1 (present h)
    simp only [if_pos h]
    exact passes_inc x
  · rw [absent h]
    simp only [if_neg h]
    exact passes_return

theorem passes_pictureId (id : PictureId) : Passes pictureId id.octets := by
  intro before c after
  cases id with
  | short id =>
    have bit : ¬ UInt8.ofNat id &&& 0x80 ≠ 0 := by
      rw [pictureId_bit, UInt8.toNat_ofNat']
      omega
    show (pictureId (before ++ UInt8.ofNat id :: c :: after).length before.length).run
      (before ++ UInt8.ofNat id :: c :: after) = _
    rw [pictureId, inc_return (by simp), run_bind, run_pure, bind_value, run_bind, octet_first,
      bind_value, incIf, if_neg bit]
    rfl
  | long id =>
    have bit : UInt8.ofNat (128 + id / 256) &&& 0x80 ≠ 0 := by
      rw [pictureId_bit, UInt8.toNat_ofNat']
      omega
    show (pictureId (before ++ UInt8.ofNat (128 + id / 256) :: UInt8.ofNat (id % 256) :: c
      :: after).length before.length).run _ = _
    rw [pictureId, inc_return (by simp), run_bind, run_pure, bind_value, run_bind]
    show ((octet before.length).run (before ++ UInt8.ofNat (128 + id / 256)
      :: UInt8.ofNat (id % 256) :: c :: after)).bind _ = _
    rw [octet_first, bind_value, incIf, if_pos bit, inc_return (by simp +arith), run_pure]
    rfl

theorem passes_pictureIdIf {i : Prop} [Decidable i] {id : Option PictureId}
    (present : i ↔ id.isSome = true) :
    Passes (fun n descLen => pictureIdIf i n descLen) (id.elim [] PictureId.octets) := by
  unfold pictureIdIf
  cases id with
  | none =>
    simp only [if_neg fun h => absurd (present.1 h) (by decide)]
    exact passes_return
  | some id =>
    simp only [if_pos (present.2 rfl)]
    exact passes_pictureId id

/-! ## VP8 -/

/-- What the extended control bits announce. -/
def Vp8Extension.fields (ext : Vp8Extension) : List UInt8 :=
  ext.pictureId.elim [] PictureId.octets ++ (ext.tl0PicIdx.elim [] ([·])
    ++ if ext.t || ext.k then [ext.tidKeyIdx] else [])

theorem Vp8Extension.passes (ext : Vp8Extension) {b1 : UInt8}
    (i : b1 &&& 0x80 ≠ 0 ↔ ext.pictureId.isSome = true)
    (l : b1 &&& 0x40 ≠ 0 ↔ ext.tl0PicIdx.isSome = true) (t : b1 &&& 0x20 ≠ 0 ↔ ext.t = true)
    (k : b1 &&& 0x10 ≠ 0 ↔ ext.k = true) :
    Passes (fun n descLen => do
      let descLen ← pictureIdIf (b1 &&& 0x80 ≠ 0) n descLen
      let descLen ← incIf (b1 &&& 0x40 ≠ 0) n descLen
      incIf (b1 &&& 0x20 ≠ 0 ∨ b1 &&& 0x10 ≠ 0) n descLen) ext.fields := by
  refine (passes_pictureIdIf i).bind (Passes.bind (passes_incIf _ _ ?_ ?_) (passes_incIf _ _ ?_ ?_))
  · rw [l]
    cases ext.tl0PicIdx <;> simp
  · rw [l]
    cases ext.tl0PicIdx <;> simp
  · rw [t, k]
    cases ext.t <;> cases ext.k <;> simp
  · rw [t, k]
    cases ext.t <;> cases ext.k <;> simp

theorem vp8_passed (desc : Vp8Descriptor) (c : UInt8) (after : List UInt8) :
    (vp8DescLen (desc.octets ++ c :: after).length).run (desc.octets ++ c :: after)
      = .value desc.octets.length := by
  obtain ⟨ext, r, n, s, pid⟩ := desc
  have x := (bitsOctet_test ext.isSome r n s pid.1 pid.2.1 pid.2.2.1 pid.2.2.2).1
  generalize first : bitsOctet ext.isSome r n s pid.1 pid.2.1 pid.2.2.1 pid.2.2.2 = b0 at x
  cases ext with
  | none =>
    have octets : Vp8Descriptor.octets ⟨none, r, n, s, pid⟩ = [b0] := by
      rw [← first]
      rfl
    rw [octets, vp8DescLen, run_bind, octet_value.2 (show ([b0] ++ c :: after)[0]? = some b0 from rfl),
      bind_value, if_neg (by simpa using x)]
    rfl
  | some ext =>
    obtain ⟨i, l, t, k, -⟩ := bitsOctet_test ext.pictureId.isSome ext.tl0PicIdx.isSome ext.t ext.k
      ext.rsv.1 ext.rsv.2.1 ext.rsv.2.2.1 ext.rsv.2.2.2
    generalize second : bitsOctet ext.pictureId.isSome ext.tl0PicIdx.isSome ext.t ext.k
      ext.rsv.1 ext.rsv.2.1 ext.rsv.2.2.1 ext.rsv.2.2.2 = b1 at i l t k
    have octets : Vp8Descriptor.octets ⟨some ext, r, n, s, pid⟩ = [b0, b1] ++ ext.fields := by
      rw [← first, ← second]
      rfl
    have passed := ext.passes i l t k [b0, b1] c after
    rw [octets, List.append_assoc, show ([b0, b1] ++ ext.fields).length
      = [b0, b1].length + ext.fields.length from List.length_append, ← passed, vp8DescLen,
      run_bind, octet_value.2 (show ([b0, b1] ++ (ext.fields ++ c :: after))[0]? = some b0 from rfl),
      bind_value, if_pos (x.2 rfl), inc_return (by simp +arith), run_bind, run_pure, bind_value, run_bind,
      octet_value.2 (show ([b0, b1] ++ (ext.fields ++ c :: after))[1]? = some b1 from rfl)]
    rfl

/-! ## VP9 -/

variable {p0 : UInt8}

theorem passes_layers {layers : Option LayerIndices} {flexible : Bool}
    (l : p0 &&& 0x20 ≠ 0 ↔ layers.isSome = true) (f : p0 &&& 0x10 ≠ 0 ↔ flexible = true) :
    Passes (fun n descLen => vp9Layers n p0 descLen) (layers.elim [] fun layers =>
      layers.indices :: if flexible then [] else [layers.tl0PicIdx]) := by
  unfold vp9Layers
  cases layers with
  | none =>
    simp only [if_neg fun h => absurd (l.1 h) (by decide)]
    exact passes_return
  | some layers =>
    simp only [if_pos (l.2 rfl)]
    refine Passes.bind (passes_inc layers.indices) (passes_incIf _ _ ?_ ?_)
    · intro outside
      have plain : flexible = false := by
        rw [← Bool.not_eq_true, ← f]
        exact fun h => h outside
      rw [plain]
      rfl
    · intro inside
      rw [f.1 inside]
      rfl

theorem octet_second (before : List UInt8) (x y : UInt8) (rest : List UInt8) :
    (octet (before.length + 1) : DescReader UInt8).run (before ++ x :: y :: rest) = .value y :=
  octet_between (before ++ [x]) y rest (by rw [List.append_assoc, List.singleton_append])
    (by rw [List.length_append, List.length_singleton])

theorem reference_last (a : Fin 128) : ¬ UInt8.ofNat (2 * a) &&& 0x1 ≠ 0 := by
  rw [reference_bit, UInt8.toNat_ofNat']
  omega

theorem reference_more (a : Fin 128) : UInt8.ofNat (2 * a + 1) &&& 0x1 ≠ 0 := by
  rw [reference_bit, UInt8.toNat_ofNat']
  omega

theorem passes_references {flexible i p : Bool} (references : References)
    (f : p0 &&& 0x10 ≠ 0 ↔ flexible = true) (id : p0 &&& 0x80 ≠ 0 ↔ i = true)
    (inter : p0 &&& 0x40 ≠ 0 ↔ p = true) (identified : flexible = true → i = true) :
    Passes (fun n descLen => vp9References n p0 descLen)
      (if flexible && p then references.octets else []) := by
  unfold vp9References
  by_cases both : flexible = true ∧ p = true
  · have here : p0 &&& 0x10 ≠ 0 ∧ p0 &&& 0x80 ≠ 0 ∧ p0 &&& 0x40 ≠ 0 :=
      ⟨f.2 both.1, id.2 (identified both.1), inter.2 both.2⟩
    rw [if_pos (by simpa using both)]
    simp only [if_pos here]
    intro before c after
    cases references with
    | one a =>
      show ((incDescLen (before ++ UInt8.ofNat (2 * a) :: c :: after).length before.length
        >>= _).run (before ++ UInt8.ofNat (2 * a) :: c :: after)) = _
      rw [inc_return (by simp), run_bind, run_pure, bind_value, run_bind, octet_first, bind_value,
        if_neg (reference_last a)]
      rfl
    | two a b =>
      show ((incDescLen (before ++ UInt8.ofNat (2 * a + 1) :: UInt8.ofNat (2 * b) :: c
        :: after).length before.length >>= _).run (before ++ UInt8.ofNat (2 * a + 1)
          :: UInt8.ofNat (2 * b) :: c :: after)) = _
      rw [inc_return (by simp), run_bind, run_pure, bind_value, run_bind, octet_first, bind_value,
        if_pos (reference_more a), inc_return (by simp [References.octets]; omega), run_bind,
        run_pure, bind_value,
        run_bind, octet_second, bind_value, incIf, if_neg (reference_last b)]
      rfl
    | three a b d =>
      show ((incDescLen (before ++ UInt8.ofNat (2 * a + 1) :: UInt8.ofNat (2 * b + 1)
        :: UInt8.ofNat (2 * d) :: c :: after).length before.length >>= _).run
          (before ++ UInt8.ofNat (2 * a + 1) :: UInt8.ofNat (2 * b + 1) :: UInt8.ofNat (2 * d)
            :: c :: after)) = _
      rw [inc_return (by simp), run_bind, run_pure, bind_value, run_bind, octet_first, bind_value,
        if_pos (reference_more a), inc_return (by simp [References.octets]; omega), run_bind,
        run_pure, bind_value,
        run_bind, octet_second, bind_value, incIf, if_pos (reference_more b),
        inc_return (by simp [References.octets]; omega)]
      rfl
  · have away : ¬ (p0 &&& 0x10 ≠ 0 ∧ p0 &&& 0x80 ≠ 0 ∧ p0 &&& 0x40 ≠ 0) :=
      fun h => both ⟨f.1 h.1, inter.1 h.2.2⟩
    rw [if_neg (by simpa using both)]
    simp only [if_neg away]
    exact passes_return

theorem passes_groupPicture (picture : GroupPicture) : Passes vp9GroupPicture picture.octets := by
  intro before c after
  have few := picture.few
  have counted : (((UInt8.ofNat (picture.tidU * 16 + picture.diffs.length * 4 + picture.rsv)
      &&& 0x0F) >>> 2).toNat) = picture.diffs.length := by
    rw [group_bits, UInt8.toNat_ofNat']
    omega
  show (vp9GroupPicture (before ++ UInt8.ofNat (picture.tidU * 16 + picture.diffs.length * 4
    + picture.rsv) :: (picture.diffs ++ c :: after)).length before.length).run
      (before ++ UInt8.ofNat (picture.tidU * 16 + picture.diffs.length * 4 + picture.rsv)
        :: (picture.diffs ++ c :: after)) = _
  rw [vp9GroupPicture, inc_return (by simp +arith), run_bind, run_pure, bind_value, run_bind, octet_first,
    bind_value]
  rw [counted, if_neg (by simp; omega), run_pure, GroupPicture.octets, List.length_cons,
    Nat.add_right_comm]
  rfl

theorem passes_group (pictures : List GroupPicture) :
    Passes (fun n descLen => vp9Group n pictures.length descLen)
      (pictures.flatMap GroupPicture.octets) := by
  induction pictures with
  | nil => exact passes_return
  | cons picture pictures ih => exact (passes_groupPicture picture).bind ih

theorem Scalability.resolutions_length (ss : Scalability) :
    (ss.resolutions.elim [] (fun layers => layers.1.flatMap Subtype.val)).length
      = if ss.resolutions.isSome then ((ss.nS : Nat) + 1) * 4 else 0 := by
  cases ss.resolutions with
  | none => rfl
  | some layers =>
    have four (xs : List (Octets 4)) : (xs.flatMap Subtype.val).length = xs.length * 4 := by
      induction xs with
      | nil => rfl
      | cons x xs ih => rw [List.flatMap_cons, List.length_append, x.2, ih, List.length_cons]; omega
    show (layers.1.flatMap Subtype.val).length = _
    rw [four, layers.2]
    rfl

theorem Scalability.first (ss : Scalability) :
    ∃ q, ss.octets = q :: (ss.resolutions.elim [] (fun layers => layers.1.flatMap Subtype.val)
        ++ ss.group.elim [] fun pictures =>
          UInt8.ofNat pictures.1.length :: pictures.1.flatMap GroupPicture.octets)
      ∧ (q >>> 5).toNat = ss.nS ∧ (q &&& 0x10 ≠ 0 ↔ ss.resolutions.isSome = true)
      ∧ (q &&& 0x8 ≠ 0 ↔ ss.group.isSome = true) := by
  refine ⟨_, rfl, ?_⟩
  obtain ⟨layers, y, g⟩ := scalability_bits (UInt8.ofNat (ss.nS * 32
    + ss.resolutions.isSome.toNat * 16 + ss.group.isSome.toNat * 8 + ss.rsv))
  have one := Bool.toNat_le ss.resolutions.isSome
  have two := Bool.toNat_le ss.group.isSome
  have small : (UInt8.ofNat (ss.nS * 32 + ss.resolutions.isSome.toNat * 16
      + ss.group.isSome.toNat * 8 + ss.rsv)).toNat = ss.nS * 32
        + ss.resolutions.isSome.toNat * 16 + ss.group.isSome.toNat * 8 + ss.rsv := by
    rw [UInt8.toNat_ofNat']
    omega
  refine ⟨by omega, y.trans ?_, g.trans ?_⟩
  · cases ss.resolutions.isSome
    · simp
      omega
    · simp
      omega
  · cases ss.group.isSome
    · simp
      omega
    · simp
      omega

theorem Scalability.passed (ss : Scalability) (v : p0 &&& 0x2 ≠ 0) :
    Passes (fun n descLen => vp9Scalability n p0 descLen) ss.octets := by
  intro before c after
  obtain ⟨q, octets, nS, y, g⟩ := ss.first
  have layers := ss.resolutions_length
  rw [octets]
  generalize ss.resolutions.elim [] (fun layers => layers.1.flatMap Subtype.val) = resolutions
    at layers ⊢
  -- the index behind the resolutions
  have behind : (if q &&& 0x10 ≠ 0 then before.length + 1 + ((q >>> 5).toNat + 1) * 4
      else before.length + 1) = (before ++ q :: resolutions).length := by
    rw [List.length_append, List.length_cons, layers, nS]
    by_cases present : ss.resolutions.isSome = true
    · rw [if_pos (y.2 present), if_pos present]
      omega
    · rw [if_neg (fun h => present (y.1 h)), if_neg present]
  generalize ss.group = group at g ⊢
  show (vp9Scalability (before ++ (q :: (resolutions ++ _) ++ c :: after)).length p0
    before.length).run (before ++ q :: (resolutions ++ _ ++ c :: after)) = _
  rw [vp9Scalability, if_pos v, run_bind, octet_first, bind_value, inc_return (by simp +arith)]
  show (if q &&& 0x8 ≠ 0 then _ else _ : DescReader Nat).run _ = _
  rw [behind]
  cases group with
  | none =>
    rw [if_neg fun h => absurd (g.1 h) (by decide)]
    simp
  | some pictures =>
    have passed := passes_group pictures.1
      (before ++ q :: (resolutions ++ [UInt8.ofNat pictures.1.length])) c after
    have split : before ++ q :: (resolutions ++ UInt8.ofNat pictures.1.length
          :: pictures.1.flatMap GroupPicture.octets ++ c :: after)
        = before ++ q :: (resolutions ++ [UInt8.ofNat pictures.1.length])
          ++ (pictures.1.flatMap GroupPicture.octets ++ c :: after) := by
      simp
    have count : (octet (before ++ q :: resolutions).length : DescReader UInt8).run
        (before ++ q :: (resolutions ++ UInt8.ofNat pictures.1.length
          :: pictures.1.flatMap GroupPicture.octets ++ c :: after))
        = .value (UInt8.ofNat pictures.1.length) :=
      octet_between (before ++ q :: resolutions) _ _ (by simp; rfl) rfl
    have next : (before ++ q :: resolutions).length + 1
        = (before ++ q :: (resolutions ++ [UInt8.ofNat pictures.1.length])).length := by
      simp only [List.length_append, List.length_cons, List.length_nil]
      omega
    have whole : (UInt8.ofNat pictures.1.length).toNat = pictures.1.length := by
      rw [UInt8.toNat_ofNat']
      omega
    simp only [Option.elim_some, List.cons_append] at count split ⊢
    rw [if_pos (g.2 rfl), run_bind, count, bind_value, inc_return (by simp +arith), run_bind,
      run_pure, bind_value, whole, next, split]
    refine passed.trans ?_
    simp
    omega

theorem passes_scalability {scalability : Option Scalability}
    (v : p0 &&& 0x2 ≠ 0 ↔ scalability.isSome = true) :
    Passes (fun n descLen => vp9Scalability n p0 descLen)
      (scalability.elim [] Scalability.octets) := by
  cases scalability with
  | none =>
    unfold vp9Scalability
    simp only [if_neg fun h => absurd (v.1 h) (by decide)]
    exact passes_return
  | some ss => exact ss.passed (v.2 rfl)

theorem vp9_passed (desc : Vp9Descriptor) (c : UInt8) (after : List UInt8) :
    (pjmediaVpxUnpacketize .vp9 (desc.octets ++ c :: after).length).run (desc.octets ++ c :: after)
      = .value desc.octets.length := by
  obtain ⟨i, p, l, f, v⟩ := bitsOctet_test desc.pictureId.isSome desc.p desc.layers.isSome
    desc.flexible desc.b desc.e desc.scalability.isSome desc.z
  generalize first : bitsOctet desc.pictureId.isSome desc.p desc.layers.isSome desc.flexible desc.b
    desc.e desc.scalability.isSome desc.z = p0 at i p l f v
  have passed := ((passes_pictureIdIf i).bind ((passes_layers l f).bind
    ((passes_references desc.references f i p desc.identified).bind (passes_scalability v))))
    [p0] c after
  have octets : desc.octets = [p0] ++ (desc.pictureId.elim [] PictureId.octets
      ++ (desc.layers.elim [] (fun layers =>
          layers.indices :: if desc.flexible then [] else [layers.tl0PicIdx])
        ++ ((if desc.flexible && desc.p then desc.references.octets else [])
          ++ desc.scalability.elim [] Scalability.octets))) := by
    rw [← first]
    rfl
  generalize desc.pictureId.elim [] PictureId.octets ++ _ = fields at passed octets
  have first : (octet 0 : DescReader UInt8).run ([p0] ++ (fields ++ c :: after)) = .value p0 :=
    octet_value.2 rfl
  rw [octets, List.append_assoc, pjmediaVpxUnpacketize, if_neg (by simp), run_bind, first,
    bind_value]
  simp only [vp9Fixed, run_bind, read_bind_assoc] at passed ⊢
  rw [show ([p0] ++ fields).length = [p0].length + fields.length from List.length_append]
  exact passed

theorem unpacketize_octets (desc : Descriptor) (c : UInt8) (after : List UInt8) :
    (pjmediaVpxUnpacketize desc.fmt (desc.octets ++ c :: after).length).run
      (desc.octets ++ c :: after) = .value desc.octets.length := by
  cases desc with
  | vp8 desc =>
    show (pjmediaVpxUnpacketize .vp8 (desc.octets ++ c :: after).length).run _ = _
    rw [pjmediaVpxUnpacketize, if_neg (by simp [Vp8Descriptor.octets])]
    exact vp8_passed desc c after
  | vp9 desc => exact vp9_passed desc c after

end Pjsip.PjmediaCodec.Vpx
