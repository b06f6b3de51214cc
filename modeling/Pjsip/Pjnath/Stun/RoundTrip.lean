import Pjsip.Pjnath.Stun.DecodeSafe
import Pjsip.Pjnath.Stun.ReadBack

/-!
# Printing a message and parsing it

The parser gets from the image of one attribute to that of the next by the length field it
reads, and takes each for the attribute that was printed. The rules for the position of
MESSAGE-INTEGRITY and FINGERPRINT are met by what is printed.
-/

namespace Pjsip.Pjnath.Stun

open Pjsip.Base Reader

/-- How an attribute comes back: with the length that was written, and with its value if that
is one which can be written. -/
structure ReadAs (msghdr : MsgHdr) (sent got : Attr) : Prop where
  type : got.type = sent.type
  length : got.length = sent.wireLength msghdr
  value : sent.exact = true → SameValue sent.type sent.value got.value

/-! ## One attribute -/

section Attribute

variable {env : StunEnv} {msghdr : MsgHdr} {a : Attr} {img : List UInt8}
  (image : Image env msghdr a img) (taken : a.refused = false)

include image taken

theorem Image.split : ∃ pad, img
    = put16 a.type ++ (put16 (a.wireLength msghdr) ++ (a.payload env msghdr ++ pad)) := by
  obtain ⟨⟨pad, whole⟩, -⟩ := image
  refine ⟨pad, ?_⟩
  rw [whole, Attr.wire_eq env msghdr taken, List.append_assoc, List.append_assoc]

theorem Image.readType (rest : List UInt8) :
    (field16 0 : Reader ε _).run (img ++ rest) = .value a.type := by
  obtain ⟨pad, rfl⟩ := image.split taken
  exact field16_between [] a.type _ rfl rfl

theorem Image.readLength (rest : List UInt8) :
    (field16 2 : Reader ε _).run (img ++ rest) = .value (a.wireLength msghdr) := by
  obtain ⟨pad, rfl⟩ := image.split taken
  exact field16_between (put16 a.type) (a.wireLength msghdr) _ rfl rfl

variable (small : a.size < 65536)

include small

theorem Image.readKnown (magic : msghdr.magic = stunMagic) {hdr : MsgHdr}
    (tsxId : hdr.tsxId = msghdr.tsxId) {kind : AttrKind} (known : attrKind a.type = some kind)
    (rest : List UInt8) :
    ∃ got, (decodeAttr hdr a.type kind known).run (img ++ rest) = .value got
      ∧ ReadAs msghdr a got := by
  have readLength := image.readLength (ε := StunStatus) taken rest
  obtain ⟨pad, whole⟩ := image.split taken
  obtain ⟨got, read, same⟩ :=
    decodeValue_payload taken small env tsxId magic known (pad ++ rest)
  have split : img ++ rest = put16 a.type ++ (put16 (a.wireLength msghdr)
      ++ (a.payload env msghdr ++ (pad ++ rest))) := by
    rw [whole]
    simp only [List.append_assoc]
  rw [← split] at read
  refine ⟨⟨a.type, a.wireLength msghdr, got.1, by rw [known]; exact got.2⟩, ?_, rfl, rfl, same⟩
  rw [decodeAttr, run_bind, readLength, bind_value]
  exact run_return _ read

theorem Image.readUnrecognised (unassigned : attrKind a.type = none) (rest : List UInt8) :
    ∃ got, (decodeUnrecognised a.type unassigned : Reader ε _).run (img ++ rest) = .value got
      ∧ ReadAs msghdr a got := by
  have readLength := image.readLength (ε := ε) taken rest
  obtain ⟨pad, whole⟩ := image.split taken
  obtain ⟨type, length, value, suits⟩ := a
  change attrKind type = none at unassigned
  have suits' := suits
  rw [unassigned] at suits'
  cases value with
  | binary mark data =>
    change align4 (data.1.length + 4) < 65536 at small
    have count : data.1.length = (UInt16.ofNat data.1.length).toNat := by
      rw [UInt16.toNat_ofNat']
      unfold align4 at small
      omega
    have read : (octets 4 (UInt16.ofNat data.1.length).toNat : Reader ε _).run (img ++ rest)
        = .value ⟨data.1, count⟩ := by
      refine octets_between (put16 type ++ put16 (UInt16.ofNat data.1.length)) ⟨data.1, count⟩
        (pad ++ rest) ?_ rfl
      rw [whole, List.append_assoc, List.append_assoc, List.append_assoc, List.append_assoc]
      rfl
    refine ⟨⟨type, UInt16.ofNat data.1.length, .binary stunMagic (textOf ⟨data.1, count⟩), by
      rw [unassigned]; rfl⟩, ?_, rfl, rfl, fun _ => rfl⟩
    rw [decodeUnrecognised, run_bind, readLength, bind_value]
    exact run_return _ read
  | _ => cases suits'

end Attribute

/-! ## One round of the parser -/

/-- What the parser knows when these attributes are still to come. -/
structure Expects (st : DecodeState) (attrs : List Attr) : Prop where
  room : st.msg.attrs.length + attrs.length ≤ stunMaxAttr
  fresh : attrs ≠ [] → st.hasFingerprint = false
  once : st.hasMsgInt = true → ∀ a ∈ attrs, a.type ≠ attrMessageIntegrity

/-- FINGERPRINT is the last attribute and there is one MESSAGE-INTEGRITY at most. -/
def Ordered (attrs : List Attr) : Prop :=
  attrs.Pairwise fun a b => a.type ≠ attrFingerprint
    ∧ (a.type = attrMessageIntegrity → b.type ≠ attrMessageIntegrity)

variable {st : DecodeState}

theorem checkPosition_expected {a : Attr} {rest : List Attr}
    (expects : Expects st (a :: rest)) (ordered : Ordered (a :: rest)) :
    ∃ placed, checkPosition st a.type = .ok placed ∧ placed.msg = st.msg
      ∧ (rest ≠ [] → placed.hasFingerprint = false)
      ∧ (placed.hasMsgInt = true → ∀ b ∈ rest, b.type ≠ attrMessageIntegrity) := by
  have fresh := expects.fresh (List.cons_ne_nil a rest)
  have later := (List.pairwise_cons.1 ordered).1
  have once : st.hasMsgInt = true → ∀ b ∈ rest, b.type ≠ attrMessageIntegrity := by
    intro seen b mem
    exact expects.once seen b (List.mem_cons_of_mem a mem)
  unfold checkPosition
  by_cases msgint : a.type = attrMessageIntegrity
  · have first : st.hasMsgInt = false := by
      by_contra seen
      exact expects.once (by simpa using seen) a List.mem_cons_self msgint
    rw [if_pos ⟨msgint, by simp [fresh]⟩, if_neg (by simp [first])]
    exact ⟨_, rfl, rfl, fun _ => fresh, fun _ b mem => (later b mem).2 msgint⟩
  · rw [if_neg (fun both => msgint both.1)]
    by_cases fingerprint : a.type = attrFingerprint
    · rw [if_pos fingerprint, if_neg (by simp [fresh])]
      refine ⟨_, rfl, rfl, ?_, once⟩
      intro more
      obtain ⟨b, mem⟩ := List.exists_mem_of_ne_nil rest more
      exact absurd fingerprint (later b mem).1
    · rw [if_neg fingerprint, if_neg (by simp [fresh])]
      exact ⟨_, rfl, rfl, fun _ => fresh, once⟩

/-- An attribute that has an image which can be told from what follows. -/
structure Attr.Carried (a : Attr) : Prop where
  taken : a.refused = false
  small : a.size < 65536

theorem acceptAttr_room (wanted : Bool) (got : Attr)
    (room : st.msg.attrs.length < stunMaxAttr) :
    ∃ st', acceptAttr wanted st got = .value st' ∧ st'.msg.hdr = st.msg.hdr
      ∧ st'.msg.attrs = st.msg.attrs ++ [got] ∧ st'.hasMsgInt = st.hasMsgInt
      ∧ st'.hasFingerprint = st.hasFingerprint := by
  unfold acceptAttr StunMsg.addAttr
  rw [dif_pos room]
  exact ⟨_, rfl, rfl, rfl, rfl, rfl⟩

section Round

variable {env : StunEnv} {msghdr : MsgHdr} (magic : msghdr.magic = stunMagic)

include magic

theorem decodeOne_image (wanted : Bool) {a : Attr} {rest : List Attr}
    {img : List UInt8} (image : Image env msghdr a img) (carried : a.Carried)
    (understood : a.understood = true) (tsxId : st.msg.hdr.tsxId = msghdr.tsxId) (expects : Expects st (a :: rest))
    (ordered : Ordered (a :: rest)) (after : List UInt8) :
    ∃ st' got, decodeOne wanted st a.type (img ++ after) = .value st' ∧ ReadAs msghdr a got
      ∧ st'.msg.hdr = st.msg.hdr ∧ st'.msg.attrs = st.msg.attrs ++ [got]
      ∧ Expects st' rest := by
  have room : st.msg.attrs.length < stunMaxAttr := by
    have := expects.room
    rw [List.length_cons] at this
    omega
  have roomAfter : ∀ got : Attr, (st.msg.attrs ++ [got]).length + rest.length ≤ stunMaxAttr := by
    intro got
    have := expects.room
    rw [List.length_cons] at this
    rw [List.length_append, List.length_singleton]
    omega
  unfold decodeOne
  split
  · rename_i unassigned
    have optional : ¬ a.type ≤ 0x7FFF := by
      have high : (0x8000 : UInt16) ≤ a.type := by
        simpa [Attr.understood, unassigned] using understood
      change 0x8000 ≤ a.type.toNat at high
      show ¬ a.type.toNat ≤ 0x7FFF
      omega
    obtain ⟨got, read, readAs⟩ :=
      image.readUnrecognised (ε := DecodeError) carried.taken carried.small unassigned after
    obtain ⟨st', accepted, hdr, attrs, msgInt, fingerprint⟩ := acceptAttr_room wanted got room
    rw [if_neg optional, if_neg (Nat.not_le.2 room)]
    refine ⟨st', got, ?_, readAs, hdr, attrs, by rw [attrs]; exact roomAfter got, ?_, ?_⟩
    · show Read.bind _ _ = _
      rw [read]
      exact accepted
    · intro _
      rw [fingerprint]
      exact expects.fresh (List.cons_ne_nil a rest)
    · intro seen b mem
      rw [msgInt] at seen
      exact expects.once seen b (List.mem_cons_of_mem a mem)
  · rename_i kind known
    obtain ⟨got, read, readAs⟩ :=
      image.readKnown carried.taken carried.small magic tsxId known after
    obtain ⟨placed, position, same, fresh, once⟩ := checkPosition_expected expects ordered
    have roomPlaced : placed.msg.attrs.length < stunMaxAttr := by
      rw [same]
      exact room
    obtain ⟨st', accepted, hdr, attrs, msgInt, fingerprint⟩ :=
      acceptAttr_room wanted got roomPlaced
    rw [same] at hdr attrs
    rw [read]
    simp only [position]
    refine ⟨st', got, accepted, readAs, hdr, attrs, by rw [attrs]; exact roomAfter got, ?_, ?_⟩
    · rw [fingerprint]
      exact fresh
    · rw [msgInt]
      exact once

/-! ## The loop -/

omit magic in
theorem decodeAttrs_image {wanted : Bool} {st : DecodeState} {pos : Nat} {start img : List UInt8}
    {a : Attr} {imgs : List (List UInt8)} (image : Image env msghdr a img) (carried : a.Carried)
    (at_ : start.drop pos = (img :: imgs).flatten) (rounds : Nat) :
    (img :: imgs).flatten.length = a.size + imgs.flatten.length ∧
      start.drop (pos + a.size) = imgs.flatten ∧
      decodeAttrs wanted start (rounds + 1) st pos (img :: imgs).flatten.length =
        (decodeOne wanted st a.type (img ++ imgs.flatten)).bind fun st' =>
          decodeAttrs wanted start rounds st' (pos + a.size) imgs.flatten.length := by
  have size := Attr.wireLength_size carried.taken carried.small msghdr
  have whole : (img :: imgs).flatten.length = a.size + imgs.flatten.length := by
    rw [List.flatten_cons, List.length_append, image.2]
  have type : (field16 0 : Reader DecodeError _).run (start.drop pos) = .value a.type := by
    rw [at_]
    exact image.readType carried.taken _
  have length : (field16 2 : Reader DecodeError _).run (start.drop pos)
      = .value (a.wireLength msghdr) := by
    rw [at_]
    exact image.readLength carried.taken _
  refine ⟨whole, ?_, ?_⟩
  · rw [← List.drop_drop, at_, List.flatten_cons, List.drop_left' image.2]
  · rw [whole, decodeAttrs_round type length (by omega), at_, List.flatten_cons, size,
      Nat.add_sub_cancel_left]

theorem decodeAttrs_images (wanted : Bool) (st : DecodeState) (pos : Nat) {start : List UInt8}
    {attrs : List Attr} {imgs : List (List UInt8)}
    (images : List.Forall₂ (Image env msghdr) attrs imgs) (carried : ∀ a ∈ attrs, a.Carried)
    (understood : ∀ a ∈ attrs, a.understood = true) (ordered : Ordered attrs) {rounds : Nat}
    (tsxId : st.msg.hdr.tsxId = msghdr.tsxId)
    (expects : Expects st attrs) (at_ : start.drop pos = imgs.flatten)
    (enough : imgs.flatten.length < rounds) :
    ∃ msg gots, decodeAttrs wanted start rounds st pos imgs.flatten.length
        = .value (msg, pos + imgs.flatten.length)
      ∧ msg.hdr = st.msg.hdr ∧ msg.attrs = st.msg.attrs ++ gots
      ∧ List.Forall₂ (ReadAs msghdr) attrs gots := by
  induction images generalizing rounds st pos with
  | nil =>
    cases rounds with
    | zero => nomatch enough
    | succ rounds => exact ⟨st.msg, [], rfl, rfl, by simp, .nil⟩
  | @cons a img attrs imgs image images ih =>
    have carriedFirst := carried a List.mem_cons_self
    have long := a.four_le_size
    obtain ⟨st', got, decoded, readAs, hdr, attrs', expects'⟩ :=
      decodeOne_image magic wanted image carriedFirst (understood a List.mem_cons_self) tsxId
        expects ordered imgs.flatten
    cases rounds with
    | zero => omega
    | succ rounds =>
      obtain ⟨whole, next, round⟩ := decodeAttrs_image image carriedFirst at_ rounds
      obtain ⟨msg, gots, ended, hdr', gots', allRead⟩ :=
        ih st' (pos + a.size) (fun b mem => carried b (List.mem_cons_of_mem a mem))
          (fun b mem => understood b (List.mem_cons_of_mem a mem)) ordered.tail (hdr ▸ tsxId)
          expects' next (Nat.lt_of_lt_of_le (by omega) (Nat.le_refl rounds))
      refine ⟨msg, got :: gots, ?_, hdr'.trans hdr, by rw [gots', attrs']; simp,
        .cons readAs allRead⟩
      rw [round, decoded, bind_value, ended, whole, Nat.add_assoc]

omit magic in
theorem decodeOne_refuses (wanted : Bool) (st : DecodeState) {a : Attr}
    (understood : a.understood = false) (buf : List UInt8) :
    ∃ e, decodeOne wanted st a.type buf = .error e := by
  rw [Attr.understood, Bool.or_eq_false_iff, decide_eq_false_iff_not, decide_eq_false_iff_not,
    not_not] at understood
  obtain ⟨unassigned, low⟩ := understood
  have mandatory : a.type ≤ 0x7FFF := by
    change ¬ 0x8000 ≤ a.type.toNat at low
    show a.type.toNat ≤ 0x7FFF
    omega
  unfold decodeOne
  split
  · rw [if_pos mandatory]
    exact ⟨_, rfl⟩
  · rename_i known
    rw [unassigned] at known
    nomatch known

theorem decodeAttrs_refuses (wanted : Bool) (st : DecodeState) (pos : Nat) {start : List UInt8}
    {attrs : List Attr} {imgs : List (List UInt8)}
    (images : List.Forall₂ (Image env msghdr) attrs imgs) (carried : ∀ a ∈ attrs, a.Carried)
    (refused : ¬ ∀ a ∈ attrs, a.understood = true) (ordered : Ordered attrs) {rounds : Nat}
    (tsxId : st.msg.hdr.tsxId = msghdr.tsxId) (expects : Expects st attrs)
    (at_ : start.drop pos = imgs.flatten) (enough : imgs.flatten.length < rounds) :
    ∃ e, decodeAttrs wanted start rounds st pos imgs.flatten.length = .error e := by
  induction images generalizing rounds st pos with
  | nil => exact absurd (fun _ mem => nomatch mem) refused
  | @cons a img attrs imgs image images ih =>
    have carriedFirst := carried a List.mem_cons_self
    cases rounds with
    | zero => omega
    | succ rounds =>
      obtain ⟨whole, next, round⟩ := decodeAttrs_image image carriedFirst at_ rounds
      rw [round]
      cases understood : a.understood with
      | false =>
        obtain ⟨e, one⟩ := decodeOne_refuses wanted st understood (img ++ imgs.flatten)
        exact ⟨e, by rw [one]; rfl⟩
      | true =>
        obtain ⟨st', got, decoded, -, hdr, -, expects'⟩ := decodeOne_image magic wanted image
          carriedFirst understood tsxId expects ordered imgs.flatten
        have refused' : ¬ ∀ b ∈ attrs, b.understood = true := by
          intro all
          exact refused (List.forall_mem_cons.2 ⟨understood, all⟩)
        have long := a.four_le_size
        rw [decoded, bind_value]
        exact ih st' (pos + a.size) (fun b mem => carried b (List.mem_cons_of_mem a mem))
          refused' ordered.tail (hdr ▸ tsxId) expects' next (by omega)

end Round

/-! ## What is printed can be read -/

/-- A message that fits its length field, with the protecting attributes at its end. -/
structure Framed (msg : StunMsg) : Prop where
  magic : msg.hdr.magic = stunMagic
  last : NoStray msg.attrs
  body : (msg.attrs.map Attr.size).sum < 65536

def Understood (msg : StunMsg) : Prop := ∀ a ∈ msg.attrs, a.understood = true

/-- A message whose attributes can all be read back. -/
structure Sendable (msg : StunMsg) : Prop extends Framed msg where
  understood : Understood msg
  exact_ : ∀ a ∈ msg.attrs, a.exact = true

section Sealed

variable {a : Attr} {hmac : Option (Octets 20)} {crc : Option UInt32}

theorem Attr.sealed_size : (a.sealed hmac crc).size = a.size := by
  obtain ⟨type, length, value, suits⟩ := a
  cases value <;> rfl

theorem Attr.sealed_exact : (a.sealed hmac crc).exact = a.exact := by
  obtain ⟨type, length, value, suits⟩ := a
  cases value <;> rfl

theorem Attr.sealed_understood : (a.sealed hmac crc).understood = a.understood := by
  rw [Attr.understood, Attr.sealed_type]
  rfl

theorem Attr.sealed_taken (stops : a.stops = true) : (a.sealed hmac crc).refused = false := by
  rw [Attr.stops, Bool.or_eq_true, decide_eq_true_eq, decide_eq_true_eq] at stops
  obtain ⟨type, length, value, suits⟩ := a
  rcases stops with msgint | fingerprint
  · obtain ⟨-, old, same⟩ := Attr.msgint_value msgint
    cases same
    rfl
  · obtain ⟨old, same⟩ := Attr.fingerprint_value fingerprint
    cases same
    rfl

end Sealed

theorem sizes_aligned (attrs : List Attr) : (attrs.map Attr.size).sum % 4 = 0 := by
  induction attrs with
  | nil => rfl
  | cons a attrs ih =>
    have := a.size_aligned
    rw [List.map_cons, List.sum_cons]
    omega

section Printout

variable {env : StunEnv} {msg msg' : StunMsg} {key : Option (List UInt8)} {out : List UInt8}
  (p : Printout env msg msg' key out)

/-- The attributes that are printed. -/
def Printout.sent : List Attr :=
  p.done ++ (p.mi.toList ++ p.fp.toList).map (Attr.sealed p.hmac p.crc)

theorem Printout.stops {a : Attr} (mem : a ∈ p.mi.toList ++ p.fp.toList) : a.stops = true := by
  rw [Attr.stops, Bool.or_eq_true, decide_eq_true_eq, decide_eq_true_eq]
  rcases List.mem_append.1 mem with mem | mem
  · exact .inl (p.miType a (Option.mem_toList.1 mem))
  · exact .inr (p.fpType a (Option.mem_toList.1 mem))

theorem Printout.sent_images : List.Forall₂ (Image env msg.hdr) p.sent (p.imgs ++ p.tailImgs) :=
  List.rel_append p.images p.tailImages

theorem Printout.sent_ordered : Ordered p.sent := by
  have plain : ∀ a ∈ p.done, a.type ≠ attrMessageIntegrity ∧ a.type ≠ attrFingerprint := by
    intro a mem
    simpa [Attr.stops] using (p.plain a mem).1
  rw [Ordered, Printout.sent, List.pairwise_append]
  refine ⟨?_, ?_, ?_⟩
  · apply List.pairwise_of_forall_mem_list
    intro a mem b _
    exact ⟨(plain a mem).2, fun msgint => absurd msgint (plain a mem).1⟩
  · have types : attrMessageIntegrity ≠ attrFingerprint := by decide
    cases mi : p.mi with
    | none => cases p.fp <;> simp
    | some a =>
      cases fp : p.fp with
      | none => simp
      | some b => simp [p.miType a mi, p.fpType b fp, types, types.symm]
  · intro a mem b _
    exact ⟨(plain a mem).2, fun msgint => absurd msgint (plain a mem).1⟩

variable (framed : Framed msg)

include framed

theorem Printout.sent_eq : p.strays = [] ∧ msg'.attrs = p.sent := by
  have noStrays := p.noStray_iff.1 framed.last
  refine ⟨noStrays, ?_⟩
  rw [p.sealed_attrs, noStrays, List.nil_append, ← List.map_append]
  rfl

theorem Printout.sent_size : (p.sent.map Attr.size).sum < 65536 := by
  have body := framed.body
  rw [p.attrs, (p.sent_eq framed).1, List.nil_append] at body
  have same : ∀ attrs : List Attr, (attrs.map (Attr.sealed p.hmac p.crc)).map Attr.size
      = attrs.map Attr.size := by
    intro attrs
    rw [List.map_map]
    exact List.map_congr_left fun a _ => Attr.sealed_size
  rwa [Printout.sent, List.map_append, same, ← List.map_append]

theorem Printout.sent_carried : ∀ a ∈ p.sent, a.Carried := by
  intro a mem
  have small : a.size < 65536 := by
    have whole := p.sent_size framed
    obtain ⟨before, after, split⟩ := List.append_of_mem mem
    rw [split, List.map_append, List.map_cons, List.sum_append, List.sum_cons] at whole
    omega
  rcases List.mem_append.1 mem with mem | mem
  · exact ⟨(p.plain a mem).2, small⟩
  · obtain ⟨b, memB, rfl⟩ := List.mem_map.1 mem
    exact ⟨Attr.sealed_taken (p.stops memB), small⟩

theorem Printout.sent_forall {P : Attr → Prop}
    (sealed_ : ∀ a hmac crc, P (a.sealed hmac crc) ↔ P a) :
    (∀ a ∈ p.sent, P a) ↔ ∀ a ∈ msg.attrs, P a := by
  rw [p.attrs, (p.sent_eq framed).1, List.nil_append, Printout.sent, List.forall_mem_append,
    List.forall_mem_append, List.forall_mem_map]
  simp only [sealed_]

theorem Printout.body_length : (p.imgs ++ p.tailImgs).flatten.length % 4 = 0
    ∧ (p.imgs ++ p.tailImgs).flatten.length < 65536 := by
  rw [images_length p.sent_images]
  exact ⟨sizes_aligned _, p.sent_size framed⟩

omit framed in
theorem Printout.out_eq : out = hdrOctets msg.hdr
    (UInt16.ofNat (p.imgs ++ p.tailImgs).flatten.length) ++ (p.imgs ++ p.tailImgs).flatten := by
  have printed := p.printed
  rw [← List.length_append, ← List.flatten_append] at printed
  exact printed

end Printout

/-! ## The whole packet -/

section Header

variable (hdr : MsgHdr) (length : UInt16) (body : List UInt8)

theorem lengthField_between : (field16 2 : Reader ε _).run (hdrOctets hdr length ++ body)
    = .value length :=
  field16_between (put16 hdr.type) length _ rfl rfl

theorem magic_between : (field32 4 : Reader ε _).run (hdrOctets hdr length ++ body)
    = .value hdr.magic :=
  field32_between (put16 hdr.type ++ put16 length) hdr.magic _ rfl rfl

theorem decodeHdr_between : (decodeHdr : Reader ε _).run (hdrOctets hdr length ++ body)
    = .value { hdr with length } := by
  have type : (field16 0 : Reader ε _).run (hdrOctets hdr length ++ body) = .value hdr.type :=
    field16_between [] hdr.type _ rfl rfl
  have tsxId : (octets 8 12 : Reader ε _).run (hdrOctets hdr length ++ body) = .value hdr.tsxId :=
    octets_between (put16 hdr.type ++ put16 length ++ put32 hdr.magic) hdr.tsxId body rfl rfl
  rw [decodeHdr, run_bind, type, bind_value, run_bind, lengthField_between, bind_value, run_bind,
    magic_between, bind_value, run_bind, tsxId]
  rfl

end Header

/-- `pj_stun_msg_check` wants a type of 14 bits without the two highest, and takes whatever
looks like a FINGERPRINT at the end for one. -/
def Checkable (options : UInt32) (msg : StunMsg) : Prop :=
  hasOption options optCheckPacket = true → msg.hdr.type < 0x0200
    ∧ (hasOption options optNoFingerprintCheck = true ∨ ∃ a ∈ msg.attrs, a.type = attrFingerprint)

theorem checkFingerprint_sealed {env : StunEnv} {covered : List UInt8} {msgLen : Nat}
    (whole : covered.length + 8 = msgLen + 20) :
    (checkFingerprint env msgLen).run (covered ++ (put16 attrFingerprint ++ (put16 4
      ++ put32 (env.crc32 covered ^^^ xorFingerprint)))) = .value () := by
  have index : covered.length = msgLen + 20 - 8 := by omega
  have copied : (octets 0 (msgLen + 20 - 8) : Reader StunStatus _).run (covered
      ++ (put16 attrFingerprint ++ (put16 4 ++ put32 (env.crc32 covered ^^^ xorFingerprint))))
      = .value ⟨covered, index⟩ :=
    octets_between [] ⟨covered, index⟩ _ rfl rfl
  rw [checkFingerprint, run_bind, field16_between covered attrFingerprint _ rfl index, bind_value,
    if_pos rfl, run_bind, field16_between (covered ++ put16 attrFingerprint) 4 _ (by simp; rfl)
      (by simp [index]), bind_value, run_bind,
    field32_between (covered ++ put16 attrFingerprint ++ put16 4)
      (env.crc32 covered ^^^ xorFingerprint) [] (by simp) (by simp [index]), bind_value,
    if_neg (by decide), run_bind, copied, bind_value, if_neg (by simp)]
  rfl

section Packet

variable {env : StunEnv} {msg msg' : StunMsg} {key : Option (List UInt8)} {out : List UInt8}
  (p : Printout env msg msg' key out) (framed : Framed msg)

include p framed

theorem Printout.checked {options : UInt32} (type : msg.hdr.type < 0x0200)
    (fingerprint : hasOption options optNoFingerprintCheck = true
      ∨ ∃ a ∈ msg.attrs, a.type = attrFingerprint) :
    pjStunMsgCheck env out options = .value () := by
  obtain ⟨aligned, small⟩ := p.body_length framed
  have printed := p.out_eq
  have first : (octet 0 : Reader StunStatus _).run out
      = .value ((msg.hdr.type &&& 0xFF00) >>> 8).toUInt8 := by
    rw [printed]
    exact octet_between [] _ _ rfl rfl
  have number : (UInt16.ofNat (p.imgs ++ p.tailImgs).flatten.length).toNat
      = (p.imgs ++ p.tailImgs).flatten.length := by
    rw [UInt16.toNat_ofNat']
    omega
  have total : out.length = (p.imgs ++ p.tailImgs).flatten.length + 20 := by
    have := congrArg List.length printed
    rw [List.length_append, hdrOctets_length] at this
    omega
  have readLength : (field16 2 : Reader StunStatus _).run out = _ :=
    printed ▸ lengthField_between _ _ _
  have readMagic : (field32 4 : Reader StunStatus _).run out = _ :=
    printed ▸ magic_between _ _ _
  rw [pjStunMsgCheck, if_neg (by omega)]
  show Read.bind _ _ = _
  rw [first, bind_value, if_neg]
  · show Read.bind ((field16 2).run out) _ = _
    rw [readLength, bind_value, number, if_neg (by omega), if_neg (by omega)]
    show Read.bind ((field32 4).run out) _ = _
    rw [readMagic, bind_value]
    rcases fingerprint with off | ⟨a, mem, type⟩
    · rw [if_neg (by simp [off])]
      rfl
    · -- the FINGERPRINT among the attributes is the last thing printed
      have fp : a ∈ p.fp.toList := by
        rw [p.attrs, (p.sent_eq framed).1, List.mem_append, List.mem_append] at mem
        rcases mem with mem | mem | mem
        · have plain := (p.plain a mem).1
          simp [Attr.stops, type] at plain
        · have other := p.miType a (Option.mem_toList.1 mem)
          rw [type] at other
          exact absurd other (by decide)
        · exact mem
      obtain ⟨covered, whole⟩ := p.checksum a (Option.mem_toList.1 fp)
      have count := congrArg List.length whole
      simp only [List.length_append, put16_length, put32_length] at count
      split
      · exact (congrArg (checkFingerprint env _).run whole).trans
          (checkFingerprint_sealed (by omega))
      · rfl
  · -- its first octet is 0 or 1
    have value := toNat_value16 ((msg.hdr.type &&& 0xFF00) >>> 8).toUInt8
      (msg.hdr.type &&& 0x00FF).toUInt8
    change (value16 (put16 msg.hdr.type)).toNat = _ at value
    rw [value16_put16] at value
    rw [UInt16.lt_iff_toNat_lt] at type
    change msg.hdr.type.toNat < 512 at type
    generalize ((msg.hdr.type &&& 0xFF00) >>> 8).toUInt8 = octet at value
    have small : octet.toNat = 0 ∨ octet.toNat = 1 := by omega
    rw [not_and_or, not_not, not_not]
    exact small.imp UInt8.toNat_inj.1 UInt8.toNat_inj.1

theorem Printout.lengthField : (UInt16.ofNat (p.imgs ++ p.tailImgs).flatten.length).toNat
    = (p.imgs ++ p.tailImgs).flatten.length
      ∧ out.length = 20 + (p.imgs ++ p.tailImgs).flatten.length := by
  obtain ⟨-, small⟩ := p.body_length framed
  have total := congrArg List.length p.out_eq
  rw [List.length_append, hdrOctets_length] at total
  rw [UInt16.toNat_ofNat']
  exact ⟨by omega, total⟩

theorem Printout.screened {options : UInt32} (checkable : Checkable options msg) :
    screenPdu env out options = .value () := by
  have printed := p.out_eq
  have readLength : (field16 2 : Reader DecodeError _).run out = _ :=
    printed ▸ lengthField_between _ _ _
  obtain ⟨number, total⟩ := p.lengthField framed
  unfold screenPdu
  by_cases check : hasOption options optCheckPacket = true
  · obtain ⟨type, fingerprint⟩ := checkable check
    rw [if_pos check, p.checked framed type fingerprint]
  · rw [if_neg check]
    show Read.bind _ _ = _
    rw [readLength, bind_value, number, if_neg (by omega)]
    rfl

theorem Printout.sent_expected (hdr : MsgHdr) :
    Expects ⟨⟨hdr, [], Nat.zero_le _⟩, false, false⟩ p.sent := by
  have few : p.sent.length ≤ stunMaxAttr := by
    rw [← (p.sent_eq framed).2]
    exact msg'.attrCount
  exact ⟨by simpa using few, fun _ => rfl, nofun⟩

omit framed in
theorem Printout.start : out.drop 20 = (p.imgs ++ p.tailImgs).flatten :=
  (congrArg (List.drop 20) p.out_eq).trans (List.drop_left' (hdrOctets_length _ _))

variable (options : UInt32) (checkable : Checkable options msg) (wantResponse : Bool)

include checkable

theorem Printout.decode_eq : pjStunMsgDecode env out options wantResponse = decodeAttrs
      (wantResponse && isRequest msg.hdr.type) out ((p.imgs ++ p.tailImgs).flatten.length + 1)
      ⟨⟨{ msg.hdr with length := UInt16.ofNat (p.imgs ++ p.tailImgs).flatten.length }, [],
        Nat.zero_le _⟩, false, false⟩ 20 (p.imgs ++ p.tailImgs).flatten.length := by
  have printed := p.out_eq
  have readHdr : (decodeHdr : Reader DecodeError _).run out = _ :=
    printed ▸ decodeHdr_between _ _ _
  obtain ⟨number, total⟩ := p.lengthField framed
  unfold pjStunMsgDecode
  rw [if_neg (by omega)]
  show Read.bind _ _ = _
  rw [p.screened framed checkable, bind_value]
  show Read.bind _ _ = _
  rw [readHdr, bind_value]
  show decodeAttrs _ _ ((UInt16.ofNat (p.imgs ++ p.tailImgs).flatten.length).toNat + 1) _ 20
    (UInt16.ofNat (p.imgs ++ p.tailImgs).flatten.length).toNat = _
  rw [number]

theorem Printout.decoded (understood : Understood msg) :
    ∃ got, pjStunMsgDecode env out options wantResponse = .value (got, out.length)
      ∧ got.hdr = msg'.hdr ∧ List.Forall₂ (ReadAs msg.hdr) msg'.attrs got.attrs := by
  have sentUnderstood := (p.sent_forall framed fun a hmac crc => by
    rw [Attr.sealed_understood]).2 understood
  have total := congrArg List.length p.out_eq
  rw [List.length_append, hdrOctets_length] at total
  have kept := congrArg StunMsg.hdr p.kept
  rw [← List.length_append, ← List.flatten_append] at kept
  obtain ⟨got, gots, ended, hdr, attrs, allRead⟩ := decodeAttrs_images framed.magic
    (wantResponse && isRequest msg.hdr.type)
    ⟨⟨{ msg.hdr with length := UInt16.ofNat (p.imgs ++ p.tailImgs).flatten.length }, [],
      Nat.zero_le _⟩, false, false⟩
    20 p.sent_images (p.sent_carried framed) sentUnderstood p.sent_ordered rfl
    (p.sent_expected framed _) p.start (Nat.lt_succ_self _)
  refine ⟨got, ?_, hdr.trans kept.symm, ?_⟩
  · rw [p.decode_eq framed options checkable, total]
    exact ended
  · rw [(p.sent_eq framed).2, attrs]
    exact allRead

theorem Printout.not_decoded (refused : ¬ Understood msg) :
    ∃ e, pjStunMsgDecode env out options wantResponse = .error e := by
  have sentRefused : ¬ ∀ a ∈ p.sent, a.understood = true := by
    intro all
    exact refused ((p.sent_forall framed fun a hmac crc => by rw [Attr.sealed_understood]).1 all)
  rw [p.decode_eq framed options checkable]
  exact decodeAttrs_refuses framed.magic _ _ 20 p.sent_images (p.sent_carried framed) sentRefused
    p.sent_ordered rfl (p.sent_expected framed _) p.start
    (Nat.lt_succ_self _)

end Packet

theorem forall₂_same {msghdr : MsgHdr} {sent got : List Attr}
    (allRead : List.Forall₂ (ReadAs msghdr) sent got) (exact_ : ∀ a ∈ sent, a.exact = true) :
    List.Forall₂ Attr.Same sent got := by
  induction allRead with
  | nil => exact .nil
  | @cons a b sent got readAs _ ih =>
    rw [List.forall_mem_cons] at exact_
    exact .cons ⟨readAs.type, readAs.value exact_.1⟩ (ih exact_.2)

/-- A message that is printed and parsed is the same message, with the digest and the checksum
that were computed for it. -/
theorem pjStunMsgEncode_roundTrip {env : StunEnv} {msg msg' : StunMsg} {cells : Nat → UInt8}
    {bufSize : UInt64} {key : Option (List UInt8)} {len : Nat} {e : Enc}
    (sendable : Sendable msg)
    (printed : pjStunMsgEncode env msg cells bufSize 0 key = .ok (msg', len) e)
    (options : UInt32) (checkable : Checkable options msg) (wantResponse : Bool) :
    ∃ got, pjStunMsgDecode env (e.mem.slice 0 len) options wantResponse = .value (got, len)
      ∧ got.hdr = { msg.hdr with length := msg'.hdr.length }
      ∧ List.Forall₂ Attr.Same msg'.attrs got.attrs
      ∧ ∃ hmac crc, msg'.attrs = msg.attrs.map (Attr.sealed hmac crc) := by
  obtain ⟨-, ⟨p⟩⟩ := pjStunMsgEncode_printout printed
  obtain ⟨got, decoded, hdr, allRead⟩ :=
    p.decoded sendable.toFramed options checkable wantResponse sendable.understood
  rw [Buffer.slice_length] at decoded
  have kept := p.kept
  have exact_ : ∀ a ∈ msg'.attrs, a.exact = true := by
    rw [(p.sent_eq sendable.toFramed).2]
    exact (p.sent_forall sendable.toFramed fun a hmac crc => by rw [Attr.sealed_exact]).2
      sendable.exact_
  refine ⟨got, decoded, ?_, ?_, p.hmac, p.crc, congrArg StunMsg.attrs kept⟩
  · rw [hdr]
    exact (congrArg StunMsg.hdr kept).trans (by rw [congrArg (·.hdr.length) kept]; rfl)
  · exact forall₂_same allRead exact_

/-- A request with an address, texts, data of unknown meaning and both attributes that
protect. -/
def bindingRequest : StunMsg where
  hdr := ⟨0x0001, 0, stunMagic, .fill 12 7⟩
  attrs := [stringAttr attrUsername (printed80 "user") attrKind_username,
    ⟨0x0020, 8, .sockaddr true (.inet 3478 ⟨[10, 0, 0, 1], rfl⟩), rfl⟩,
    stringAttr attrSoftware (printed80 "pjnath") attrKind_software,
    ⟨0xC001, 1, .binary stunMagic ⟨[9], by decide⟩, rfl⟩,
    msgintAttr,
    fingerprintAttr]
  attrCount := by decide

theorem bindingRequest_fits : Ends (fun _ _ => True) (fun _ _ => False)
    (pjStunMsgEncode (.constant ⟨List.replicate 20 1, rfl⟩ 2) bindingRequest (fun _ => 0) 200 0
      (some [107])) := by
  decide +kernel

theorem bindingRequest_sendable : Sendable bindingRequest := by
  refine ⟨⟨rfl, ?_, ?_⟩, ?_, ?_⟩
  · unfold NoStray
    decide +kernel
  · decide +kernel
  · unfold Understood
    decide +kernel
  · decide +kernel

theorem pjStunMsgEncode_roundTrip_binding : Ends (fun result e => ∃ got,
        pjStunMsgDecode (.constant ⟨List.replicate 20 1, rfl⟩ 2) (e.mem.slice 0 result.2)
            (optIsDatagram ||| optCheckPacket) true = .value (got, result.2)
          ∧ got.hdr = { bindingRequest.hdr with length := result.1.hdr.length }
          ∧ List.Forall₂ Attr.Same result.1.attrs got.attrs
          ∧ ∃ hmac crc, result.1.attrs = bindingRequest.attrs.map (Attr.sealed hmac crc))
      (fun _ _ => False)
      (pjStunMsgEncode (.constant ⟨List.replicate 20 1, rfl⟩ 2) bindingRequest (fun _ => 0) 200 0
        (some [107])) := by
  have checkable : Checkable (optIsDatagram ||| optCheckPacket) bindingRequest :=
    fun _ => ⟨by decide, .inr ⟨_, List.mem_of_getElem? (i := 5) rfl, rfl⟩⟩
  have fits := bindingRequest_fits
  cases printed : pjStunMsgEncode (.constant ⟨List.replicate 20 1, rfl⟩ 2) bindingRequest
      (fun _ => 0) 200 0 (some [107]) with
  | ok result e => exact pjStunMsgEncode_roundTrip bindingRequest_sendable printed _ checkable true
  | error status e =>
    rw [printed] at fits
    exact fits.elim

end Pjsip.Pjnath.Stun
