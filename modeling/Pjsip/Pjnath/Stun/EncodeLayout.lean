import Pjsip.Pjnath.Stun.Printed
import Mathlib.Data.List.Forall2

/-!
# What has been printed when printing succeeds

The header, and behind it the image of each attribute up to the first MESSAGE-INTEGRITY or
FINGERPRINT, of that MESSAGE-INTEGRITY, and of a FINGERPRINT at the very end. Attributes
between the last two are passed over.
-/

namespace Pjsip.Pjnath.Stun

open Pjsip.Base

/-! ## The attributes that protect -/

section Sealed

variable {a : Attr} {hmac : Option (Octets 20)} {crc : Option UInt32}

@[simp] theorem Attr.sealed_type : (a.sealed hmac crc).type = a.type := by
  obtain ⟨type, length, value, suits⟩ := a
  cases value <;> rfl

@[simp] theorem Attr.sealed_length : (a.sealed hmac crc).length = a.length := by
  obtain ⟨type, length, value, suits⟩ := a
  cases value <;> rfl

theorem Attr.sealed_plain (plain : a.stops = false) : a.sealed hmac crc = a := by
  obtain ⟨type, length, value, suits⟩ := a
  simp only [Attr.stops, Bool.or_eq_false_iff, decide_eq_false_iff_not] at plain
  cases value with
  | msgint old => simp only [Attr.sealed, if_neg plain.1]
  | uint old => simp only [Attr.sealed, if_neg plain.2]
  | _ => rfl

theorem Attr.msgint_value (type : a.type = attrMessageIntegrity) :
    a.length = 20 ∧ ∃ old, a.value = .msgint old := by
  obtain ⟨type', length, value, suits⟩ := a
  cases type
  cases value with
  | msgint old => exact ⟨of_decide_eq_true suits, old, rfl⟩
  | _ => nomatch suits

theorem Attr.fingerprint_value (type : a.type = attrFingerprint) : ∃ old, a.value = .uint old := by
  obtain ⟨type', length, value, suits⟩ := a
  cases type
  cases value with
  | uint old => exact ⟨old, rfl⟩
  | _ => nomatch suits

theorem Attr.sealed_msgint (digest : Octets 20) (crc : Option UInt32) (type : a.type = attrMessageIntegrity) :
    (a.sealed (some digest) crc).value = .msgint digest := by
  obtain ⟨-, old, value⟩ := Attr.msgint_value type
  obtain ⟨type', length, value', suits⟩ := a
  cases value
  cases type
  rfl

theorem Attr.sealed_fingerprint (hmac : Option (Octets 20)) (checksum : UInt32) (type : a.type = attrFingerprint) :
    (a.sealed hmac (some checksum)).value = .uint checksum := by
  obtain ⟨old, value⟩ := Attr.fingerprint_value type
  obtain ⟨type', length, value', suits⟩ := a
  cases value
  cases type
  rfl

end Sealed

/-! ## Images -/

/-- What an attribute takes up: what is stored for it, and what was there before. -/
def Image (env : StunEnv) (msghdr : MsgHdr) (a : Attr) (img : List UInt8) : Prop :=
  (∃ pad, img = a.wire env msghdr ++ pad) ∧ img.length = a.size

/-- The memory holds the header and `body` up to where the encoder is. -/
def Laid (msghdr : MsgHdr) (length : UInt16) (body : List UInt8) (e : Enc) : Prop :=
  e.mem.slice 0 e.pos = hdrOctets msghdr length ++ body

section Laid

variable {env : StunEnv} {msghdr : MsgHdr} {length : UInt16} {body : List UInt8} {e : Enc}

theorem Laid.pos (laid : Laid msghdr length body e) : e.pos = 20 + body.length := by
  have := congrArg List.length laid
  rwa [Buffer.slice_length, List.length_append, hdrOctets_length] at this

theorem Laid.advance (laid : Laid msghdr length body e) {stored : List UInt8} {printed : Nat}
    (inside : stored.length ≤ printed) :
    ∃ pad, pad.length = printed - stored.length
      ∧ Laid msghdr length (body ++ (stored ++ pad)) (e.advance stored printed) := by
  refine ⟨e.mem.slice (e.pos + stored.length) (printed - stored.length), by simp, ?_⟩
  show (e.mem.store e.pos stored).slice 0 (e.pos + printed) = _
  rw [Buffer.slice_store_end e.mem inside, laid]
  simp only [List.append_assoc]

theorem Laid.image (laid : Laid msghdr length body e) (env : StunEnv) {a : Attr} (taken : a.refused = false) :
    ∃ img, Image env msghdr a img
      ∧ Laid msghdr length (body ++ img) (e.advance (a.wire env msghdr) a.size) := by
  have inside := Attr.wire_length env msghdr taken
  obtain ⟨pad, padLength, laid'⟩ := laid.advance inside
  refine ⟨_, ⟨⟨pad, rfl⟩, ?_⟩, laid'⟩
  rw [List.length_append]
  omega

theorem Laid.patch (laid : Laid msghdr length body e) (length' : UInt16) :
    Laid msghdr length' body (e.patch length') := by
  have long := laid.pos
  show (e.mem.store 2 (put16 length')).slice 0 e.pos = _
  rw [Buffer.slice_store_within e.mem (by rw [put16_length]; omega), laid]
  rfl

theorem Laid.lengthField (laid : Laid msghdr length body e) : e.mem.slice 2 2 = put16 length := by
  have long := laid.pos
  have field : (e.mem.slice 0 e.pos).drop 2 = e.mem.slice 2 (e.pos - 2) := by
    rw [show e.pos = 2 + (e.pos - 2) by omega, Buffer.slice_append, Nat.zero_add,
      show 2 + (e.pos - 2) - 2 = e.pos - 2 by omega]
    exact List.drop_left' (Buffer.slice_length _ _ _)
  have two : e.mem.slice 2 2 = (e.mem.slice 2 (e.pos - 2)).take 2 := by
    rw [show e.pos - 2 = 2 + (e.pos - 4) by omega, Buffer.slice_append]
    exact (List.take_left' (Buffer.slice_length _ _ _)).symm
  rw [two, ← field, laid]
  rfl

end Laid

/-! ## The loops -/

variable {found : Protection}

section Loops

variable {env : StunEnv} {msghdr : MsgHdr}

theorem encodeAttrs_ok {length : UInt16} {attrs rest : List Attr} {body : List UInt8} {e e' : Enc}
    (ran : (encodeAttrs env msghdr attrs).run e = .ok rest e')
    (laid : Laid msghdr length body e) :
    ∃ done imgs, attrs = done ++ rest ∧ (∀ a ∈ done, a.stops = false ∧ a.refused = false)
      ∧ (∀ a ∈ rest.head?, a.stops = true) ∧ List.Forall₂ (Image env msghdr) done imgs
      ∧ Laid msghdr length (body ++ imgs.flatten) e' := by
  induction attrs generalizing e body with
  | nil =>
    cases ran
    exact ⟨[], [], rfl, nofun, nofun, .nil, by simpa using laid⟩
  | cons a attrs ih =>
    unfold encodeAttrs at ran
    cases stops : a.stops with
    | true =>
      rw [if_pos stops] at ran
      cases ran
      exact ⟨[], [], rfl, nofun, by simp [stops], .nil, by simpa using laid⟩
    | false =>
      rw [if_neg (by simp [stops])] at ran
      change (emit (a.encode env msghdr (e.room % 2 ^ 32))
        >>= fun _ => encodeAttrs env msghdr attrs).run e = _ at ran
      rcases emit_attr env msghdr a e with
        ⟨taken, -, printed⟩ | ⟨-, status, mem, failed⟩
      · rw [bind_run_ok printed] at ran
        obtain ⟨img, image, laid'⟩ := laid.image env taken
        obtain ⟨done, imgs, whole, plain, head, images, laid''⟩ := ih ran laid'
        refine ⟨a :: done, img :: imgs, by rw [whole]; rfl, ?_, head, .cons image images, ?_⟩
        · intro b mem
          rcases List.mem_cons.1 mem with rfl | mem
          · exact ⟨stops, taken⟩
          · exact plain b mem
        · rwa [List.flatten_cons, ← List.append_assoc]
      · rw [bind_run_error failed] at ran
        nomatch ran

theorem scanRest_ok {mi : Attr} {rest : List Attr}
    (ok : scanRest rest ⟨some mi, none⟩ = .ok found) :
    ∃ strays fp, rest = strays ++ fp.toList ∧ found = ⟨some mi, fp⟩
      ∧ (∀ a ∈ strays, a.stops = false) ∧ ∀ a ∈ fp, a.type = attrFingerprint := by
  induction rest with
  | nil =>
    cases ok
    exact ⟨[], none, rfl, rfl, nofun, nofun⟩
  | cons a rest ih =>
    unfold scanRest at ok
    by_cases msgint : a.type = attrMessageIntegrity
    · rw [if_pos msgint] at ok
      nomatch ok
    · rw [if_neg msgint] at ok
      by_cases fingerprint : a.type = attrFingerprint
      · rw [if_pos fingerprint] at ok
        cases rest with
        | nil =>
          cases ok
          exact ⟨[], some a, rfl, rfl, nofun, by simpa using fingerprint⟩
        | cons b rest => nomatch ok
      · rw [if_neg fingerprint] at ok
        obtain ⟨strays, fp, rfl, same, plain, last⟩ := ih ok
        refine ⟨a :: strays, fp, rfl, same, ?_, last⟩
        intro b mem
        rcases List.mem_cons.1 mem with rfl | mem
        · simp [Attr.stops, msgint, fingerprint]
        · exact plain b mem

/-- What the two loops find: up to MESSAGE-INTEGRITY, strays, and FINGERPRINT. -/
theorem scan_stoppedAt_ok {rest : List Attr}
    (ok : scanRest rest.tail (stoppedAt rest) = .ok found)
    (head : ∀ a ∈ rest.head?, a.stops = true) :
    ∃ strays, rest = found.amsgint.toList ++ (strays ++ found.afingerprint.toList)
      ∧ (∀ a ∈ strays, a.stops = false) ∧ (found.amsgint = none → strays = [])
      ∧ (∀ a ∈ found.amsgint, a.type = attrMessageIntegrity)
      ∧ ∀ a ∈ found.afingerprint, a.type = attrFingerprint := by
  cases rest with
  | nil =>
    cases ok
    exact ⟨[], rfl, nofun, fun _ => rfl, nofun, nofun⟩
  | cons a rest =>
    have stops := head a rfl
    simp only [Attr.stops, Bool.or_eq_true, decide_eq_true_eq] at stops
    by_cases msgint : a.type = attrMessageIntegrity
    · rw [stoppedAt, if_pos msgint] at ok
      obtain ⟨strays, fp, same, rfl, plain, last⟩ := scanRest_ok ok
      change rest = _ at same
      exact ⟨strays, by rw [same]; rfl, plain, nofun, by simpa using msgint, last⟩
    · have fingerprint := stops.resolve_left msgint
      rw [stoppedAt, if_neg msgint] at ok
      cases rest with
      | nil =>
        cases ok
        exact ⟨[], rfl, nofun, fun _ => rfl, nofun, by simpa using fingerprint⟩
      | cons b rest => nomatch ok

/-- The index that is tested is behind the last attribute by then: the test never fires. -/
theorem checkLast_ok {attrs : List Attr} {stop : Nat} (found : Protection)
    (_few : attrs.length ≤ stunMaxAttr) (stopped : stop < attrs.length) :
    checkLast attrs (max (stop + 1) attrs.length) found = .ok found := by
  have index : max (stop + 1) attrs.length = attrs.length := by omega
  have last2 : attrs.length ≠ (attrs.length + 2 ^ 32 - 2) % 2 ^ 32 := by omega
  have after : ¬ (1 < attrs.length ∧ attrs.length < (attrs.length + 2 ^ 32 - 2) % 2 ^ 32) := by
    omega
  rw [index, checkLast, if_neg after, if_neg last2]

end Loops

/-! ## MESSAGE-INTEGRITY and FINGERPRINT -/

section Protection

variable {env : StunEnv} {msghdr : MsgHdr} {a : Attr}

theorem sealed_msgint_image {digest : Octets 20} (crc : Option UInt32)
    (type : a.type = attrMessageIntegrity) :
    Image env msghdr (a.sealed (some digest) crc)
      (put16 a.type ++ (put16 a.length ++ digest.1)) := by
  have value := Attr.sealed_msgint digest crc type
  have taken : (a.sealed (some digest) crc).refused = false := by rw [Attr.refused, value]
  refine ⟨⟨[], ?_⟩, ?_⟩
  · rw [Attr.wire_eq env msghdr taken, Attr.wireLength, Attr.payload, value, List.append_nil]
    simp
  · rw [Attr.size, value]
    simp [digest.2]

theorem sealed_fingerprint_image {checksum : UInt32} (hmac : Option (Octets 20))
    (type : a.type = attrFingerprint) :
    Image env msghdr (a.sealed hmac (some checksum))
      (put16 a.type ++ (put16 4 ++ put32 checksum)) := by
  have value := Attr.sealed_fingerprint hmac checksum type
  have taken : (a.sealed hmac (some checksum)).refused = false := by rw [Attr.refused, value]
  refine ⟨⟨[], ?_⟩, ?_⟩
  · rw [Attr.wire_eq env msghdr taken, Attr.wireLength, Attr.payload, value, List.append_nil]
    simp
  · rw [Attr.size, value]
    simp

theorem emit_whole_ok {e e' : Enc} {need : Nat} {stored : List UInt8}
    (ran : (emit (.unlessShort (e.room % 2 ^ 32) need stored need)).run e = .ok () e')
    (whole : stored.length = need) {length : UInt16} {body : List UInt8}
    (laid : Laid msghdr length body e) : Laid msghdr length (body ++ stored) e' := by
  by_cases enough : need ≤ e.room % 2 ^ 32
  · rw [Emit.unlessShort_enough enough] at ran
    cases ran
    obtain ⟨pad, unpadded, laid'⟩ := laid.advance (Nat.le_of_eq whole)
    rw [whole, Nat.sub_self, List.length_eq_zero_iff] at unpadded
    rwa [unpadded, List.append_nil] at laid'
  · rw [Emit.unlessShort_short (Nat.lt_of_not_le enough)] at ran
    nomatch ran

theorem printMsgint_ok {key : List UInt8} {e e' : Enc} {hmac : Octets 20} {length : UInt16}
    {body : List UInt8} (ran : (printMsgint env key a).run e = .ok hmac e')
    (laid : Laid msghdr length body e) :
    hmac = env.hmacSha1 key (hdrOctets msghdr length ++ body)
      ∧ Laid msghdr length (body ++ (put16 a.type ++ (put16 a.length ++ hmac.1))) e' := by
  obtain ⟨_, _, got, ran⟩ := bind_ok.1 ran
  cases got
  obtain ⟨_, _, printed, same⟩ := bind_ok.1 ran
  cases same
  rw [laid] at printed ⊢
  refine ⟨rfl, emit_whole_ok printed ?_ laid⟩
  simp [(env.hmacSha1 key (hdrOctets msghdr length ++ body)).2]

theorem printFingerprint_ok {e e' : Enc} {crc : UInt32} {length : UInt16} {body : List UInt8}
    (ran : (printFingerprint env a).run e = .ok crc e') (laid : Laid msghdr length body e) :
    crc = env.crc32 (hdrOctets msghdr (length + 8) ++ body) ^^^ xorFingerprint
      ∧ Laid msghdr (length + 8) (body ++ (put16 a.type ++ (put16 4 ++ put32 crc))) e' := by
  have patched := laid.patch (length + 8)
  obtain ⟨_, _, got, ran⟩ := bind_ok.1 ran
  cases got
  rw [laid.lengthField, value16_put16] at ran
  obtain ⟨_, _, stored, ran⟩ := bind_ok.1 ran
  cases stored
  obtain ⟨_, _, got, ran⟩ := bind_ok.1 ran
  cases got
  obtain ⟨_, _, printed, same⟩ := bind_ok.1 ran
  cases same
  rw [patched] at printed ⊢
  exact ⟨rfl, emit_whole_ok printed rfl patched⟩

end Protection

/-! ## The whole message -/

/-- What there is to know of a message that has been printed. -/
structure Printout (env : StunEnv) (msg msg' : StunMsg) (key : Option (List UInt8))
    (out : List UInt8) where
  done : List Attr
  mi : Option Attr
  strays : List Attr
  fp : Option Attr
  hmac : Option (Octets 20)
  crc : Option UInt32
  imgs : List (List UInt8)
  tailImgs : List (List UInt8)
  attrs : msg.attrs = done ++ (mi.toList ++ (strays ++ fp.toList))
  plain : ∀ a ∈ done, a.stops = false ∧ a.refused = false
  stray : ∀ a ∈ strays, a.stops = false
  noStray : mi = none → strays = []
  miType : ∀ a ∈ mi, a.type = attrMessageIntegrity
  fpType : ∀ a ∈ fp, a.type = attrFingerprint
  images : List.Forall₂ (Image env msg.hdr) done imgs
  tailImages : List.Forall₂ (Image env msg.hdr)
    ((mi.toList ++ fp.toList).map (Attr.sealed hmac crc)) tailImgs
  printed : out = hdrOctets msg.hdr (UInt16.ofNat (imgs.flatten.length + tailImgs.flatten.length))
    ++ (imgs.flatten ++ tailImgs.flatten)
  kept : msg' = msg.sealed hmac crc (UInt16.ofNat (imgs.flatten.length + tailImgs.flatten.length))
  integrity : ∀ a ∈ mi, ∃ k, key = some k ∧ hmac = some (env.hmacSha1 k
    (hdrOctets msg.hdr (UInt16.ofNat (imgs.flatten.length + 24)) ++ imgs.flatten))
  checksum : ∀ a ∈ fp, ∃ covered, out = covered
    ++ (put16 attrFingerprint ++ (put16 4 ++ put32 (env.crc32 covered ^^^ xorFingerprint)))

theorem printIntegrity_ok {env : StunEnv} {msghdr : MsgHdr} {attrs : List Attr} {i : Nat}
    {key : Option (List UInt8)} {e e' : Enc}
    {result : Option (Octets 20) × Protection} {body : List UInt8}
    (ran : (printIntegrity env attrs i key found).run e = .ok result e')
    (laid : Laid msghdr
      (UInt16.ofNat (body.length + if found.amsgint.isSome then 24 else 0)) body e)
    (last : ∀ a ∈ found.amsgint, checkLast attrs i found = .ok found)
    (type : ∀ a ∈ found.amsgint, a.type = attrMessageIntegrity) :
    ∃ tail, result.2 = found ∧ (∀ crc, List.Forall₂ (Image env msghdr)
        (found.amsgint.toList.map (Attr.sealed result.1 crc)) tail)
      ∧ (∀ a ∈ found.amsgint, ∃ k, key = some k ∧ result.1 = some (env.hmacSha1 k
          (hdrOctets msghdr (UInt16.ofNat (body.length + 24)) ++ body)))
      ∧ Laid msghdr (UInt16.ofNat (body.length + tail.flatten.length)) (body ++ tail.flatten)
          e' := by
  unfold printIntegrity at ran
  cases amsgint : found.amsgint with
  | none =>
    rw [amsgint] at ran laid
    cases ran
    exact ⟨[], rfl, fun _ => .nil, nofun, by simpa using laid⟩
  | some a =>
    have miType := type a amsgint
    rw [amsgint] at ran laid
    cases key with
    | none => nomatch ran
    | some k =>
      simp only [last a amsgint] at ran
      obtain ⟨_, e1, same, ran⟩ := bind_ok.1 ran
      cases same
      obtain ⟨hmac, e2, printed, same⟩ := bind_ok.1 ran
      cases same
      obtain ⟨digest, laid'⟩ := printMsgint_ok printed laid
      have whole : (put16 a.type ++ (put16 a.length ++ hmac.1)).length = 24 := by
        simp [hmac.2]
      refine ⟨[put16 a.type ++ (put16 a.length ++ hmac.1)], rfl, ?_, ?_, ?_⟩
      · intro crc
        exact .cons (sealed_msgint_image crc miType) .nil
      · intro b mem
        exact ⟨k, rfl, congrArg some digest⟩
      · rw [List.flatten_singleton, whole]
        exact laid'

theorem printChecksum_ok {env : StunEnv} {msghdr : MsgHdr} {e e' : Enc}
    {crc : Option UInt32} {length : UInt16} {body : List UInt8}
    (ran : (printChecksum env found).run e = .ok crc e') (laid : Laid msghdr length body e)
    (type : ∀ a ∈ found.afingerprint, a.type = attrFingerprint) :
    ∃ tail, (∀ hmac, List.Forall₂ (Image env msghdr)
        (found.afingerprint.toList.map (Attr.sealed hmac crc)) tail)
      ∧ Laid msghdr (length + UInt16.ofNat tail.flatten.length) (body ++ tail.flatten) e'
      ∧ ∀ a ∈ found.afingerprint, ∃ covered, e'.mem.slice 0 e'.pos = covered
          ++ (put16 attrFingerprint ++ (put16 4
            ++ put32 (env.crc32 covered ^^^ xorFingerprint))) := by
  unfold printChecksum at ran
  cases afingerprint : found.afingerprint with
  | none =>
    rw [afingerprint] at ran
    cases ran
    exact ⟨[], fun _ => .nil, by simpa using laid, nofun⟩
  | some a =>
    have fpType := type a afingerprint
    rw [afingerprint] at ran
    obtain ⟨checksum, e1, printed, same⟩ := bind_ok.1 ran
    cases same
    obtain ⟨digest, laid'⟩ := printFingerprint_ok printed laid
    refine ⟨[put16 a.type ++ (put16 4 ++ put32 checksum)], ?_, ?_, ?_⟩
    · intro hmac
      exact .cons (sealed_fingerprint_image hmac fpType) .nil
    · rw [List.flatten_singleton]
      exact laid'
    · intro b mem
      refine ⟨hdrOctets msghdr (length + 8) ++ body, ?_⟩
      rw [laid', digest, fpType, List.append_assoc]

theorem encodeBody_ok {env : StunEnv} {msg : StunMsg} {key : Option (List UInt8)} {e e' : Enc}
    {result : StunMsg × Nat} (ran : (encodeBody env msg key).run e = .ok result e')
    (laid : Laid msg.hdr 0 [] e) :
    result.2 = e'.pos ∧ Nonempty (Printout env msg result.1 key (e'.mem.slice 0 result.2)) := by
  obtain ⟨rest, e1, printed, ran⟩ := bind_ok.1 ran
  obtain ⟨done, imgs, whole, plain, head, images, laid1⟩ := encodeAttrs_ok printed laid
  obtain ⟨found, e2, scanned, ran⟩ := bind_ok.1 ran
  cases scan : scanRest rest.tail (stoppedAt rest) with
  | error status =>
    rw [scan] at scanned
    nomatch scanned
  | ok found' =>
    rw [scan] at scanned
    cases scanned
    obtain ⟨strays, tail, stray, noStray, miType, fpType⟩ := scan_stoppedAt_ok scan head
    obtain ⟨_, _, got, ran⟩ := bind_ok.1 ran
    cases got
    obtain ⟨_, _, patched, ran⟩ := bind_ok.1 ran
    cases patched
    have laid2 := laid1.patch (UInt16.ofNat
      (imgs.flatten.length + if found.amsgint.isSome then 24 else 0))
    rw [List.nil_append] at laid1 laid2
    rw [laid1.pos, show 20 + imgs.flatten.length - 20 = imgs.flatten.length by omega] at ran
    obtain ⟨integrity, e3, printed3, ran⟩ := bind_ok.1 ran
    have last : ∀ a ∈ found.amsgint, checkLast msg.attrs
        (max (msg.attrs.length - rest.length + 1) msg.attrs.length) found = .ok found := by
      intro a mem
      refine checkLast_ok found msg.attrCount ?_
      have signed : found.amsgint = some a := mem
      have := congrArg List.length whole
      have := congrArg List.length tail
      simp only [List.length_append, signed, Option.toList_some, List.length_singleton] at *
      omega
    obtain ⟨miImgs, same, miImages, digest, laid3⟩ :=
      printIntegrity_ok printed3 laid2 last miType
    obtain ⟨crc, e4, printed4, ran⟩ := bind_ok.1 ran
    rw [same] at printed4
    obtain ⟨fpImgs, fpImages, laid4, checksum⟩ := printChecksum_ok printed4 laid3 fpType
    obtain ⟨_, _, got, ran⟩ := bind_ok.1 ran
    cases got
    have size : e4.pos - 20 = imgs.flatten.length + (miImgs ++ fpImgs).flatten.length := by
      rw [laid4.pos]
      simp only [List.length_append, List.flatten_append]
      omega
    rw [size] at ran
    cases ran
    refine ⟨rfl, ⟨?_⟩⟩
    have lengths : UInt16.ofNat (imgs.flatten.length + miImgs.flatten.length)
        + UInt16.ofNat fpImgs.flatten.length
        = UInt16.ofNat (imgs.flatten.length + (miImgs ++ fpImgs).flatten.length) := by
      rw [← UInt16.ofNat_add, List.flatten_append, List.length_append, Nat.add_assoc]
    rw [lengths] at laid4
    refine {
      done, mi := found.amsgint, strays, fp := found.afingerprint, hmac := integrity.1, crc
      imgs, tailImgs := miImgs ++ fpImgs
      attrs := by rw [whole, tail]
      plain, stray, noStray, miType, fpType, images
      tailImages := ?_
      printed := ?_
      kept := rfl
      integrity := digest
      checksum }
    · rw [List.map_append]
      exact List.rel_append (miImages crc) (fpImages integrity.1)
    · rw [laid4, List.flatten_append, List.append_assoc]

theorem pjStunMsgEncode_printout {env : StunEnv} {msg msg' : StunMsg} {cells : Nat → UInt8}
    {bufSize : UInt64} {options : UInt32} {key : Option (List UInt8)} {len : Nat} {e : Enc}
    (ok : pjStunMsgEncode env msg cells bufSize options key = .ok (msg', len) e) :
    len = e.pos ∧ Nonempty (Printout env msg msg' key (e.mem.slice 0 len)) := by
  unfold pjStunMsgEncode at ok
  split at ok
  · nomatch ok
  · split at ok
    · nomatch ok
    · have start : Laid msg.hdr 0 [] (afterHeader msg cells bufSize.toNat) := by
        have stored := Buffer.slice_store ⟨cells, []⟩ 0 (hdrOctets msg.hdr 0)
        rw [hdrOctets_length] at stored
        rw [Laid, List.append_nil]
        exact stored
      exact encodeBody_ok ok start

end Pjsip.Pjnath.Stun

/-!
# Whether all attributes are printed

The loop over the attributes stops at MESSAGE-INTEGRITY. The test that was to refuse what
stands between it and FINGERPRINT looks at an index that has run on to the end by then, so
that these attributes are left out and the message is said to have been printed.
-/

namespace Pjsip.Pjnath.Stun

open Pjsip.Base

/-- The octets are the images of the attributes, one after the other. -/
def Carries (env : StunEnv) (msghdr : MsgHdr) (attrs : List Attr) (body : List UInt8) : Prop :=
  ∃ imgs, List.Forall₂ (Image env msghdr) attrs imgs ∧ body = imgs.flatten

/-- Nothing but FINGERPRINT comes after MESSAGE-INTEGRITY. -/
def NoStray (attrs : List Attr) : Prop :=
  attrs.Pairwise fun a b => a.type = attrMessageIntegrity → b.type = attrFingerprint

theorem images_length {env : StunEnv} {msghdr : MsgHdr} {attrs : List Attr}
    {imgs : List (List UInt8)} (images : List.Forall₂ (Image env msghdr) attrs imgs) :
    imgs.flatten.length = (attrs.map Attr.size).sum := by
  induction images with
  | nil => rfl
  | cons image _ ih =>
    rw [List.flatten_cons, List.length_append, image.2, ih, List.map_cons, List.sum_cons]

theorem Carries.length {env : StunEnv} {msghdr : MsgHdr} {attrs : List Attr} {body : List UInt8}
    (carries : Carries env msghdr attrs body) : body.length = (attrs.map Attr.size).sum := by
  obtain ⟨imgs, images, rfl⟩ := carries
  exact images_length images

section Printout

variable {env : StunEnv} {msg msg' : StunMsg} {key : Option (List UInt8)} {out : List UInt8}
  (p : Printout env msg msg' key out)

include p

theorem Printout.body : out.drop 20 = p.imgs.flatten ++ p.tailImgs.flatten := by
  have printed := p.printed
  generalize UInt16.ofNat _ = length at printed
  exact (congrArg (List.drop 20) printed).trans (List.drop_left' (hdrOctets_length _ _))

theorem Printout.sealed_attrs : msg'.attrs = p.done ++ (p.mi.toList.map (Attr.sealed p.hmac p.crc)
      ++ (p.strays ++ p.fp.toList.map (Attr.sealed p.hmac p.crc))) := by
  have plain : ∀ attrs : List Attr, (∀ a ∈ attrs, a.stops = false) →
      attrs.map (Attr.sealed p.hmac p.crc) = attrs := by
    intro attrs plain
    conv => rhs; rw [← List.map_id attrs]
    exact List.map_congr_left fun a mem => Attr.sealed_plain (plain a mem)
  have whole : msg'.attrs = msg.attrs.map (Attr.sealed p.hmac p.crc) := by
    conv => lhs; rw [p.kept]
    rfl
  rw [whole, p.attrs, List.map_append, List.map_append, List.map_append,
    plain p.done fun a mem => (p.plain a mem).1, plain p.strays p.stray]

theorem Printout.carries_iff : Carries env msg.hdr msg'.attrs (out.drop 20) ↔ p.strays = [] := by
  constructor
  · intro carries
    have whole := carries.length
    have size := images_length p.images
    have tailSize := images_length p.tailImages
    rw [p.body, p.sealed_attrs] at whole
    simp only [List.length_append, List.map_append, List.sum_append] at whole tailSize
    have noStrays : (p.strays.map Attr.size).sum = 0 := by omega
    cases strays : p.strays with
    | nil => rfl
    | cons a rest =>
      have long := a.four_le_size
      rw [strays, List.map_cons, List.sum_cons] at noStrays
      omega
  · intro noStrays
    refine ⟨p.imgs ++ p.tailImgs, ?_, ?_⟩
    · rw [p.sealed_attrs, noStrays, List.nil_append, ← List.map_append]
      exact List.rel_append p.images p.tailImages
    · rw [p.body, List.flatten_append]

theorem Printout.noStray_iff : NoStray msg.attrs ↔ p.strays = [] := by
  rw [NoStray, p.attrs]
  constructor
  · intro pairwise
    cases mi : p.mi with
    | none => exact p.noStray mi
    | some a =>
      cases strays : p.strays with
      | nil => rfl
      | cons b rest =>
        rw [mi, strays] at pairwise
        have after := List.rel_of_pairwise_cons (List.pairwise_append.1 pairwise).2.1
          (List.mem_cons_self (a := b))
        have fingerprint := after (p.miType a mi)
        have plain := p.stray b (by rw [strays]; exact List.mem_cons_self)
        simp [Attr.stops, fingerprint] at plain
  · intro noStrays
    rw [noStrays, List.nil_append, List.pairwise_append]
    refine ⟨?_, ?_, ?_⟩
    · apply List.pairwise_of_forall_mem_list
      intro a mem b _ type
      have plain := (p.plain a mem).1
      simp [Attr.stops, type] at plain
    · cases mi : p.mi with
      | none => cases p.fp <;> simp
      | some a =>
        cases fp : p.fp with
        | none => simp
        | some b => simp [p.fpType b fp]
    · intro a mem b _ type
      have plain := (p.plain a mem).1
      simp [Attr.stops, type] at plain

end Printout

/-- When printing succeeds, every attribute is in the output exactly if nothing but
FINGERPRINT comes after MESSAGE-INTEGRITY. -/
theorem pjStunMsgEncode_carries_iff (env : StunEnv) (msg : StunMsg) (cells : Nat → UInt8)
    (bufSize : UInt64) (key : Option (List UInt8)) :
    Ends (fun result e =>
        Carries env msg.hdr result.1.attrs ((e.mem.slice 0 result.2).drop 20) ↔ NoStray msg.attrs)
      (fun _ _ => True) (pjStunMsgEncode env msg cells bufSize 0 key) := by
  cases encoded : pjStunMsgEncode env msg cells bufSize 0 key with
  | error status e => trivial
  | ok result e =>
    obtain ⟨-, ⟨p⟩⟩ := pjStunMsgEncode_printout encoded
    exact p.carries_iff.trans p.noStray_iff.symm

/-- SOFTWARE after MESSAGE-INTEGRITY is lost, and no error is returned. -/
theorem pjStunMsgEncode_loses :
    Ends (fun result e => ¬ Carries (.constant ⟨List.replicate 20 0, rfl⟩ 0)
        ⟨0x0001, 0, stunMagic, ⟨List.replicate 12 7, rfl⟩⟩
        result.1.attrs ((e.mem.slice 0 result.2).drop 20))
      (fun _ _ => False)
      (pjStunMsgEncode (.constant ⟨List.replicate 20 0, rfl⟩ 0)
        { hdr := ⟨0x0001, 0, stunMagic, ⟨List.replicate 12 7, rfl⟩⟩
          attrs := [msgintAttr, stringAttr attrSoftware (printed80 "pjnath") attrKind_software]
          attrCount := by decide }
        (fun _ => 0) 100 0 (some [107])) := by
  -- the output is shorter than the attributes
  refine Ends.mono ?_ (fun result e (shorter : _ ≠ _) carries => shorter carries.length) fun _ _ => id
  decide +kernel

end Pjsip.Pjnath.Stun
