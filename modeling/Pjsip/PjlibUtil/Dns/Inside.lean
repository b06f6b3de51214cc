import Pjsip.PjlibUtil.Dns.Names

/-!
# Reading inside of a packet

The parser never looks outside of a packet exactly if none of the names that it comes to ends
in half a pointer: the space for everything else is tested before it is read.
-/

namespace Pjsip.PjlibUtil.Dns

open Pjsip.Base Reader

variable {pkt : List UInt8}

/-! ## Names that the parser comes to -/

/-- The names in the data of a record of this type. -/
def RDataWhole (pkt : List UInt8) (type : UInt16) (p : Nat) : Prop :=
  if type = typeCname ∨ type = typeNs ∨ type = typePtr then NameWhole pkt nameDepth p
  else if type = typeSrv then p + 6 ≤ pkt.length → NameWhole pkt nameDepth (p + 6)
  else True

def RrWhole (pkt : List UInt8) (start : Nat) : Prop :=
  NameWhole pkt nameDepth start ∧ ∀ fixed, (parseRrFixed pkt.length start).run pkt = .value fixed →
        RDataWhole pkt fixed.type (start + fixed.namePartLen + 10)

/-- The names of one section; `whole` is about what starts at an index. -/
def SectionWhole {α : Type} (pkt : List UInt8) (parse : Nat → DnsReader (α × Nat))
    (whole : Nat → Prop) : (count start : Nat) → Prop
  | 0, _ => True
  | count + 1, start =>
    whole start ∧ ∀ value parsedLen, (parse start).run pkt = .value (value, parsedLen) →
      SectionWhole pkt parse whole count (start + parsedLen)

/-- No pointer that the parser follows is cut off by the end of the packet. -/
def PacketWhole (pkt : List UInt8) : Prop :=
  ∀ hdr, 12 ≤ pkt.length → parseHdr.run pkt = .value hdr →
    SectionWhole pkt (parseQuery pkt.length) (NameWhole pkt nameDepth) hdr.qdcount.toNat 12
    ∧ ∀ q start,
      (parseSection (parseQuery pkt.length) hdr.qdcount.toNat 12).run pkt = .value (q, start) →
      SectionWhole pkt (parseRr pkt.length) (RrWhole pkt)
        (hdr.anscount.toNat + hdr.nscount.toNat + hdr.arcount.toNat) start

/-! ## Inside -/

theorem parseQuery_inside (start : Nat) :
    (parseQuery pkt.length start).run pkt ≠ .outside ↔ NameWhole pkt nameDepth start := by
  rw [parseQuery, bind_ne_outside, parseName_inside]
  refine and_iff_left fun ⟨name, namePartLen⟩ read => ?_
  show (if _ then _ else _ : DnsReader _).run pkt ≠ _
  refine inside_ite (fun _ => inside_fail _) (fun fits => ?_) pkt (Nat.le_refl _)
  refine inside_bind (inside_field16 (by omega)) fun _ => ?_
  exact inside_bind (inside_field16 (by omega)) fun _ => inside_pure _

theorem parseRrFixed_inside (start : Nat) :
    (parseRrFixed pkt.length start).run pkt ≠ .outside ↔ NameWhole pkt nameDepth start := by
  rw [parseRrFixed, bind_ne_outside, parseName_inside]
  refine and_iff_left fun ⟨name, namePartLen⟩ read => ?_
  show (if _ then _ else _ : DnsReader _).run pkt ≠ _
  refine inside_ite (fun _ => inside_fail _) (fun fits => ?_) pkt (Nat.le_refl _)
  refine inside_bind (inside_field16 (by omega)) fun _ => ?_
  refine inside_bind (inside_field16 (by omega)) fun _ => ?_
  refine inside_ite (fun _ => inside_fail _) fun known => ?_
  refine inside_bind (inside_field32 (by omega)) fun _ => ?_
  refine inside_bind (inside_field16 (by omega)) fun _ => ?_
  exact inside_ite (fun _ => inside_fail _) fun _ => inside_pure _

theorem parseRrFixed_value {start : Nat} {fixed : RrFixed}
    (read : (parseRrFixed pkt.length start).run pkt = .value fixed) :
    (getNameLen pkt.length nameDepth start).run pkt = .value (fixed.namePartLen, fixed.name.length)
      ∧ (field16 (start + fixed.namePartLen + 8) : DnsReader UInt16).run pkt = .value fixed.rdlength
      ∧ start + fixed.namePartLen + 10 + fixed.rdlength.toNat ≤ pkt.length := by
  rw [parseRrFixed, run_bind, bind_eq_value] at read
  obtain ⟨⟨name, namePartLen⟩, readName, read⟩ := read
  have measured := parseName_value readName
  change (if _ then _ else _ : DnsReader _).run pkt = _ at read
  split at read
  · cases read
  · rw [run_bind, bind_eq_value] at read
    obtain ⟨type, readType, read⟩ := read
    rw [run_bind, bind_eq_value] at read
    obtain ⟨dnsclass, readClass, read⟩ := read
    split at read
    · cases read
    · rw [run_bind, bind_eq_value] at read
      obtain ⟨ttl, readTtl, read⟩ := read
      rw [run_bind, bind_eq_value] at read
      obtain ⟨rdlength, readLength, read⟩ := read
      split at read
      · cases read
      · next fits =>
        cases read
        exact ⟨measured, readLength, by simpa using fits⟩

theorem parseRData_inside {type rdlength : UInt16} {p : Nat}
    (fits : p + rdlength.toNat ≤ pkt.length) :
    (parseRData pkt.length type rdlength p).run pkt ≠ .outside ↔ RDataWhole pkt type p := by
  unfold parseRData RDataWhole
  split
  · -- an address
    next typed =>
    subst typed
    refine iff_of_true ?_ (by rw [if_neg (by decide), if_neg (by decide)]; trivial)
    split
    · nofun
    · next room =>
      have read : Inside pkt.length (octets p 4 : DnsReader _) := inside_octets (by omega)
      exact inside_bind read (fun _ => inside_pure _) pkt (Nat.le_refl _)
  · split
    · next typed =>
      subst typed
      refine iff_of_true ?_ (by rw [if_neg (by decide), if_neg (by decide)]; trivial)
      split
      · nofun
      · next room =>
        have read : Inside pkt.length (octets p 16 : DnsReader _) := inside_octets (by omega)
        exact inside_bind read (fun _ => inside_pure _) pkt (Nat.le_refl _)
    · split
      · rw [bind_ne_outside, parseName_inside]
        exact and_iff_left fun _ _ => nofun
      · split
        · split
          · next short => exact iff_of_true nofun fun room => absurd room (by omega)
          · next room =>
            have prio : (field16 p : DnsReader UInt16).run pkt = _ := field16_inside (by omega)
            have weight : (field16 (p + 2) : DnsReader UInt16).run pkt = _ :=
              field16_inside (by omega)
            have port : (field16 (p + 4) : DnsReader UInt16).run pkt = _ :=
              field16_inside (by omega)
            rw [forall_prop_of_true (by omega), run_bind, prio, bind_value, run_bind, weight,
              bind_value, run_bind, port, bind_value, bind_ne_outside, parseName_inside]
            exact and_iff_left fun _ _ => nofun
        · refine iff_of_true ?_ trivial
          have raw : Inside pkt.length (octets p rdlength.toNat : DnsReader _) :=
            inside_octets fits
          exact inside_bind raw (fun _ => inside_pure _) pkt (Nat.le_refl _)

theorem parseRr_inside (start : Nat) :
    (parseRr pkt.length start).run pkt ≠ .outside ↔ RrWhole pkt start := by
  rw [parseRr, bind_ne_outside, parseRrFixed_inside]
  refine and_congr_right fun _ => forall_congr' fun fixed => forall_congr' fun read => ?_
  rw [bind_ne_outside, parseRData_inside (parseRrFixed_value read).2.2]
  exact and_iff_left fun _ _ => nofun

variable {α : Type}

theorem parseSection_inside {parse : Nat → DnsReader (α × Nat)} {whole : Nat → Prop}
    (inside : ∀ start, (parse start).run pkt ≠ .outside ↔ whole start) (count : Nat) :
    ∀ start, (parseSection parse count start).run pkt ≠ .outside
      ↔ SectionWhole pkt parse whole count start := by
  induction count with
  | zero => exact fun start => iff_of_true nofun trivial
  | succ count ih =>
    intro start
    rw [parseSection, bind_ne_outside, inside]
    refine and_congr_right fun _ => ⟨fun each value parsedLen read => ?_, fun each read here => ?_⟩
    · have rest := each (value, parsedLen) read
      exact (ih _).1 (bind_ne_outside.1 rest).1
    · obtain ⟨value, parsedLen⟩ := read
      exact bind_ne_outside.2 ⟨(ih _).2 (each value parsedLen here), fun _ _ => nofun⟩

/-- Two sections, one after the other, are one. -/
theorem parseSection_add {parse : Nat → DnsReader (α × Nat)} (later : Nat)
    (count : Nat) : ∀ start,
    (parseSection parse (count + later) start).run pkt
      = (parseSection parse count start >>= fun first =>
          parseSection parse later first.2 >>= fun second =>
            pure (first.1 ++ second.1, second.2)).run pkt := by
  induction count with
  | zero =>
    intro start
    rw [Nat.zero_add, parseSection, run_bind, run_pure, bind_value, run_bind]
    cases (parseSection parse later start).run pkt <;> rfl
  | succ count ih =>
    intro start
    rw [Nat.succ_add, parseSection, parseSection, run_bind, run_bind, run_bind]
    cases (parse start).run pkt with
    | error e => rfl
    | outside => rfl
    | value read =>
      obtain ⟨value, parsedLen⟩ := read
      show ((parseSection parse (count + later) (start + parsedLen)).run pkt).bind _
        = (((parseSection parse count (start + parsedLen)).run pkt).bind _).bind _
      rw [ih, run_bind]
      cases (parseSection parse count (start + parsedLen)).run pkt with
      | error e => rfl
      | outside => rfl
      | value first =>
        show (((parseSection parse later first.2).run pkt).bind _).bind _
          = ((parseSection parse later first.2).run pkt).bind _
        cases (parseSection parse later first.2).run pkt <;> rfl

theorem sections_inside {parse : Nat → DnsReader (α × Nat)} {count later start : Nat} :
    (parseSection parse (count + later) start).run pkt ≠ .outside
      ↔ (parseSection parse count start).run pkt ≠ .outside
        ∧ ∀ first, (parseSection parse count start).run pkt = .value first →
          (parseSection parse later first.2).run pkt ≠ .outside := by
  rw [parseSection_add, bind_ne_outside]
  refine and_congr_right fun _ => forall_congr' fun first => forall_congr' fun _ => ?_
  rw [bind_ne_outside]
  exact and_iff_left fun _ _ => nofun

theorem sections_value {parse : Nat → DnsReader (α × Nat)} {count later start : Nat}
    {first second : List (Placed α) × Nat}
    (one : (parseSection parse count start).run pkt = .value first)
    (two : (parseSection parse later first.2).run pkt = .value second) :
    (parseSection parse (count + later) start).run pkt
      = .value (first.1 ++ second.1, second.2) := by
  rw [parseSection_add, run_bind, one, bind_value, run_bind, two]
  rfl

theorem parseHdr_inside (long : 12 ≤ pkt.length) : ∃ hdr, parseHdr.run pkt = .value hdr := by
  have field : ∀ pos, pos ≤ 10 → ∃ v, (field16 pos : DnsReader UInt16).run pkt = .value v :=
    fun pos early => ⟨_, field16_inside (by omega)⟩
  obtain ⟨id, readId⟩ := field 0 (by omega)
  obtain ⟨flags, readFlags⟩ := field 2 (by omega)
  obtain ⟨qdcount, readQd⟩ := field 4 (by omega)
  obtain ⟨anscount, readAn⟩ := field 6 (by omega)
  obtain ⟨nscount, readNs⟩ := field 8 (by omega)
  obtain ⟨arcount, readAr⟩ := field 10 (by omega)
  refine ⟨⟨id, flags, qdcount, anscount, nscount, arcount⟩, ?_⟩
  rw [parseHdr, run_bind, readId, bind_value, run_bind, readFlags, bind_value, run_bind, readQd,
    bind_value, run_bind, readAn, bind_value, run_bind, readNs, bind_value, run_bind, readAr]
  rfl

theorem parsePlaced_inside (long : 12 ≤ pkt.length) {hdr : DnsHdr}
    (read : parseHdr.run pkt = .value hdr) :
    (parsePlaced pkt.length).run pkt ≠ .outside
      ↔ (parseSection (parseQuery pkt.length) hdr.qdcount.toNat 12).run pkt ≠ .outside ∧ ∀ q start,
          (parseSection (parseQuery pkt.length) hdr.qdcount.toNat 12).run pkt = .value (q, start) →
          (parseSection (parseRr pkt.length)
            (hdr.anscount.toNat + hdr.nscount.toNat + hdr.arcount.toNat) start).run pkt
              ≠ .outside := by
  rw [parsePlaced, if_neg (by omega), if_neg (by omega), run_bind, read, bind_value,
    bind_ne_outside, Prod.forall]
  refine and_congr_right fun _ => forall_congr' fun q => forall_congr' fun start =>
    forall_congr' fun _ => ?_
  rw [Nat.add_assoc, sections_inside, bind_ne_outside]
  refine and_congr_right fun _ => forall_congr' fun ans => forall_congr' fun _ => ?_
  rw [sections_inside, bind_ne_outside]
  refine and_congr_right fun _ => forall_congr' fun ns => forall_congr' fun _ => ?_
  rw [bind_ne_outside]
  exact and_iff_left fun _ _ => nofun

theorem pjDnsParsePacket_inside :
    (pjDnsParsePacket pkt.length).run pkt ≠ .outside ↔ PacketWhole pkt := by
  rw [pjDnsParsePacket, bind_ne_outside, and_iff_left fun _ _ => nofun]
  by_cases long : 12 ≤ pkt.length
  · obtain ⟨hdr, read⟩ := parseHdr_inside long
    rw [parsePlaced_inside long read, parseSection_inside parseQuery_inside]
    constructor
    · rintro ⟨queries, records⟩ other - same
      cases read.symm.trans same
      exact ⟨queries, fun q start here =>
        (parseSection_inside parseRr_inside _ _).1 (records q start here)⟩
    · intro whole
      obtain ⟨queries, records⟩ := whole hdr long read
      exact ⟨queries, fun q start here =>
        (parseSection_inside parseRr_inside _ _).2 (records q start here)⟩
  · refine iff_of_true ?_ fun _ enough => absurd enough long
    unfold parsePlaced
    split
    · nofun
    · rw [if_pos (by omega)]
      nofun

end Pjsip.PjlibUtil.Dns
