import Pjsip.PjlibUtil.Dns.Inside

/-!
# Where the records of a packet are

The parser moves its cursor on by what it has read of a record. The boundaries are those of
the packet exactly if the data of each record are as long as its `rdlength` says; otherwise
the next record is looked for in the middle of this one, or of the one after it.
-/

namespace Pjsip.PjlibUtil.Dns

open Pjsip.Base Reader

variable {pkt : List UInt8}

/-! ## Data and their length -/

/-- Data of this type at `p` are as long as `rdlength` says. -/
def DataFits (pkt : List UInt8) (type rdlength : UInt16) (p : Nat) : Prop :=
  if type = typeA then rdlength.toNat = 4
  else if type = typeAaaa then rdlength.toNat = 16
  else if type = typeCname ∨ type = typeNs ∨ type = typePtr then
    ∀ partLen nameLen, (getNameLen pkt.length nameDepth p).run pkt = .value (partLen, nameLen) →
      rdlength.toNat = partLen
  else if type = typeSrv then
    ∀ partLen nameLen,
      (getNameLen pkt.length nameDepth (p + 6)).run pkt = .value (partLen, nameLen) →
      rdlength.toNat = 6 + partLen
  else True

/-- This holds of the next `count` records from `start` on, where the packet has them. -/
def RecordsFit (pkt : List UInt8) : (count start : Nat) → Prop
  | 0, _ => True
  | count + 1, start => ∀ fixed, (parseRrFixed pkt.length start).run pkt = .value fixed →
      DataFits pkt fixed.type fixed.rdlength (start + fixed.namePartLen + 10)
      ∧ RecordsFit pkt count (start + fixed.namePartLen + 10 + fixed.rdlength.toNat)

/-- The data of every record are as long as its `rdlength` says. -/
def PacketFits (pkt : List UInt8) : Prop :=
  ∀ hdr q start, parseHdr.run pkt = .value hdr →
    (parseSection (parseQuery pkt.length) hdr.qdcount.toNat 12).run pkt = .value (q, start) →
    RecordsFit pkt (hdr.anscount.toNat + hdr.nscount.toNat + hdr.arcount.toNat) start

theorem parseRData_fits {type rdlength : UInt16} {p dataLen : Nat} {rdata : RData}
    (read : (parseRData pkt.length type rdlength p).run pkt = .value (rdata, dataLen)) :
    dataLen = rdlength.toNat ↔ DataFits pkt type rdlength p := by
  unfold parseRData at read
  unfold DataFits
  split at read
  · next typed =>
    rw [if_pos typed]
    split at read
    · cases read
    · rw [run_bind, bind_eq_value] at read
      obtain ⟨ipAddr, -, read⟩ := read
      cases read
      exact eq_comm
  · next notA =>
    rw [if_neg notA]
    split at read
    · next typed =>
      rw [if_pos typed]
      split at read
      · cases read
      · rw [run_bind, bind_eq_value] at read
        obtain ⟨ipAddr, -, read⟩ := read
        cases read
        exact eq_comm
    · next notAaaa =>
      rw [if_neg notAaaa]
      split at read
      · next typed =>
        rw [if_pos typed]
        rw [run_bind, bind_eq_value] at read
        obtain ⟨⟨name, namePartLen⟩, readName, read⟩ := read
        cases read
        rw [parseName_value readName]
        exact ⟨fun same _ _ measured => by cases measured; exact same.symm,
          fun fits => (fits _ _ rfl).symm⟩
      · next notName =>
        rw [if_neg notName]
        split at read
        · next typed =>
          rw [if_pos typed]
          split at read
          · cases read
          · rw [run_bind, bind_eq_value] at read
            obtain ⟨prio, -, read⟩ := read
            rw [run_bind, bind_eq_value] at read
            obtain ⟨weight, -, read⟩ := read
            rw [run_bind, bind_eq_value] at read
            obtain ⟨port, -, read⟩ := read
            rw [run_bind, bind_eq_value] at read
            obtain ⟨⟨target, namePartLen⟩, readName, read⟩ := read
            cases read
            rw [parseName_value readName]
            exact ⟨fun same _ _ measured => by cases measured; exact same.symm,
              fun fits => (fits _ _ rfl).symm⟩
        · next other =>
          rw [if_neg other]
          rw [run_bind, bind_eq_value] at read
          obtain ⟨data, -, read⟩ := read
          cases read
          exact iff_of_true rfl trivial

theorem parseRr_value {start parsedLen : Nat} {rr : ParsedRr}
    (read : (parseRr pkt.length start).run pkt = .value (rr, parsedLen)) :
    ∃ fixed dataLen, (parseRrFixed pkt.length start).run pkt = .value fixed
      ∧ (parseRData pkt.length fixed.type fixed.rdlength (start + fixed.namePartLen + 10)).run pkt
        = .value (rr.rdata, dataLen)
      ∧ rr.rdlength = fixed.rdlength ∧ parsedLen = fixed.namePartLen + 10 + dataLen := by
  rw [parseRr, run_bind, bind_eq_value] at read
  obtain ⟨fixed, readFixed, read⟩ := read
  rw [run_bind, bind_eq_value] at read
  obtain ⟨⟨rdata, dataLen⟩, readData, read⟩ := read
  cases read
  exact ⟨fixed, dataLen, readFixed, readData, rfl, rfl⟩

/-! ## Records at their places -/

/-- From `start` on the records stand one after the other, each as long as its name, ten octets
and as many as its `rdlength` says. -/
def FramedFrom (pkt : List UInt8) : (start : Nat) → List (Placed ParsedRr) → Prop
  | _, [] => True
  | start, record :: rest => record.start = start ∧ ∃ namePartLen nameLen,
      (getNameLen pkt.length nameDepth start).run pkt = .value (namePartLen, nameLen)
      ∧ (field16 (start + namePartLen + 8) : DnsReader UInt16).run pkt
        = .value record.value.rdlength
      ∧ record.parsedLen = namePartLen + 10 + record.value.rdlength.toNat
      ∧ FramedFrom pkt (start + namePartLen + 10 + record.value.rdlength.toNat) rest

/-- Where the queries end. -/
def PlacedPacket.recordsStart (packet : PlacedPacket) : Nat :=
  12 + (packet.q.map (·.parsedLen)).sum

theorem parseSection_stop {α : Type} {parse : Nat → DnsReader (α × Nat)} (count : Nat) :
    ∀ start parts stop, (parseSection parse count start).run pkt = .value (parts, stop) →
      stop = start + (parts.map (·.parsedLen)).sum := by
  induction count with
  | zero =>
    intro start parts stop read
    cases read
    rfl
  | succ count ih =>
    intro start parts stop read
    rw [parseSection, run_bind, bind_eq_value] at read
    obtain ⟨⟨value, parsedLen⟩, -, read⟩ := read
    rw [run_bind, bind_eq_value] at read
    obtain ⟨⟨rest, last⟩, readRest, read⟩ := read
    cases read
    have stops := ih _ _ _ readRest
    simp only [List.map_cons, List.sum_cons]
    omega

/-- Records are framed as long as the data fit; after one that does not fit, the cursor is at
another place than the next record. -/
theorem section_framed (count : Nat) : ∀ start records stop,
    (parseSection (parseRr pkt.length) count start).run pkt = .value (records, stop) →
      (FramedFrom pkt start records ↔ RecordsFit pkt count start) := by
  induction count with
  | zero =>
    intro start records stop read
    cases read
    exact Iff.rfl
  | succ count ih =>
    intro start records stop read
    rw [parseSection, run_bind, bind_eq_value] at read
    obtain ⟨⟨rr, parsedLen⟩, readRr, read⟩ := read
    rw [run_bind, bind_eq_value] at read
    obtain ⟨⟨rest, last⟩, readRest, read⟩ := read
    cases read
    obtain ⟨fixed, dataLen, readFixed, readData, sameLength, moved⟩ := parseRr_value readRr
    obtain ⟨measured, lengthField, -⟩ := parseRrFixed_value readFixed
    have fits := parseRData_fits readData
    have later := ih _ _ _ readRest
    constructor
    · rintro ⟨-, namePartLen, nameLen, measured', -, advanced, framed⟩ other same
      cases readFixed.symm.trans same
      cases measured.symm.trans measured'
      rw [sameLength] at advanced framed
      change parsedLen = fixed.namePartLen + 10 + fixed.rdlength.toNat at advanced
      have next : start + fixed.namePartLen + 10 + fixed.rdlength.toNat = start + parsedLen := by
        omega
      rw [next] at framed ⊢
      exact ⟨fits.1 (by omega), later.1 framed⟩
    · intro each
      obtain ⟨here, rests⟩ := each fixed readFixed
      have whole := fits.2 here
      have next : start + fixed.namePartLen + 10 + fixed.rdlength.toNat = start + parsedLen := by
        omega
      refine ⟨rfl, _, _, measured, ?_, ?_, ?_⟩
      · rw [lengthField, sameLength]
      · rw [sameLength, ← whole]
        exact moved
      · rw [next] at rests
        rw [sameLength, next]
        exact later.2 rests

/-! ## The parser -/

theorem parsePlaced_value {placed : PlacedPacket}
    (read : (parsePlaced pkt.length).run pkt = .value placed) :
    ∃ stop, parseHdr.run pkt = .value placed.hdr
      ∧ (parseSection (parseQuery pkt.length) placed.hdr.qdcount.toNat 12).run pkt
        = .value (placed.q, placed.recordsStart)
      ∧ (parseSection (parseRr pkt.length)
          (placed.hdr.anscount.toNat + placed.hdr.nscount.toNat + placed.hdr.arcount.toNat)
          placed.recordsStart).run pkt = .value (placed.records, stop) := by
  unfold parsePlaced at read
  split at read
  · cases read
  · split at read
    · cases read
    · rw [run_bind, bind_eq_value] at read
      obtain ⟨hdr, readHdr, read⟩ := read
      rw [run_bind, bind_eq_value] at read
      obtain ⟨⟨q, start⟩, readQ, read⟩ := read
      rw [run_bind, bind_eq_value] at read
      obtain ⟨ans, readAns, read⟩ := read
      rw [run_bind, bind_eq_value] at read
      obtain ⟨ns, readNs, read⟩ := read
      rw [run_bind, bind_eq_value] at read
      obtain ⟨arr, readArr, read⟩ := read
      cases read
      cases parseSection_stop _ _ _ _ readQ
      exact ⟨arr.2, readHdr, readQ, sections_value (sections_value readAns readNs) readArr⟩

/-- What a caller relies on: nothing is read behind the packet; a name fills the buffer of the
length that was computed for it; and the records of a packet that is accepted are where the
packet has them. -/
structure ParsesPacket (pkt : List UInt8) : Prop where
  inside : (pjDnsParsePacket pkt.length).run pkt ≠ .outside
  names : ∀ depth start partLen nameLen,
    (getNameLen pkt.length depth start).run pkt = .value (partLen, nameLen) →
    ∀ name, ∃ copied, (getName pkt.length depth start name).run pkt = .value (name ++ copied)
      ∧ copied.length = nameLen
  framed : ∀ placed, (parsePlaced pkt.length).run pkt = .value placed →
    FramedFrom pkt placed.recordsStart placed.records

/-- The contract is kept exactly for packets in which no name that is come to is cut off in the
middle of a pointer, and, if they are accepted, the data of each record are as long as its
`rdlength` says. -/
theorem pjDnsParsePacket_iff (pkt : List UInt8) : ParsesPacket pkt ↔ PacketWhole pkt
      ∧ ∀ packet, (pjDnsParsePacket pkt.length).run pkt = .value packet → PacketFits pkt := by
  constructor
  · rintro ⟨inside, names, framed⟩
    refine ⟨pjDnsParsePacket_inside.1 inside, fun packet accepted => ?_⟩
    rw [pjDnsParsePacket, run_bind, bind_eq_value] at accepted
    obtain ⟨placed, read, -⟩ := accepted
    obtain ⟨stop, readHdr, readQ, readRecords⟩ := parsePlaced_value read
    intro hdr q start sameHdr sameQ
    cases readHdr.symm.trans sameHdr
    cases readQ.symm.trans sameQ
    exact (section_framed _ _ _ _ readRecords).1 (framed placed read)
  · rintro ⟨whole, fits⟩
    refine ⟨pjDnsParsePacket_inside.2 whole, getName_agrees, fun placed read => ?_⟩
    obtain ⟨stop, readHdr, readQ, readRecords⟩ := parsePlaced_value read
    have accepted : (pjDnsParsePacket pkt.length).run pkt = .value _ := run_return _ read
    exact (section_framed _ _ _ _ readRecords).2 (fits _ accepted _ _ _ readHdr readQ)

/-- An answer with two records for the root: an address, with a fifth octet, and a record of type
16 that has no data. The second one is looked for an octet early. -/
def shiftedPacket : List UInt8 :=
  [0, 0, 0x80, 0, 0, 0, 0, 2, 0, 0, 0, 0, 0, 0, 1, 0, 1, 0, 0, 0, 0, 0, 5, 192, 0, 2, 1, 0,
    0, 0, 16, 0, 1, 0, 0, 0, 0, 0, 0]

/-- A query for a name of which there is only the first octet of a pointer. -/
def cutPacket : List UInt8 :=
  [0, 0, 0, 0, 0, 1, 0, 0, 0, 0, 0, 0, 0xC0]

theorem pjDnsParsePacket_misread : ¬ ParsesPacket shiftedPacket ∧ ¬ ParsesPacket cutPacket := by
  constructor
  · intro parses
    have accepted : ∃ placed first rest,
        (parsePlaced shiftedPacket.length).run shiftedPacket = .value placed
        ∧ placed.recordsStart = 12 ∧ placed.records = first :: rest
        ∧ first.parsedLen = 15 ∧ first.value.rdlength = 5 :=
      ⟨_, _, _, rfl, rfl, rfl, rfl, rfl⟩
    obtain ⟨placed, first, rest, read, begins, records, moved, rdlength⟩ := accepted
    have framed := parses.framed placed read
    rw [begins, records] at framed
    obtain ⟨-, namePartLen, nameLen, measured, -, advanced, -⟩ := framed
    have name : (getNameLen shiftedPacket.length nameDepth 12).run shiftedPacket
        = .value (1, 0) := rfl
    cases name.symm.trans measured
    -- one octet of the name, ten, and four of the address
    rw [moved, rdlength] at advanced
    exact absurd advanced (by decide)
  · intro parses
    exact parses.inside rfl

end Pjsip.PjlibUtil.Dns
