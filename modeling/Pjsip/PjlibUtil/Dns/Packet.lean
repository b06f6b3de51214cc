import Pjsip.Base.Reader
import Pjsip.Errno

/-!
# DNS packets (`dns.c`)

The parser reads the packet at indices; `max` is the size of the packet. A name is walked
through twice: once for the length of the buffer it is copied to, and once to copy it. A
record that is parsed is kept with the place where it starts and with how far the cursor
was moved on for it.
-/

namespace Pjsip.PjlibUtil.Dns

open Pjsip.Base

/-! ## Data -/

/-- The types of records (`pj_dns_type`) that are singled out. -/
def typeA : UInt16 := 1
def typeNs : UInt16 := 2
def typeCname : UInt16 := 5
def typePtr : UInt16 := 12
def typeAaaa : UInt16 := 28
def typeSrv : UInt16 := 33

/-- `pj_dns_hdr`, in host byte order -/
structure DnsHdr where
  id : UInt16
  flags : UInt16
  qdcount : UInt16
  anscount : UInt16
  nscount : UInt16
  arcount : UInt16
  deriving DecidableEq

/-- `pj_dns_parsed_query` -/
structure ParsedQuery where
  name : List UInt8
  type : UInt16
  dnsclass : UInt16
  deriving DecidableEq

/-- The data of a record; `name` is for CNAME, NS and PTR alike, and `raw` for other types. -/
inductive RData where
  | a (ipAddr : Octets 4)
  | aaaa (ipAddr : Octets 16)
  | name (name : List UInt8)
  | srv (prio weight port : UInt16) (target : List UInt8)
  | raw (data : List UInt8)
  deriving DecidableEq

/-- `pj_dns_parsed_rr` -/
structure ParsedRr where
  name : List UInt8
  type : UInt16
  dnsclass : UInt16
  ttl : UInt32
  rdlength : UInt16
  rdata : RData
  deriving DecidableEq

/-- `pj_dns_parsed_packet` -/
structure ParsedPacket where
  hdr : DnsHdr
  q : List ParsedQuery
  ans : List ParsedRr
  ns : List ParsedRr
  arr : List ParsedRr
  deriving DecidableEq

abbrev DnsReader := Reader DnsStatus

/-! ## Names -/

/-- The octet starts a pointer. -/
def isPointer (octet : UInt8) : Bool := octet &&& 0xC0 == 0xC0

/-- The 14-bit offset of a pointer. -/
def pointerOffset (p : Nat) : DnsReader Nat := do
  let offset ← Reader.field16 p
  return (offset ^^^ 0xC000).toNat

/-- The loop of `get_name_len`; `jump` is the function itself, one level down. Each round moves on
by an octet at least and stays below `max`: without fuel `p` is at the end of the packet. -/
def nameLenLoop (max : Nat) (jump : Nat → DnsReader (Nat × Nat)) :
    (fuel p parsedLen nameLen : Nat) → DnsReader (Nat × Nat)
  | 0, _, _, _ => ⟨fun _ => .outside⟩
  | fuel + 1, p, parsedLen, nameLen => do
      let octet ← Reader.octet p
      if octet = 0 then return (parsedLen + 1, nameLen)
      else if isPointer octet then
        let offset ← pointerOffset p
        if max ≤ offset then Reader.fail .ednsinnameptr
        else
          let (_, ptrLen) ← jump offset
          return (parsedLen + 2, nameLen + ptrLen)
      else if max < p + 1 + octet.toNat + 1 then Reader.fail .ednsinnameptr
      else
        let next ← Reader.octet (p + (octet.toNat + 1))
        nameLenLoop max jump fuel (p + (octet.toNat + 1)) (parsedLen + (octet.toNat + 1))
          (nameLen + if next ≠ 0 then octet.toNat + 1 else octet.toNat)

/-- `get_name_len`, where `rec_counter` can still grow `depth` times: `*parsed_len` and
`*name_len`. -/
def getNameLen (max : Nat) : (depth start : Nat) → DnsReader (Nat × Nat)
  | 0, _ => Reader.fail .ednsinnameptr
  | depth + 1, start =>
    if max ≤ start then Reader.fail .ednsinnameptr
    else nameLenLoop max (getNameLen max depth) max start 0 0

/-- The loop of `get_name`. -/
def nameLoop (max : Nat) (jump : Nat → List UInt8 → DnsReader (List UInt8)) :
    (fuel p : Nat) → (name : List UInt8) → DnsReader (List UInt8)
  | 0, _, _ => ⟨fun _ => .outside⟩
  | fuel + 1, p, name => do
      let octet ← Reader.octet p
      if octet = 0 then return name
      else if isPointer octet then
        let offset ← pointerOffset p
        if max ≤ offset then Reader.fail .ednsinnameptr
        else jump offset name
      else if max < p + 1 + octet.toNat + 1 then Reader.fail .ednsinnameptr
      else
        let label ← Reader.octets (p + 1) octet.toNat
        let next ← Reader.octet (p + (octet.toNat + 1))
        nameLoop max jump fuel (p + (octet.toNat + 1))
          (if next ≠ 0 then name ++ label.1 ++ [0x2E] else name ++ label.1)

/-- `get_name`, which appends to `name` -/
def getName (max : Nat) : (depth start : Nat) → (name : List UInt8) → DnsReader (List UInt8)
  | 0, _, _ => Reader.fail .ednsinnameptr
  | depth + 1, start, name =>
    if max ≤ start then Reader.fail .ednsinnameptr
    else nameLoop max (getName max depth) max start name

/-- The counter goes from 0 to 10. -/
def nameDepth : Nat := 11

/-- A name and how much of the packet it takes; the buffer is allocated in between. -/
def parseName (max start : Nat) : DnsReader (List UInt8 × Nat) := do
  let (namePartLen, _) ← getNameLen max nameDepth start
  let name ← getName max nameDepth start []
  return (name, namePartLen)

/-! ## Records -/

/-- `parse_query`, with `*parsed_len` -/
def parseQuery (max start : Nat) : DnsReader (ParsedQuery × Nat) := do
  let (name, namePartLen) ← parseName max start
  let p := start + namePartLen
  if max < p + 4 then Reader.fail .ednsinsize
  else
    let type ← Reader.field16 p
    let dnsclass ← Reader.field16 (p + 2)
    return ({ name, type, dnsclass }, namePartLen + 4)

/-- The types whose class is looked at. -/
def knownType (type : UInt16) : Bool :=
  type = typeA || type = typeAaaa || type = typeCname || type = typeNs || type = typePtr
    || type = typeSrv

/-- What comes before the data of a record, and how much of the packet the name takes. -/
structure RrFixed where
  name : List UInt8
  namePartLen : Nat
  type : UInt16
  dnsclass : UInt16
  ttl : UInt32
  rdlength : UInt16

/-- The first part of `parse_rr` -/
def parseRrFixed (max start : Nat) : DnsReader RrFixed := do
  let (name, namePartLen) ← parseName max start
  let p := start + namePartLen
  if max < p + 10 then Reader.fail .ednsinsize
  else
    let type ← Reader.field16 p
    let dnsclass ← Reader.field16 (p + 2)
    if dnsclass ≠ 1 ∧ knownType type = true then Reader.fail .ednsinclass
    else
      let ttl ← Reader.field32 (p + 4)
      let rdlength ← Reader.field16 (p + 8)
      if max < p + 10 + rdlength.toNat then Reader.fail .ednsinsize
      else return { name, namePartLen, type, dnsclass, ttl, rdlength }

/-- The data, and how far the cursor is moved on for it. -/
def parseRData (max : Nat) (type rdlength : UInt16) (p : Nat) : DnsReader (RData × Nat) :=
  if type = typeA then
    if max < p + 4 then Reader.fail .ednsinsize
    else do
      let ipAddr ← Reader.octets p 4
      return (.a ipAddr, 4)
  else if type = typeAaaa then
    if max < p + 16 then Reader.fail .ednsinsize
    else do
      let ipAddr ← Reader.octets p 16
      return (.aaaa ipAddr, 16)
  else if type = typeCname ∨ type = typeNs ∨ type = typePtr then do
    let (name, namePartLen) ← parseName max p
    return (.name name, namePartLen)
  else if type = typeSrv then
    if max < p + 6 then Reader.fail .ednsinsize
    else do
      let prio ← Reader.field16 p
      let weight ← Reader.field16 (p + 2)
      let port ← Reader.field16 (p + 4)
      let (target, namePartLen) ← parseName max (p + 6)
      return (.srv prio weight port target, 6 + namePartLen)
  else do
    let data ← Reader.octets p rdlength.toNat
    return (.raw data.1, rdlength.toNat)

/-- `parse_rr`, with `*parsed_len` -/
def parseRr (max start : Nat) : DnsReader (ParsedRr × Nat) := do
  let fixed ← parseRrFixed max start
  let (rdata, dataLen) ← parseRData max fixed.type fixed.rdlength (start + fixed.namePartLen + 10)
  return (⟨fixed.name, fixed.type, fixed.dnsclass, fixed.ttl, fixed.rdlength, rdata⟩,
    fixed.namePartLen + 10 + dataLen)

/-! ## Packets -/

/-- Something that was parsed, where it starts, and how far the cursor was moved on for it. -/
structure Placed (α : Type) where
  start : Nat
  value : α
  parsedLen : Nat

/-- One of the loops of `pj_dns_parse_packet`, and where the cursor is after it. -/
def parseSection {α : Type} (parse : Nat → DnsReader (α × Nat)) :
    (count start : Nat) → DnsReader (List (Placed α) × Nat)
  | 0, start => return ([], start)
  | count + 1, start => do
      let (value, parsedLen) ← parse start
      let (rest, stop) ← parseSection parse count (start + parsedLen)
      return (⟨start, value, parsedLen⟩ :: rest, stop)

/-- A packet with its parts at their places. -/
structure PlacedPacket where
  hdr : DnsHdr
  q : List (Placed ParsedQuery)
  ans : List (Placed ParsedRr)
  ns : List (Placed ParsedRr)
  arr : List (Placed ParsedRr)

def parseHdr : DnsReader DnsHdr := do
  let id ← Reader.field16 0
  let flags ← Reader.field16 2
  let qdcount ← Reader.field16 4
  let anscount ← Reader.field16 6
  let nscount ← Reader.field16 8
  let arcount ← Reader.field16 10
  return { id, flags, qdcount, anscount, nscount, arcount }

def parsePlaced (size : Nat) : DnsReader PlacedPacket :=
  if size = 0 then Reader.fail .einval
  else if size < 12 then Reader.fail .ednsinsize
  else do
    let hdr ← parseHdr
    let (q, start) ← parseSection (parseQuery size) hdr.qdcount.toNat 12
    let (ans, start) ← parseSection (parseRr size) hdr.anscount.toNat start
    let (ns, start) ← parseSection (parseRr size) hdr.nscount.toNat start
    let (arr, _) ← parseSection (parseRr size) hdr.arcount.toNat start
    return { hdr, q, ans, ns, arr }

/-- `pj_dns_parse_packet` -/
def pjDnsParsePacket (size : Nat) : DnsReader ParsedPacket := do
  let placed ← parsePlaced size
  return {
    hdr := placed.hdr
    q := placed.q.map (·.value)
    ans := placed.ans.map (·.value)
    ns := placed.ns.map (·.value)
    arr := placed.arr.map (·.value) }

/-- The resource records of a packet, in the order of the packet. -/
def PlacedPacket.records (packet : PlacedPacket) : List (Placed ParsedRr) :=
  packet.ans ++ packet.ns ++ packet.arr

end Pjsip.PjlibUtil.Dns
