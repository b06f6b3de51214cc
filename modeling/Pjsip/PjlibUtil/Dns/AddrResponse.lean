import Pjsip.PjlibUtil.Dns.Packet
import Pjsip.Pjlib.Bytes

/-!
# Addresses in an answer (`resolver.c`)

The answer section of a parsed packet has `anscount` records.
-/

namespace Pjsip.PjlibUtil.Dns

open Pjsip.Base Pjsip.Pjlib

/-- `PJ_DNS_MAX_IP_IN_A_REC` -/
def maxIpInARec : Nat := 8

/-- The size of `buf_` of an address record. -/
def addrBufSize : Nat := 128

inductive IpAddr where
  | v4 (ip : Octets 4)
  | v6 (ip : Octets 16)
  deriving DecidableEq

/-- `pj_dns_addr_record` -/
structure AddrRecord where
  name : List UInt8
  aliasName : List UInt8
  addr : List IpAddr
  deriving DecidableEq

/-- `rdata.cname.name`; a record of this type has been parsed to a name. -/
def RData.cname : RData → List UInt8
  | .name text => text
  | _ => []

/-- `rdata.a.ip_addr`; a record of this type has been parsed to an address. -/
def RData.v4 : RData → Octets 4
  | .a ip => ip
  | _ => ⟨[0, 0, 0, 0], rfl⟩

/-- `rdata.aaaa.ip_addr` -/
def RData.v6 : RData → Octets 16
  | .aaaa ip => ip
  | _ => ⟨List.replicate 16 0, rfl⟩

/-- The address of a record of type A or AAAA. -/
def ParsedRr.ipAddr (rr : ParsedRr) : IpAddr :=
  if rr.type = typeA then .v4 rr.rdata.v4 else .v6 rr.rdata.v6

/-- `PJ_DNS_GET_RCODE` -/
def getRcode (flags : UInt16) : Nat := (flags &&& 0x0F).toNat

/-- `PJ_DNS_GET_TC` -/
def getTc (flags : UInt16) : Bool := flags &&& 0x0200 ≠ 0

def isAddrType (type : UInt16) : Bool := type = typeA || type = typeAaaa

/-- The first answer with this name. -/
def findAnswer (ans : List ParsedRr) (name : List UInt8) : Option ParsedRr :=
  ans.find? fun rr => stricmp rr.name name = 0

/-- `MAX_SEARCH` -/
def maxSearch : Nat := 20

/-- The loop that follows CNAME records, for `search` rounds at most: where it ends, under which
name, and the first name that it came to. -/
def followCname (ans : List ParsedRr) : (search : Nat) → ParsedRr →
    (resname aliasName : List UInt8) → Except DnsStatus (ParsedRr × List UInt8 × List UInt8)
  | 0, _, _, _ => .error .ednsinanswer
  | search + 1, rr, resname, aliasName =>
    if rr.type = typeCname then
      match findAnswer ans rr.rdata.cname with
      | none => .error .ednsnoanswerrec
      | some next =>
        followCname ans search next rr.rdata.cname
          (if aliasName.length = 0 then rr.rdata.cname else aliasName)
    else .ok (rr, resname, aliasName)

/-- The addresses under one name, as many as there is room for. -/
def collectAddrs (ans : List ParsedRr) (resname : List UInt8) : List IpAddr :=
  ((ans.filter fun rr => isAddrType rr.type && stricmp rr.name resname = 0).map
    (·.ipAddr)).take maxIpInARec

/-- `pj_dns_parse_addr_response` -/
def pjDnsParseAddrResponse (pkt : ParsedPacket) : Except DnsStatus AddrRecord :=
  if getRcode pkt.hdr.flags ≠ 0 then .error (.rcode (getRcode pkt.hdr.flags))
  else match pkt.q with
  | [] => .error .ednsinanswer
  | query :: _ =>
    let hostname := query.name
    if pkt.ans.length = 0 then .error .ednsnoanswerrec
    else if addrBufSize < hostname.length then .error .enametoolong
    else match findAnswer pkt.ans hostname with
    | none => .error .ednsnoanswerrec
    | some rr => do
        let (rr, resname, aliasName) ← followCname pkt.ans maxSearch rr hostname []
        if isAddrType rr.type = false then .error .ednsinanswer
        else if aliasName.length ≠ 0 ∧ addrBufSize - hostname.length < aliasName.length then
          .error .enametoolong
        else
          let addr := collectAddrs pkt.ans resname
          if addr.length = 0 then .error .ednsnoanswerrec
          else .ok { name := hostname, aliasName, addr }

end Pjsip.PjlibUtil.Dns
