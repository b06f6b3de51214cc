import Pjsip.Base.Run
import Pjsip.PjlibUtil.Srv.Entries

/-!
# SRV resolution (`srv_resolver.c`)

The resolution takes a step when a query is completed and for each turn of the loop of
`resolve_hostnames`, which starts a query for addresses, or two, for each target that has none yet.
A query that is started may fail, may be answered from the cache before the start returns, or is
outstanding until it is completed, perhaps between two turns of the loop.
-/

namespace Pjsip.PjlibUtil.Srv

open Pjsip.Base Pjsip.Pjlib Pjsip.PjlibUtil.Dns

/-- What the loop does next, for the target it is at. -/
inductive LoopNext where
  | head | startA | startAaaa
  deriving DecidableEq

/-- The variables of `resolve_hostnames`. -/
structure ResolveLoop where
  i : Nat
  errCnt : Nat
  err : Option DnsStatus
  next : LoopNext
  deriving DecidableEq

structure Resolution where
  job : SrvQuery
  loop : Option ResolveLoop
  deriving DecidableEq

/-- An entry of `pj_dns_srv_record`. -/
structure SrvEntry where
  priority : Nat
  weight : Nat
  port : UInt16
  name : List UInt8
  aliasName : List UInt8
  addr : List IpAddr
  deriving DecidableEq

/-- A call of the user's callback; no status is success. -/
structure Callback where
  status : Option DnsStatus
  record : Option (List SrvEntry)
  deriving DecidableEq

inductive QueryType where
  | a | aaaa
  deriving DecidableEq

/-- What a callback of the resolver brings. -/
abbrev Answer := Except DnsStatus ParsedPacket

/-- What comes of starting a query. -/
inductive Started where
  | cached (answer : Answer)
  | pending
  | failed (status : DnsStatus)

inductive Action where
  /-- The SRV query is answered, from the cache or later. -/
  | answer (rand : Nat → Nat) (answer : Answer)
  | turn
  | start (outcome : Started)
  /-- A query for the addresses of target `i` that was outstanding is completed. -/
  | complete (i : Nat) (type : QueryType) (answer : Answer)

/-! ## Starting -/

/-- `pj_dns_srv_resolve`, up to the start of the SRV query; `query` is there as well while a cached
answer is on its way. -/
def pjDnsSrvResolve (domainName : List UInt8) (defPort : UInt16) (option : SrvOption) : SrvQuery :=
  { dnsState := .srv, qSrv := .query, lastError := none
    option := { option with resolveAaaa := option.resolveAaaa || option.resolveAaaaOnly }
    domainPart := domainName, defPort, srv := [], hostResolved := 0 }

/-! ## Completing -/

/-- What `pj_dns_srv_cancel_query` leaves of a target. -/
def SrvTarget.cancel (t : SrvTarget) : SrvTarget := { t with qA := .null, qAaaa := .null }

/-- `pj_dns_srv_cancel_query`, without notice -/
def cancelQuery (job : SrvQuery) : SrvQuery :=
  { job with qSrv := .null, srv := job.srv.map SrvTarget.cancel }

/-- `on_error` -/
def onError (job : SrvQuery) (status : DnsStatus) : SrvQuery × List Callback :=
  (cancelQuery job, [⟨some status, none⟩])

/-- The entries of the targets that have addresses. -/
def srvRecord (srv : List SrvTarget) : List SrvEntry :=
  ((srv.filter fun t => 0 < t.addr.length).map fun t =>
    { priority := t.priority, weight := t.weight, port := t.port, name := t.targetName
      aliasName := t.cname, addr := t.addr }).take srvMaxAddr

/-- The end of `dns_callback`: the test whether all hosts have been resolved. -/
def checkResolved (job : SrvQuery) : List Callback :=
  if job.hostResolved = job.srv.length then
    let rec_ := srvRecord job.srv
    [⟨if 0 < rec_.length then none else some (job.lastError.getD .ednsnoanswerrec), some rec_⟩]
  else []

/-! ## The SRV answer -/

/-- The target that stands for the original one. -/
def fallback (job : SrvQuery) : SrvQuery :=
  { job with
    srv := [newTarget job.domainPart job.defPort 0 0]
    option :=
      { fallbackA := false
        fallbackAaaa := false
        resolveAaaa := job.option.fallbackAaaa
        resolveAaaaOnly := job.option.fallbackAaaa && !job.option.fallbackA } }

/-- After the answer: the loop is entered unless all addresses are known. -/
def proceed (job : SrvQuery) : Resolution × List Callback :=
  let job := if job.srv.length = 0 ∧ 0 < job.domainPart.length then fallback job else job
  if job.hostResolved ≠ job.srv.length then
    ({ job := { job with dnsState := .a }, loop := some ⟨0, 0, none, .head⟩ }, [])
  else ({ job, loop := none }, checkResolved job)

/-- `dns_callback`, for the SRV query -/
def srvAnswered (pton : InetPton) (rand : Nat → Nat) (job : SrvQuery) (answer : Answer) :
    Resolution × List Callback :=
  let job := { job with qSrv := .null }
  match answer with
  | .ok pkt =>
    if getTc pkt.hdr.flags then
      let (job, calls) := onError { job with lastError := some .eignored } .eignored
      ({ job, loop := none }, calls)
    else proceed (if pkt.ans.length ≠ 0 then buildServerEntries pton rand job pkt else job)
  | .error status =>
    let job := { job with lastError := some status }
    if job.option.fallbackA = false ∧ job.option.fallbackAaaa = false then
      let (job, calls) := onError job status
      ({ job, loop := none }, calls)
    else proceed job

/-! ## Answers with addresses -/

/-- The loop over the addresses of an answer: those of the family that was asked for are added
while there is room. -/
def addAddrs (type : QueryType) : (found addr : List IpAddr) → List IpAddr
  | [], addr => addr
  | ip :: found, addr =>
    if addr.length < addrMaxCount then
      match type, ip with
      | .a, .v4 ip => addAddrs type found (addr ++ [.v4 ip])
      | .aaaa, .v6 ip => addAddrs type found (addr ++ [.v6 ip])
      | _, _ => addAddrs type found addr
    else addr

/-- What an answer adds to a target, and the error that is kept of it. -/
def takeAnswer (type : QueryType) (answer : Answer) (t : SrvTarget) :
    SrvTarget × Option DnsStatus :=
  match answer with
  | .error status => (t, some status)
  | .ok pkt =>
    if pkt.ans.length = 0 then (t, none)
    else match pjDnsParseAddrResponse pkt with
    | .error status => (t, some status)
    | .ok found =>
      ({ t with
          cname := if t.cname.length = 0 ∧ found.aliasName.length ≠ 0 then found.aliasName
            else t.cname
          addr := addAddrs type found.addr t.addr }, none)

/-- The other query of the target is done; a place that is only reserved is not free. -/
def SrvTarget.completedBy (type : QueryType) (t : SrvTarget) : Bool :=
  match type with
  | .a => t.qAaaa = .null
  | .aaaa => t.qA = .null

def SrvTarget.clear (type : QueryType) (t : SrvTarget) : SrvTarget :=
  match type with
  | .a => { t with qA := .null }
  | .aaaa => { t with qAaaa := .null }

/-- `dns_callback`, for a query of target `i` -/
def addrAnswered (job : SrvQuery) (i : Nat) (t : SrvTarget) (type : QueryType) (answer : Answer) :
    SrvQuery × List Callback :=
  let (t', error) := takeAnswer type answer (t.clear type)
  let job :=
    { job with
      srv := job.srv.set i t'
      lastError := if error.isSome then error else job.lastError
      hostResolved := job.hostResolved + (t.completedBy type).toNat }
  (job, checkResolved job)

/-! ## The loop of `resolve_hostnames` -/

/-- The places for queries of a target that the loop comes to. -/
def SrvTarget.init (option : SrvOption) (t : SrvTarget) : SrvTarget :=
  { t with
    qA := .null
    qAaaa := if !option.resolveAaaaOnly && option.resolveAaaa then .dummy else .null }

/-- One turn: the next target, or the end of the loop. -/
def turn (job : SrvQuery) (loop : ResolveLoop) : Resolution × List Callback :=
  match job.srv[loop.i]? with
  | some t =>
    if t.addr.length ≠ 0 then ({ job, loop := some { loop with i := loop.i + 1 } }, [])
    else
      let job := { job with srv := job.srv.set loop.i (t.init job.option) }
      if job.option.resolveAaaaOnly = false then
        ({ job, loop := some { loop with next := .startA } }, [])
      else if job.option.resolveAaaa then
        ({ job, loop := some { loop with next := .startAaaa } }, [])
      else ({ job, loop := some { loop with i := loop.i + 1 } }, [])
  | none =>
    match if loop.errCnt = job.srv.length then loop.err else none with
    | some status =>
      let (job, calls) := onError job status
      ({ job, loop := none }, calls)
    | none => ({ job, loop := none }, [])

/-- A start that failed is counted right away. -/
def startFailed (job : SrvQuery) (loop : ResolveLoop) (status : DnsStatus) : Resolution :=
  { job := { job with hostResolved := job.hostResolved + 1 }
    loop := some { i := loop.i + 1, errCnt := loop.errCnt + 1, err := some status, next := .head } }

/-- Where the loop goes after the start of the first query of a target succeeded. -/
def afterA (option : SrvOption) (loop : ResolveLoop) : ResolveLoop :=
  if option.resolveAaaa then { loop with next := .startAaaa }
  else { loop with i := loop.i + 1, next := .head }

/-- `pj_dns_resolver_start_query` for target `t`, and what follows; without an answer from the cache
the place for the query is filled before it returns. -/
def startA (job : SrvQuery) (loop : ResolveLoop) (t : SrvTarget) (outcome : Started) :
    Resolution × List Callback :=
  match outcome with
  | .failed status =>
    (startFailed { job with srv := job.srv.set loop.i { t with qA := .null } } loop status, [])
  | .pending =>
    ({ job := { job with srv := job.srv.set loop.i { t with qA := .query } }
       loop := some (afterA job.option loop) }, [])
  | .cached answer =>
    let (job, calls) := addrAnswered job loop.i { t with qA := .null } .a answer
    ({ job, loop := some (afterA job.option loop) }, calls)

def startAaaa (job : SrvQuery) (loop : ResolveLoop) (t : SrvTarget) (outcome : Started) :
    Resolution × List Callback :=
  let loop' := { loop with i := loop.i + 1, next := .head }
  match outcome with
  | .failed status =>
    (startFailed { job with srv := job.srv.set loop.i { t with qAaaa := .null } } loop status, [])
  | .pending =>
    ({ job := { job with srv := job.srv.set loop.i { t with qAaaa := .query } }
       loop := some loop' }, [])
  | .cached answer =>
    let (job, calls) := addrAnswered job loop.i { t with qAaaa := .null } .aaaa answer
    ({ job, loop := some loop' }, calls)

/-! ## Steps -/

/-- The query of this type is outstanding. -/
def SrvTarget.awaits (type : QueryType) (t : SrvTarget) : Bool :=
  match type with
  | .a => t.qA = .query
  | .aaaa => t.qAaaa = .query

def step (pton : InetPton) (s : Resolution) : Action → Option (Resolution × List Callback)
  | .answer rand answer =>
    if s.job.qSrv = .query then some (srvAnswered pton rand s.job answer) else none
  | .turn =>
    match s.loop with
    | some loop => if loop.next = .head then some (turn s.job loop) else none
    | none => none
  | .start outcome =>
    match s.loop with
    | some loop =>
      match s.job.srv[loop.i]?, loop.next with
      | some t, .startA => some (startA s.job loop t outcome)
      | some t, .startAaaa => some (startAaaa s.job loop t outcome)
      | _, _ => none
    | none => none
  | .complete i type answer =>
    match s.job.srv[i]? with
    | some t =>
      if t.awaits type then
        let (job, calls) := addrAnswered s.job i t type answer
        some ({ s with job }, calls)
      else none
    | none => none

/-- A resolution begins with its SRV query. -/
def Resolution.init (domainName : List UInt8) (defPort : UInt16) (option : SrvOption) : Resolution :=
  { job := pjDnsSrvResolve domainName defPort option, loop := none }

end Pjsip.PjlibUtil.Srv
