import Pjsip.Base.SelectionSort
import Pjsip.Base.Tally
import Pjsip.PjlibUtil.Dns.AddrResponse

/-!
# The targets of an SRV answer (`srv_resolver.c`)

The targets are taken from the answer, ordered by priority and by a lot among those of one
priority, and given the addresses that came with the answer. How text is read as an IP
address (`pj_inet_pton`) is a parameter.
-/

namespace Pjsip.PjlibUtil.Srv

open Pjsip.Base Pjsip.Pjlib Pjsip.PjlibUtil.Dns

/-- `PJ_DNS_SRV_MAX_ADDR` -/
def srvMaxAddr : Nat := 8

/-- `PJ_MAX_HOSTNAME` -/
def maxHostname : Nat := 254

/-- `ADDR_MAX_COUNT` -/
def addrMaxCount : Nat := maxIpInARec

/-- The place for a query: `dummy` stands for one that will be started next. -/
inductive Slot where
  | null | dummy | query
  deriving DecidableEq

/-- `srv_target` -/
structure SrvTarget where
  targetName : List UInt8
  qA : Slot
  qAaaa : Slot
  cname : List UInt8
  port : UInt16
  priority : Nat
  weight : Nat
  sum : Nat
  addr : List IpAddr
  deriving DecidableEq

/-- The bits of `option`. -/
structure SrvOption where
  fallbackA : Bool
  fallbackAaaa : Bool
  resolveAaaa : Bool
  resolveAaaaOnly : Bool
  deriving DecidableEq

inductive DnsState where
  | srv | a
  deriving DecidableEq

/-- `pj_dns_srv_async_query` -/
structure SrvQuery where
  dnsState : DnsState
  qSrv : Slot
  lastError : Option DnsStatus
  option : SrvOption
  domainPart : List UInt8
  defPort : UInt16
  srv : List SrvTarget
  hostResolved : Nat
  deriving DecidableEq

/-- `pj_inet_pton`, for the two families. -/
structure InetPton where
  inet : List UInt8 → Option (Octets 4)
  inet6 : List UInt8 → Option (Octets 16)

/-- A target without addresses, for which nothing was started. -/
def newTarget (targetName : List UInt8) (port : UInt16) (priority weight : Nat) : SrvTarget :=
  { targetName, qA := .null, qAaaa := .null, cname := [], port, priority, weight, sum := 0,
    addr := [] }

/-! ## Which targets -/

/-- The target of a record that is kept. -/
def srvEntry (rr : ParsedRr) : Option SrvTarget :=
  match rr.rdata with
  | .srv prio weight port target =>
    if rr.type ≠ typeSrv ∨ maxHostname ≤ target.length ∨ target.length = 0 then none
    else some (newTarget target port prio.toNat weight.toNat)
  | _ => none

/-- As many targets as there is room for. -/
def srvEntries (ans : List ParsedRr) : List SrvTarget := (ans.filterMap srvEntry).take srvMaxAddr

/-! ## In which order -/

/-- The running sums of those that have this priority: the entries, the sum, and their number. -/
def runningSums (priority : Nat) : (sum : Nat) → List SrvTarget → List SrvTarget × Nat × Nat
  | sum, [] => ([], sum, 0)
  | sum, t :: rest =>
    if t.priority = priority then
      let next := runningSums priority (sum + t.weight) rest
      ({ t with sum := sum + t.weight } :: next.1, next.2.1, next.2.2 + 1)
    else (t :: rest, sum, 0)

/-- `SWAP` of the first entry and the one at place `j` -/
def swapFirst (first : SrvTarget) (rest : List SrvTarget) : (j : Nat) → SrvTarget × List SrvTarget
  | 0 => (first, rest)
  | k + 1 =>
    match rest[k]? with
    | none => (first, rest)
    | some b => (b, rest.set k first)

/-- One turn of the second pass: the entry that comes first, and what is left; `r` is what
`pj_rand` returns. -/
def electFirst (r : Nat) (t : SrvTarget) (rest : List SrvTarget) : SrvTarget × List SrvTarget :=
  let first := { t with sum := t.weight }
  let sums := runningSums t.priority t.weight rest
  if sums.2.2 = 0 then (first, sums.1)
  else
    swapFirst first sums.1 ((first :: sums.1).findIdx fun t => r % (sums.2.1 + 1) ≤ t.sum)

/-- The second pass; `rand` is about the turn in which so many entries are left. -/
def electRounds (rand : Nat → Nat) : Nat → List SrvTarget → List SrvTarget
  | n + 1, t :: rest =>
    let chosen := electFirst (rand n) t rest
    chosen.1 :: electRounds rand n chosen.2
  | _, l => l

def orderEntries (rand : Nat → Nat) (srv : List SrvTarget) : List SrvTarget :=
  electRounds rand srv.length (selectionSort (fun a b => a.priority < b.priority) srv).1

/-! ## Addresses that are known -/

/-- A record of the additional section is looked at. -/
def wantsRecord (option : SrvOption) (type : UInt16) : Bool :=
  isAddrType type && !(type = typeA && option.resolveAaaaOnly)
    && !(type = typeAaaa && !option.resolveAaaa)

/-- This target takes the address of the record. -/
def takesRecord (rr : ParsedRr) (t : SrvTarget) : Bool :=
  stricmp rr.name t.targetName = 0 && t.addr.length < addrMaxCount

def takeRecord (rr : ParsedRr) (t : SrvTarget) : SrvTarget :=
  if takesRecord rr t then { t with addr := t.addr ++ [rr.ipAddr] } else t

/-- A record of the additional section, for all the targets that it is about. -/
def addRecord (job : SrvQuery) (rr : ParsedRr) : SrvQuery :=
  if wantsRecord job.option rr.type then
    { job with
      srv := job.srv.map (takeRecord rr)
      hostResolved := job.hostResolved
        + job.srv.countP fun t => takesRecord rr t && t.addr.length = 0 }
  else job

/-- The address that a target's name is. -/
def nameAsAddr (pton : InetPton) (option : SrvOption) (name : List UInt8) : Option IpAddr :=
  match if option.resolveAaaaOnly then none else pton.inet name with
  | some ip => some (.v4 ip)
  | none => if option.resolveAaaa then (pton.inet6 name).map .v6 else none

def takeName (pton : InetPton) (option : SrvOption) (t : SrvTarget) : SrvTarget :=
  if t.addr.length = 0 then { t with addr := (nameAsAddr pton option t.targetName).toList } else t

/-- The last loop of `build_server_entries`. -/
def addNames (pton : InetPton) (job : SrvQuery) : SrvQuery :=
  { job with
    srv := job.srv.map (takeName pton job.option)
    hostResolved := job.hostResolved + job.srv.countP fun t =>
      t.addr.length = 0 && (nameAsAddr pton job.option t.targetName).isSome }

/-- `build_server_entries` -/
def buildServerEntries (pton : InetPton) (rand : Nat → Nat) (job : SrvQuery)
    (response : ParsedPacket) : SrvQuery :=
  let job := { job with srv := srvEntries response.ans }
  if job.srv.length = 0 then job
  else
    let job := { job with srv := orderEntries rand job.srv }
    addNames pton (response.arr.foldl addRecord job)

/-! ## No target is lost -/

def SrvTarget.forget (t : SrvTarget) : SrvTarget := { t with sum := 0 }

theorem runningSums_forget (priority sum : Nat) (l : List SrvTarget) :
    (runningSums priority sum l).1.map SrvTarget.forget = l.map SrvTarget.forget := by
  induction l generalizing sum with
  | nil => rfl
  | cons t l ih =>
    unfold runningSums
    split
    · rw [List.map_cons, List.map_cons, ih]
      rfl
    · rfl

theorem swapFirst_perm (first : SrvTarget) (rest : List SrvTarget) (j : Nat) :
    ((swapFirst first rest j).1 :: (swapFirst first rest j).2).Perm (first :: rest) := by
  cases j with
  | zero => exact .refl _
  | succ k =>
    rw [swapFirst]
    cases at_ : rest[k]? with
    | none => exact .refl _
    | some b => exact perm_exchange at_ first

theorem electFirst_perm (r : Nat) (t : SrvTarget) (rest : List SrvTarget) :
    (((electFirst r t rest).1 :: (electFirst r t rest).2).map SrvTarget.forget).Perm
      ((t :: rest).map SrvTarget.forget) := by
  have sums := runningSums_forget t.priority t.weight rest
  rw [List.map_cons (l := rest), ← sums]
  by_cases others : (runningSums t.priority t.weight rest).2.2 = 0
  · have alone : electFirst r t rest = (_, _) := if_pos others
    rw [alone]
    exact .refl _
  · have elected : electFirst r t rest = swapFirst _ _ _ := if_neg others
    rw [elected]
    exact (swapFirst_perm _ _ _).map SrvTarget.forget

theorem electRounds_perm (rand : Nat → Nat) (n : Nat) (l : List SrvTarget) :
    ((electRounds rand n l).map SrvTarget.forget).Perm (l.map SrvTarget.forget) := by
  induction n generalizing l with
  | zero => exact .refl _
  | succ n ih =>
    cases l with
    | nil => exact .refl _
    | cons t rest => exact ((ih _).cons _).trans (electFirst_perm (rand n) t rest)

theorem orderEntries_perm (rand : Nat → Nat) (srv : List SrvTarget) :
    ((orderEntries rand srv).map SrvTarget.forget).Perm (srv.map SrvTarget.forget) :=
  (electRounds_perm rand _ _).trans ((selectionSort_perm _ srv).map _)

/-! ## Each target with addresses is counted -/

/-- Before any query for addresses: what is counted are the targets that have some. -/
structure Known (job : SrvQuery) : Prop where
  idle : ∀ t ∈ job.srv, t.qA = .null ∧ t.qAaaa = .null
  few : ∀ t ∈ job.srv, t.addr.length ≤ addrMaxCount
  counted : job.hostResolved + job.srv.countP (fun t => t.addr.length = 0) = job.srv.length

variable {job : SrvQuery}

theorem known_entries (unresolved : job.hostResolved = 0) {srv : List SrvTarget}
    (idle : ∀ t ∈ srv, t.qA = .null ∧ t.qAaaa = .null ∧ t.addr = []) :
    Known { job with srv } := by
  refine ⟨fun t mem => ⟨(idle t mem).1, (idle t mem).2.1⟩, ?_, ?_⟩
  · intro t mem
    rw [(idle t mem).2.2]
    exact Nat.zero_le _
  · show job.hostResolved + _ = _
    rw [unresolved, Nat.zero_add, List.countP_eq_length]
    intro t mem
    simp [(idle t mem).2.2]

theorem srvEntries_idle {ans : List ParsedRr} :
    ∀ t ∈ srvEntries ans, t.qA = .null ∧ t.qAaaa = .null ∧ t.addr = [] := by
  intro t mem
  obtain ⟨rr, -, entry⟩ := List.mem_filterMap.1 (List.mem_of_mem_take mem)
  unfold srvEntry at entry
  split at entry
  · split at entry
    · cases entry
    · cases entry
      exact ⟨rfl, rfl, rfl⟩
  · cases entry

theorem orderEntries_idle {rand : Nat → Nat} {srv : List SrvTarget}
    (idle : ∀ t ∈ srv, t.qA = .null ∧ t.qAaaa = .null ∧ t.addr = []) :
    ∀ t ∈ orderEntries rand srv, t.qA = .null ∧ t.qAaaa = .null ∧ t.addr = [] := by
  intro t mem
  have mem' := (orderEntries_perm rand srv).mem_iff.1 (List.mem_map_of_mem mem)
  obtain ⟨t', there, same⟩ := List.mem_map.1 mem'
  simp only [SrvTarget.forget, SrvTarget.mk.injEq] at same
  grind

theorem takeRecord_keeps (rr : ParsedRr) (t : SrvTarget) :
    (takeRecord rr t).qA = t.qA ∧ (takeRecord rr t).qAaaa = t.qAaaa
      ∧ (t.addr.length ≤ addrMaxCount → (takeRecord rr t).addr.length ≤ addrMaxCount)
      ∧ (decide ((takeRecord rr t).addr.length = 0)).toNat
          + (takesRecord rr t && t.addr.length = 0).toNat = (decide (t.addr.length = 0)).toNat := by
  unfold takeRecord
  split
  · next takes =>
    have room := takes
    simp only [takesRecord, Bool.and_eq_true, decide_eq_true_eq] at room
    refine ⟨rfl, rfl, fun _ => ?_, ?_⟩
    · rw [List.length_append, List.length_singleton]
      exact room.2
    · simp [takes]
  · next leaves => exact ⟨rfl, rfl, id, by simp [leaves]⟩

theorem takeName_keeps (pton : InetPton) (option : SrvOption) (t : SrvTarget) :
    (takeName pton option t).qA = t.qA ∧ (takeName pton option t).qAaaa = t.qAaaa
      ∧ (t.addr.length ≤ addrMaxCount → (takeName pton option t).addr.length ≤ addrMaxCount)
      ∧ (decide ((takeName pton option t).addr.length = 0)).toNat
          + (t.addr.length = 0 && (nameAsAddr pton option t.targetName).isSome).toNat
        = (decide (t.addr.length = 0)).toNat := by
  unfold takeName
  split
  · next unknown =>
    generalize nameAsAddr pton option t.targetName = found
    cases found with
    | none => exact ⟨rfl, rfl, fun _ => Nat.zero_le _, by simp [unknown]⟩
    | some ip => exact ⟨rfl, rfl, fun _ => Nat.succ_le_succ (Nat.zero_le _), by simp [unknown]⟩
  · next known => exact ⟨rfl, rfl, id, by simp [known]⟩

theorem Known.take (known : Known job) {f : SrvTarget → SrvTarget} {took : SrvTarget → Bool}
    (keeps : ∀ t, (f t).qA = t.qA ∧ (f t).qAaaa = t.qAaaa
      ∧ (t.addr.length ≤ addrMaxCount → (f t).addr.length ≤ addrMaxCount)
      ∧ (decide ((f t).addr.length = 0)).toNat + (took t).toNat
        = (decide (t.addr.length = 0)).toNat) :
    Known { job with srv := job.srv.map f, hostResolved := job.hostResolved + job.srv.countP took } := by
  refine ⟨?_, ?_, ?_⟩
  · intro t mem
    obtain ⟨t', there, rfl⟩ := List.mem_map.1 mem
    rw [(keeps t').1, (keeps t').2.1]
    exact known.idle t' there
  · intro t mem
    obtain ⟨t', there, rfl⟩ := List.mem_map.1 mem
    exact (keeps t').2.2.1 (known.few t' there)
  · have counted := known.counted
    have split : job.srv.countP (fun t => (f t).addr.length = 0) + job.srv.countP took
        = job.srv.countP fun t => t.addr.length = 0 := countP_split fun t => (keeps t).2.2.2
    show _ + _ + List.countP _ (List.map f job.srv) = (List.map f job.srv).length
    rw [List.length_map, List.countP_map]
    show job.hostResolved + job.srv.countP took + job.srv.countP (fun t => (f t).addr.length = 0)
      = job.srv.length
    omega

theorem Known.addRecord (known : Known job) (rr : ParsedRr) : Known (addRecord job rr) := by
  unfold Srv.addRecord
  split
  · exact known.take (takeRecord_keeps rr)
  · exact known

theorem Known.addNames (known : Known job) (pton : InetPton) : Known (addNames pton job) :=
  known.take (takeName_keeps pton job.option)

theorem addRecord_option (job : SrvQuery) (rr : ParsedRr) :
    (addRecord job rr).option = job.option ∧ (addRecord job rr).qSrv = job.qSrv
      ∧ (addRecord job rr).dnsState = job.dnsState := by
  unfold addRecord
  split
  · exact ⟨rfl, rfl, rfl⟩
  · exact ⟨rfl, rfl, rfl⟩

theorem addRecords_option (records : List ParsedRr) (job : SrvQuery) :
    (records.foldl addRecord job).option = job.option
      ∧ (records.foldl addRecord job).qSrv = job.qSrv := by
  induction records generalizing job with
  | nil => exact ⟨rfl, rfl⟩
  | cons rr records ih =>
    obtain ⟨option, qSrv, -⟩ := addRecord_option job rr
    rw [List.foldl_cons, (ih _).1, (ih _).2, option, qSrv]
    exact ⟨rfl, rfl⟩

theorem Known.addRecords (known : Known job) (records : List ParsedRr) :
    Known (records.foldl Srv.addRecord job) := by
  induction records generalizing job with
  | nil => exact known
  | cons rr records ih => exact ih (known.addRecord rr)

theorem buildServerEntries_known (pton : InetPton) (rand : Nat → Nat)
    (unresolved : job.hostResolved = 0) (response : ParsedPacket) :
    Known (buildServerEntries pton rand job response)
      ∧ (buildServerEntries pton rand job response).option = job.option
      ∧ (buildServerEntries pton rand job response).qSrv = job.qSrv := by
  have built : buildServerEntries pton rand job response
      = if (srvEntries response.ans).length = 0 then { job with srv := srvEntries response.ans }
        else addNames pton (response.arr.foldl Srv.addRecord
          { job with srv := orderEntries rand (srvEntries response.ans) }) := rfl
  rw [built]
  split
  · exact ⟨known_entries unresolved srvEntries_idle, rfl, rfl⟩
  · have ordered : Known { job with srv := orderEntries rand (srvEntries response.ans) } :=
      known_entries unresolved (orderEntries_idle srvEntries_idle)
    have same := addRecords_option response.arr
      { job with srv := orderEntries rand (srvEntries response.ans) }
    exact ⟨(ordered.addRecords response.arr).addNames pton, same.1, same.2⟩

end Pjsip.PjlibUtil.Srv
