import Pjsip.Pjnath.Ice.Check

/-!
# The ICE session (`ice_session.c`)

What a session does with its check list, under its group lock: candidates are added and paired,
checks are sent and completed, and requests of the other side trigger checks. A request is
known by the address of its transmit data; what the STUN sessions below do with it is up to the
environment.
-/

namespace Pjsip.Pjnath.Ice

open Pjsip.Base Pjsip.Pjnath.Stun

/-- What a session rests on, by the number of the request it is asked about. -/
structure IceEnv where
  /-- `pj_stun_session_create_req`: the address of the request. -/
  createReq : Nat → Except IceStatus Nat
  /-- `pj_stun_session_send_msg` -/
  sendMsg : Nat → Except IceStatus Unit
  /-- `pj_sockaddr_synthesize`, to IPv6. -/
  synthesize : SockAddr → Option SockAddr
  /-- The foundation of a remote candidate in this slot: made from where it is in memory. -/
  prflxFoundation : Nat → List UInt8

/-- The part of `pj_ice_msg_data` that a request keeps, with the role attribute of its message. -/
structure Request where
  tdata : Nat
  ckid : Nat
  lcand : Nat
  rcand : Nat
  transportId : Nat
  roleKind : RoleKind
  /-- Whether its message has a USE-CANDIDATE attribute. -/
  useCandidate : Bool
  deriving DecidableEq

def Request.pair (request : Request) : Nat × Nat := (request.lcand, request.rcand)

/-- `pj_ice_sess_comp`: places in the valid list. -/
structure Comp where
  validCheck : Option Nat := none
  nominatedCheck : Option Nat := none

/-- `pj_ice_rx_check` -/
structure RxCheck where
  compId : Nat
  transportId : Nat
  srcAddr : SockAddr
  useCandidate : Bool
  priority : Nat

/-- `enum timer_type` -/
inductive TimerType where
  | none | completionCallback | controlledWaitNom | startNominatedCheck | keepAlive
  deriving DecidableEq, Repr

/-- `pj_ice_sess_trickle` -/
inductive Trickle where
  | disabled | half | full
  deriving DecidableEq, Repr

structure IceSess where
  role : Role
  tieBreaker : Nat
  prefs : CandType → Nat
  aggressive : Bool
  wantNomTimeout : Int
  trickle : Trickle
  isNominating : Bool
  isComplete : Bool
  isDestroying : Bool
  isTrickling : Bool
  iceStatus : IceStatus
  /-- The timer entries: what they are set for, or whether they run. -/
  timer : TimerType
  timerEndOfCand : Bool
  clistTimer : Bool
  txUfrag : List UInt8
  txPass : List UInt8
  compCnt : Nat
  comps : List Comp
  lcands : List Cand
  lcandPaired : Nat
  rcands : List Cand
  rcandPaired : Nat
  earlyCheck : List RxCheck
  clist : Checklist
  validList : List Check
  /-- How many requests have been made. -/
  requests : Nat
  /-- The requests that were sent, the last first. -/
  sent : List Request
  /-- Those of which the transaction is not complete. -/
  pending : List Request
  /-- Each time that nominated checks were started: whether the session was fit for it. -/
  starts : List Bool

namespace IceSess

def lcand (ice : IceSess) (i : Nat) : Cand := ice.lcands.getD i {}

def rcand (ice : IceSess) (i : Nat) : Cand := ice.rcands.getD i {}

def comp (ice : IceSess) (i : Nat) : Comp := ice.comps.getD i {}

def compId (ice : IceSess) (check : Check) : Nat := (ice.lcand check.lcand).compId

/-- The request sent last for a pair. -/
def lastSent (ice : IceSess) (pair : Nat × Nat) : Option Request :=
  ice.sent.find? (·.pair = pair)

def valid (ice : IceSess) (i : Nat) : Check := ice.validList.getD i {}

/-- Whether a check goes the way of a check of the valid list. -/
def sameWay (ice : IceSess) (vc c : Check) : Bool :=
  (ice.lcand c.lcand).transportId = (ice.lcand vc.lcand).transportId && c.rcand = vc.rcand

/-! ## Completion -/

/-- `on_ice_complete`; the application is told by the timer. -/
def onIceComplete (ice : IceSess) (status : IceStatus) : IceSess :=
  if ice.isComplete then ice
  else { ice with isComplete := true, iceStatus := status, timer := .completionCallback }

/-- `update_comp_check` for a component: `check` is the place of a check of the valid list. -/
def updateComp (ice : IceSess) (comp : Comp) (check : Nat) : Comp where
  validCheck :=
    match comp.validCheck with
    | none => some check
    | some vc =>
      if (comp.nominatedCheck.isNone && (ice.valid check).nominated)
          || ((ice.valid vc).prio < (ice.valid check).prio
            && (comp.nominatedCheck.isNone || (ice.valid check).nominated)) then some check
      else some vc
  nominatedCheck :=
    if (ice.valid check).nominated then
      match comp.nominatedCheck with
      | none => some check
      | some nc => if (ice.valid nc).prio < (ice.valid check).prio then some check else some nc
    else comp.nominatedCheck

/-- `update_comp_check` -/
def updateCompCheck (ice : IceSess) (compId check : Nat) : IceSess :=
  if compId > ice.compCnt then ice
  else
    { ice with comps := ice.comps.modify (compId - 1) fun comp => ice.updateComp comp check }

/-- The first check that goes the way of `vc` is to be performed again. -/
def renominate (ice : IceSess) (vc : Check) : IceSess :=
  let j := ice.clist.checks.findIdx (ice.sameWay vc)
  { ice with
    clist := ice.clist.setChecks (ice.clist.checks.modify j (Check.setState .waiting .success))
      (by rw [List.length_modify]) }

/-- The first check that goes the way of `vc` is there and has no error. -/
def behind (ice : IceSess) (vc : Check) : Bool :=
  match ice.clist.checks.find? (ice.sameWay vc) with
  | some c => c.errCode = .success
  | none => false

/-- What nominated checks are to be started in: `start_nominated_check` asserts the better part
of it. -/
def fitToNominate (ice : IceSess) : Bool :=
  !ice.isComplete && !ice.isNominating && ice.role = .controlling
    && (List.range ice.compCnt).all fun i =>
      (ice.comp i).nominatedCheck.isNone
        && match (ice.comp i).validCheck with
          | some vc => (ice.valid vc).errCode = .success && ice.behind (ice.valid vc)
          | none => false

/-- `start_nominated_check` -/
def startNominatedCheck (ice : IceSess) : IceSess :=
  let ice : IceSess := { ice with
    starts := ice.fitToNominate :: ice.starts
    isTrickling := false
    timer := if ice.timer = .startNominatedCheck then .none else ice.timer }
  let ice := (List.range ice.compCnt).foldl (fun ice i =>
    match (ice.comp i).validCheck with
    | some vc => ice.renominate (ice.valid vc)
    | none => ice) ice
  { ice with clistTimer := true, isNominating := true }

/-- Whether every component has a check of a kind. -/
def allComps (ice : IceSess) (has : Comp → Option Nat) : Bool :=
  (List.range ice.compCnt).all fun i => (has (ice.comp i)).isSome

/-- `check_ice_complete` -/
def checkIceComplete (ice : IceSess) : IceSess × Bool :=
  if ice.allComps Comp.nominatedCheck then (ice.onIceComplete .success, true)
  else if !ice.isTrickling
      && ice.clist.checks.all (fun c => c.state = .succeeded || c.state = .failed) then
    if ice.role = .controlled then
      if !ice.allComps Comp.validCheck then (ice.onIceComplete .eicefailed, true)
      else if ice.timer = .none ∧ ice.wantNomTimeout ≥ 0 then
        ({ ice with timer := .controlledWaitNom }, false)
      else (ice, false)
    else if ice.isNominating then (ice.onIceComplete .eicefailed, true)
    else if !ice.allComps Comp.validCheck then (ice.onIceComplete .eicefailed, true)
    else (ice.startNominatedCheck, false)
  else if ice.role = .controlling ∧ ice.isNominating = false ∧ ice.timer = .none
      ∧ ice.allComps Comp.validCheck then
    ({ ice with timer := .startNominatedCheck }, false)
  else (ice, false)

/-- Frozen checks of the same foundation are to be performed. -/
def unfreeze (check c : Check) : Check :=
  if c.foundationIdx = check.foundationIdx ∧ c.state = .frozen then
    c.setState .waiting .success
  else c

/-- Whether the transaction of a check is cancelled, once there is a nominated one. -/
def cancels (ice : IceSess) (check c : Check) : Bool :=
  ice.compId c = ice.compId check && c.state = .inProgress && c.tdata.isSome

/-- What becomes of the checks of a component that has a nominated one. -/
def giveUp (ice : IceSess) (check c : Check) : Check :=
  if ice.compId c = ice.compId check ∧ c.state.toDo then c.setState .failed .ecancelled
  else if ice.cancels check c then { c with tdata := none }.setState .failed .ecancelled
  else c

/-- `on_check_complete`, `check` being complete by now. -/
def onCheckComplete (ice : IceSess) (check : Check) : IceSess × Bool :=
  let ice : IceSess :=
    if check.errCode = .success then
      { ice with clist := ice.clist.mapChecks (unfreeze check) }
    else ice
  let ice : IceSess :=
    if check.errCode = .success ∧ check.nominated then
      { ice with
        clist := ice.clist.mapChecks (ice.giveUp check)
        -- `pj_stun_session_cancel_req`
        pending := ice.pending.filter fun r =>
          !ice.clist.checks.any fun c => ice.cancels check c && c.tdata = some r.tdata }
    else ice
  ice.checkIceComplete

/-! ## Candidates and pairs -/

/-- `pj_ice_sess_add_cand`, with the place of the candidate. -/
def addCand (ice : IceSess) (compId transportId : Nat) (type : CandType) (localPref : Nat)
    (foundation : List UInt8) (addr baseAddr : SockAddr) : IceSess × Except IceStatus Nat :=
  if compId = 0 ∨ compId > ice.compCnt then (ice, .error .einval)
  else if ice.lcands.length ≥ maxCand then (ice, .error .etoomany)
  else
    let known := if ice.trickle = .disabled then none else
      ice.lcands.findIdx? fun c =>
        c.compId = compId && c.type = type && c.addr = addr && c.baseAddr = baseAddr
    match known with
    | some i => (ice, .ok i)
    | none =>
      let prio := calcCandPrio (ice.prefs type) localPref compId
      let cand : Cand := ⟨type, compId, transportId, foundation, prio, addr, baseAddr⟩
      ({ ice with lcands := ice.lcands ++ [cand] }, .ok ice.lcands.length)

/-- One remote candidate is saved. -/
def saveRcand (ice : IceSess) (cand : Cand) : IceSess :=
  if cand.compId = 0 ∨ cand.compId > ice.compCnt then ice
  else if ice.trickle ≠ .disabled ∧ ice.rcands.any (fun c =>
      cand.compId = c.compId && cand.type = c.type && cand.addr = c.addr) then ice
  else if ice.rcands.length ≥ maxCand then ice
  else { ice with rcands := ice.rcands ++ [cand] }

/-- Whether a new check can be performed at once, from what the others of its foundation are
at. -/
def mayUnfreeze (ice : IceSess) (chk : Check) : List Check → Bool
  | [] => true
  | c :: rest =>
    if c.foundationIdx ≠ chk.foundationIdx then ice.mayUnfreeze chk rest
    else if c.state = .succeeded then true
    else if c.state = .waiting ∨ c.state = .inProgress then false
    else if ice.compId c < ice.compId chk then false
    else if ice.compId c = ice.compId chk ∧ c.prio > chk.prio then false
    else ice.mayUnfreeze chk rest

/-- The slot behind the last check is filled for a pair, and put to use if the pair has a
foundation. -/
def fillPair (ice : IceSess) (clist : Checklist) (i j : Nat) : Checklist × Bool :=
  match stale : clist.stale with
  | [] => (clist, false)
  | old :: rest =>
    let (foundationIdx, foundation) :=
      Checklist.foundationIdx clist.foundation (ice.lcand i) (ice.rcand j)
    let prio := calcCheckPrio ice.role (ice.lcand i) (ice.rcand j)
    let chk := { old with lcand := i, rcand := j, prio, state := .frozen, foundationIdx }
    if foundationIdx < 0 then
      ({ clist with
          stale := chk :: rest
          foundation
          size := by simpa [stale] using clist.size }, false)
    else
      let chk :=
        if ice.isTrickling && ice.mayUnfreeze chk clist.checks then chk.setState .waiting .success
        else chk
      ({ clist with
          checks := clist.checks ++ [chk]
          stale := rest
          foundation
          size := by
            have := clist.size
            rw [stale] at this
            simp only [List.length_append, List.length_cons, List.length_nil] at this ⊢
            omega }, true)

/-- A local and a remote candidate are paired. -/
def addPair (ice : IceSess) (acc : Checklist × Nat) (i j : Nat) : Checklist × Nat :=
  let lcand := ice.lcand i
  let rcand := ice.rcand j
  let (clist, room) :=
    if acc.1.checks.length ≥ maxChecks then acc.1.discard (calcCheckPrio ice.role lcand rcand)
    else (acc.1, true)
  if !room then (clist, acc.2)
  else if lcand.compId ≠ rcand.compId ∨ !sameFamily lcand.addr rcand.addr then (clist, acc.2)
  else
    let (clist, added) := ice.fillPair clist i j
    (clist, if added then acc.2 + 1 else acc.2)

/-- The candidates that have not been paired yet, in the order in which they are. -/
def newPairs (ice : IceSess) : List (Nat × Nat) :=
  (List.range ice.lcands.length).flatMap fun i =>
    let rstart := if i ≥ ice.lcandPaired then 0 else ice.rcandPaired
    ((List.range ice.rcands.length).drop rstart).map fun j => (i, j)

/-- Components that the other side does not have are given up. -/
def dropComps (ice : IceSess) : IceSess :=
  let highestComp := ice.rcands.foldl (fun highest c => max highest c.compId) 0
  { ice with
    comps := ice.comps.mapIdx fun i comp =>
      if highestComp ≤ i ∧ i < ice.compCnt then {} else comp
    compCnt := highestComp
    -- `pj_stun_session_destroy`
    pending := ice.pending.filter fun r =>
      let compId := (ice.lcand r.lcand).compId
      !(highestComp < compId && compId ≤ ice.compCnt) }

/-- `add_rcand_and_update_checklist` -/
def addRcandAndUpdateChecklist (ice : IceSess) (remCand : List Cand) (trickleDone : Bool) :
    IceSess × IceStatus :=
  let ice := remCand.foldl saveRcand ice
  let (clist, newPair) :=
    ice.newPairs.foldl (fun acc pair => ice.addPair acc pair.1 pair.2) (ice.clist, 0)
  let ice : IceSess := { ice with clist }
  if clist.checks = [] ∧ trickleDone then (ice, .enotfound)
  else
    let ice : IceSess := { ice with lcandPaired := ice.lcands.length, rcandPaired := ice.rcands.length }
    let (clist, status) :=
      if newPair ≠ 0 then clist.sort.prune ice.lcands else (clist, .success)
    let ice : IceSess := { ice with clist }
    if status ≠ .success then (ice, status)
    else
      let ice : IceSess :=
        if trickleDone then
          let ice := ice.dropComps
          if ice.trickle ≠ .disabled then ice.checkIceComplete.1 else ice
        else ice
      let resumes := ice.trickle ≠ .disabled ∧ ice.clist.checks ≠ [] ∧ ice.isComplete = false
        ∧ ice.clist.state = .running
      ({ ice with
          clistTimer := if resumes then true else ice.clistTimer
          timerEndOfCand := if trickleDone then false else ice.timerEndOfCand }, .success)

/-- `pj_ice_sess_create_check_list` -/
def createCheckList (ice : IceSess) (remUfrag remPasswd : List UInt8) (remCand : List Cand) :
    IceSess × IceStatus :=
  if ice.txUfrag ≠ [] then (ice, .success)
  else
    let ice : IceSess := { ice with
      txUfrag := remUfrag
      txPass := remPasswd
      clistTimer := false
      clist := ice.clist.clear
      lcandPaired := 0
      rcandPaired := 0 }
    if ice.lcands ≠ [] ∧ remCand ≠ [] then
      ice.addRcandAndUpdateChecklist remCand (!ice.isTrickling)
    else (ice, .success)

/-- `pj_ice_sess_update_check_list` -/
def updateCheckList (ice : IceSess) (remUfrag remPasswd : List UInt8) (remCand : List Cand)
    (trickleDone : Bool) : IceSess × IceStatus :=
  if ice.txUfrag = [] then (ice, .einvalidop)
  else if ice.isTrickling = false ∧ remCand ≠ [] then (ice, .success)
  else
    let remCand := if ice.txUfrag = remUfrag ∧ ice.txPass = remPasswd then remCand else []
    let (ice, status) := ice.addRcandAndUpdateChecklist remCand trickleDone
    ({ ice with isTrickling := ice.isTrickling && !trickleDone }, status)

/-! ## Checks -/

/-- `perform_check` -/
def performCheck (env : IceEnv) (ice : IceSess) (checkId : Nat) (nominate : Bool) :
    IceSess × IceStatus :=
  let check := ice.clist.slot checkId
  let ice' := { ice with requests := ice.requests + 1 }
  match env.createReq ice.requests with
  | .error status => (ice', status)
  | .ok tdata =>
    let nominated := check.nominated || (ice.role = .controlling && nominate)
    match env.sendMsg ice.requests with
    | .error status =>
      ({ ice' with
          clist := ice.clist.modifySlot checkId fun c => { c with tdata := none, nominated } },
        status)
    | .ok () =>
      let request : Request :=
        { tdata
          ckid := checkId
          lcand := check.lcand
          rcand := check.rcand
          transportId := (ice.lcand check.lcand).transportId
          roleKind := roleKind ice.role
          useCandidate := ice.role = .controlling && nominate }
      ({ ice' with
          clist := ice.clist.modifySlot checkId fun c =>
            { c with tdata := some tdata, nominated }.setState .inProgress .success
          sent := request :: ice.sent
          pending := request :: ice.pending },
        .success)

/-- A check has failed. -/
def failCheck (ice : IceSess) (ckid : Nat) (status : IceStatus) : IceSess :=
  let clist := ice.clist.modifySlot ckid (Check.setState .failed status)
  ({ ice with clist }.onCheckComplete (clist.slot ckid)).1

/-- The check that the periodic check performs. -/
def nextCheck (ice : IceSess) : Option Nat :=
  if ice.isNominating ∧ ice.aggressive = false then
    (List.range ice.compCnt).findSome? fun i =>
      (ice.comp i).validCheck.bind fun vc =>
        ice.clist.checks.findIdx? fun c => c.state = .waiting && ice.sameWay (ice.valid vc) c
  else
    (ice.clist.checks.findIdx? (·.state = .waiting)).or
      (ice.clist.checks.findIdx? (·.state = .frozen))

/-- `start_periodic_check` -/
def startPeriodicCheck (env : IceEnv) (ice : IceSess) : IceSess :=
  if ice.isDestroying then ice
  else
    let ice : IceSess := { ice with clistTimer := false, clist := { ice.clist with state := .running } }
    match ice.nextCheck with
    | none => ice
    | some checkIdx =>
      let (ice, status) := ice.performCheck env checkIdx ice.isNominating
      let ice := if status ≠ .success then ice.failCheck checkIdx status else ice
      { ice with clistTimer := true }

/-- The pair of a succeeded check becomes valid: the candidate `l` is the mapped address. -/
def makeValid (ice : IceSess) (ckid l : Nat) : IceSess :=
  let check := ice.clist.slot ckid
  let (validList, i) :=
    match ice.validList.findIdx? (fun c => c.lcand = l && c.rcand = check.rcand) with
    | none =>
      let newCheck : Check :=
        { lcand := l
          rcand := check.rcand
          prio := calcCheckPrio ice.role (ice.lcand l) (ice.rcand check.rcand)
          state := .succeeded
          nominated := check.nominated }
      (ice.validList ++ [newCheck], ice.validList.length)
    | some i =>
      (ice.validList.modify i fun c => { c with nominated := check.nominated }, i)
  let ice : IceSess := { ice with validList }
  let ice := ice.updateCompCheck (ice.lcand l).compId i
  let sorted := selectionSort higherCheck ice.validList
  let follow := Option.map (followExchanges sorted.2)
  let clist := ice.clist.modifySlot ckid (Check.setState .succeeded .success)
  let ice : IceSess := { ice with
    validList := sorted.1
    comps := ice.comps.map fun comp : Comp => ⟨follow comp.validCheck, follow comp.nominatedCheck⟩
    clist }
  (ice.onCheckComplete (clist.slot ckid)).1

/-- What a transaction ends with. -/
structure Completion where
  status : IceStatus
  srcAddr : SockAddr
  /-- XOR-MAPPED-ADDRESS -/
  mappedAddr : Option SockAddr

/-- The source address to compare with: IPv6 stands for what it is synthesized from. -/
def sourceAddr (env : IceEnv) (rcandAddr srcAddr : SockAddr) : SockAddr :=
  match rcandAddr, srcAddr with
  | .inet .., .inet6 .. => if env.synthesize rcandAddr = some srcAddr then rcandAddr else srcAddr
  | _, _ => srcAddr

/-- The end of `on_stun_request_complete`, after a success response. -/
def checkSucceeded (env : IceEnv) (ice : IceSess) (ckid transportId : Nat)
    (completion : Completion) : IceSess :=
  let check := ice.clist.slot ckid
  let rcandAddr := (ice.rcand check.rcand).addr
  if rcandAddr ≠ sourceAddr env rcandAddr completion.srcAddr then
    ice.failCheck ckid .eiceinsrcaddr
  else
    match completion.mappedAddr with
    | none => ice.failCheck ckid .estunnomappedaddr
    | some xaddr =>
      let base := (ice.lcand check.lcand).baseAddr
      match ice.lcands.findIdx? (fun c => xaddr = c.addr && base = c.baseAddr) with
      | some l => ice.makeValid ckid l
      | none =>
        let localPref := 65535 - ice.lcands.length
        match ice.addCand (ice.compId check) transportId .prflx localPref
            (calcFoundation .prflx base) xaddr base with
        | (ice, .error status) => ice.failCheck ckid status
        | (ice, .ok l) => ice.makeValid ckid l

/-- The slot that a completed request is taken for: the one it remembers if its transaction is
there, else the first check of its pair. -/
def completedSlot (ice : IceSess) (request : Request) : Option Nat :=
  if (ice.clist.slot request.ckid).tdata = some request.tdata then some request.ckid
  else
    ice.clist.checks.findIdx? fun c => c.lcand = request.lcand && c.rcand = request.rcand

def clearTdata (ice : IceSess) (ckid : Nat) : IceSess :=
  { ice with clist := ice.clist.modifySlot ckid fun c => { c with tdata := none } }

/-- `on_stun_request_complete` -/
def onStunRequestComplete (env : IceEnv) (ice : IceSess) (request : Request)
    (completion : Completion) : IceSess :=
  if ice.isDestroying ∨ ice.isComplete then ice
  else
    match ice.completedSlot request with
    -- the check may have been pruned
    | none => ice.clearTdata request.ckid
    | some ckid =>
      let ice := ice.clearTdata ckid
      match completion.status with
      | .success => ice.checkSucceeded env ckid request.transportId completion
      | .stunCode 487 =>
        let ice : IceSess := { ice with
          role := conflictRole request.roleKind
          clist := ice.clist.modifySlot ckid (Check.setState .waiting .success) }
        (ice.performCheck env ckid ((ice.clist.slot ckid).nominated || ice.isNominating)).1
      | status => ice.failCheck ckid status

/-! ## Requests of the other side -/

/-- The check of the same way in the valid list, at `j`, is nominated. -/
def nominateValid (ice : IceSess) (c : Check) (j : Nat) : IceSess :=
  if j < ice.validList.length ∧ ice.sameWay c (ice.valid j) then
    let ice : IceSess := { ice with
      validList := ice.validList.modify j fun vc => { vc with nominated := true } }
    ice.updateCompCheck (ice.compId (ice.valid j)) j
  else ice

/-- A triggered check for a pair that is in the list. -/
def triggerCheck (env : IceEnv) (ice : IceSess) (useCandidate : Bool) (i : Nat) : IceSess :=
  let ice : IceSess := { ice with
    clist := ice.clist.modifySlot i fun c => { c with nominated := useCandidate || c.nominated } }
  let c := ice.clist.slot i
  match c.state with
  | .frozen | .waiting =>
    if ice.isNominating ∧ ice.aggressive = false then ice
    else (ice.performCheck env i (c.nominated || ice.isNominating)).1
  -- `pj_stun_session_retransmit_req` of the transaction
  | .inProgress => ice
  | .succeeded =>
    let ice :=
      if useCandidate then
        (List.range ice.validList.length).foldl (fun ice j => ice.nominateValid c j) ice
      else ice
    (ice.onCheckComplete c).1
  | .failed => ice

/-- A pair that is not in the list is added to it. -/
def addTriggered (env : IceEnv) (ice : IceSess) (rcheck : RxCheck) (lcand rcand : Nat) : IceSess :=
  match stale : ice.clist.stale with
  | [] => ice
  | old :: rest =>
    let checkId := ice.clist.checks.length
    let c : Check :=
      { old with
        lcand
        rcand
        prio := calcCheckPrio ice.role (ice.lcand lcand) (ice.rcand rcand)
        state := .waiting
        nominated := rcheck.useCandidate
        errCode := .success }
    let clist : Checklist :=
      { ice.clist with
        checks := ice.clist.checks ++ [c]
        stale := rest
        size := by
          have := ice.clist.size
          rw [stale] at this
          simp only [List.length_append, List.length_cons, List.length_nil] at this ⊢
          omega }
    let ice : IceSess := { ice with clist }
    let ice : IceSess :=
      if ice.isNominating ∧ ice.aggressive = false then { ice with clistTimer := true }
      else (ice.performCheck env checkId (c.nominated || ice.isNominating)).1
    { ice with clist := ice.clist.sort }

/-- `handle_incoming_check` -/
def handleIncomingCheck (env : IceEnv) (ice : IceSess) (rcheck : RxCheck) : IceSess :=
  if ice.isComplete then ice
  else
    let known := ice.rcands.findIdx? fun c => rcheck.srcAddr = c.addr
    if known = none ∧ ice.rcands.length ≥ maxCand then ice
    else
      let rcand := known.getD ice.rcands.length
      let prflx : Cand :=
        { type := .prflx
          compId := rcheck.compId
          foundation := env.prflxFoundation ice.rcands.length
          prio := rcheck.priority
          addr := rcheck.srcAddr }
      let ice : IceSess := { ice with
        rcands := if known = none then ice.rcands ++ [prflx] else ice.rcands }
      match ice.clist.checks.find? fun c =>
          ice.compId c = rcheck.compId
            && (ice.lcand c.lcand).transportId = rcheck.transportId with
      | none => ice
      | some first =>
        match ice.clist.checks.findIdx? fun c => c.lcand = first.lcand && c.rcand = rcand with
        | some i => ice.triggerCheck env rcheck.useCandidate i
        | none => ice.addTriggered env rcheck first.lcand rcand

/-- A Binding request, and whether a response to it can be made. -/
structure RxRequest where
  compId : Nat
  transportId : Nat
  srcAddr : SockAddr
  priority : Option Nat
  useCandidate : Bool
  roleAttr : Option RoleAttr
  responds : Bool

/-- The address that a request from `srcAddr` comes from: behind NAT64 it is that of the remote
candidate that it is synthesized from. -/
def rxSourceAddr (env : IceEnv) (ice : IceSess) (compId transportId : Nat) (srcAddr : SockAddr) :
    SockAddr :=
  match srcAddr with
  | .inet6 .. =>
    match ice.clist.checks.find? fun c =>
        ice.compId c = compId && (ice.lcand c.lcand).transportId = transportId with
    | some c =>
      match (ice.lcand c.lcand).addr with
      | .inet .. =>
        match ice.rcands.find? fun rcand =>
            (match rcand.addr with | .inet .. => true | _ => false)
              && env.synthesize rcand.addr = some srcAddr with
        | some rcand => rcand.addr
        | none => srcAddr
      | _ => srcAddr
    | none => srcAddr
  | _ => srcAddr

/-- `on_stun_rx_request` -/
def onStunRxRequest (env : IceEnv) (ice : IceSess) (msg : RxRequest) : IceSess :=
  match msg.priority with
  | none => ice
  | some priority =>
    if ice.isDestroying then ice
    else
      match rxRequestRole ice.role ice.tieBreaker msg.roleAttr with
      | none => ice
      | some role =>
        let ice : IceSess := { ice with role }
        if !msg.responds then ice
        else
          let rcheck : RxCheck :=
            { compId := msg.compId
              transportId := msg.transportId
              srcAddr := ice.rxSourceAddr env msg.compId msg.transportId msg.srcAddr
              useCandidate := msg.useCandidate
              priority }
          if ice.txUfrag = [] then { ice with earlyCheck := ice.earlyCheck ++ [rcheck] }
          else ice.handleIncomingCheck env rcheck

/-! ## Starting -/

/-- The check that a foundation starts with: of the lowest component, and there of the highest
priority. -/
def firstOfFoundation (ice : IceSess) (foundationIdx : Nat) : Option Nat :=
  (List.range ice.clist.checks.length).foldl (fun chk k =>
    let c := ice.clist.slot k
    if c.foundationIdx ≠ foundationIdx ∨ c.state ≠ .frozen then chk
    else
      match chk with
      | none => some k
      | some best =>
        let b := ice.clist.slot best
        if ice.compId c < ice.compId b ∨ ice.compId c = ice.compId b ∧ c.prio > b.prio then some k
        else some best) none

/-- `pj_ice_sess_start_check` -/
def startCheck (env : IceEnv) (ice : IceSess) : IceSess × IceStatus :=
  if ice.clist.checks = [] ∧ ice.isTrickling = false then (ice, .einvalidop)
  else
    let ice : IceSess := { ice with isNominating := ice.aggressive || ice.isNominating }
    let ice := (List.range ice.clist.foundation.length).foldl (fun ice i =>
      match ice.firstOfFoundation i with
      | some k =>
        { ice with clist := ice.clist.modifySlot k (Check.setState .waiting .success) }
      | none => ice) ice
    let ice := ice.earlyCheck.foldl (handleIncomingCheck env) ice
    ({ ice with
        earlyCheck := []
        clistTimer := true
        timerEndOfCand := ice.isTrickling || ice.timerEndOfCand }, .success)

/-- `on_timer` -/
def onTimer (ice : IceSess) : IceSess :=
  let type := ice.timer
  let ice : IceSess := { ice with timer := .none }
  if ice.isDestroying then ice
  else
    match type with
    | .none => ice
    | .controlledWaitNom => ice.onIceComplete .eicenomtimeout
    | .completionCallback =>
      if ice.iceStatus = .success then { ice with timer := .keepAlive } else ice
    | .startNominatedCheck => ice.startNominatedCheck
    | .keepAlive => { ice with timer := .keepAlive }

/-- `end_of_cand_ind_timer` -/
def endOfCandIndTimer (ice : IceSess) : IceSess :=
  let ice : IceSess := { ice with timerEndOfCand := false }
  if ice.isTrickling ∧ ice.isComplete = false then
    { ice with isTrickling := false }.checkIceComplete.1
  else ice

/-- `pj_ice_sess_set_options` -/
def setOptions (ice : IceSess) (aggressive : Bool) (wantNomTimeout : Int) (trickle : Trickle) :
    IceSess :=
  { ice with
    aggressive := aggressive && trickle = .disabled
    wantNomTimeout
    trickle
    isTrickling := trickle ≠ .disabled }

/-- `destroy_ice` -/
def destroy (ice : IceSess) : IceSess :=
  if ice.isDestroying then ice
  else { ice with isDestroying := true, timer := .none, clistTimer := false, pending := [] }

/-- `pj_ice_sess_create` -/
def create (role : Role) (tieBreaker compCnt : Nat) : IceSess where
  role := role
  tieBreaker := tieBreaker
  prefs
    | .host => 126
    | .srflx => 100
    | .prflx => 110
    | .relayed => 0
  aggressive := true
  wantNomTimeout := 10000
  trickle := .disabled
  isNominating := false
  isComplete := false
  isDestroying := false
  isTrickling := false
  iceStatus := .success
  timer := .none
  timerEndOfCand := false
  clistTimer := false
  txUfrag := []
  txPass := []
  compCnt := compCnt
  comps := List.replicate compCnt {}
  lcands := []
  lcandPaired := 0
  rcands := []
  rcandPaired := 0
  earlyCheck := []
  clist := ⟨.idle, [], List.replicate maxChecks {}, rfl, []⟩
  validList := []
  requests := 0
  sent := []
  pending := []
  starts := []

end IceSess

/-! ## Runs -/

/-- What happens to a session: its functions are called, its timers fire, requests come in and
transactions end. -/
inductive IceAct where
  | addCand (compId transportId : Nat) (type : CandType) (localPref : Nat)
      (foundation : List UInt8) (addr baseAddr : SockAddr)
  | setOptions (aggressive : Bool) (wantNomTimeout : Int) (trickle : Trickle)
  | changeRole (role : Role)
  | setPrefs (prefs : CandType → Nat)
  | createCheckList (remUfrag remPasswd : List UInt8) (remCand : List Cand)
  | updateCheckList (remUfrag remPasswd : List UInt8) (remCand : List Cand) (trickleDone : Bool)
  | startCheck
  | periodicTimer
  | timer
  | endOfCandTimer
  | rxRequest (msg : IceSess.RxRequest)
  | requestComplete (request : Request) (completion : IceSess.Completion)
  | destroy

/-- A timer only fires if it is set, a transaction only ends once, and a request comes in at the
STUN session of a component. -/
def iceStep (env : IceEnv) (ice : IceSess) : IceAct → Option (IceSess × IceStatus)
  | .addCand compId transportId type localPref foundation addr baseAddr =>
    let (ice, result) := ice.addCand compId transportId type localPref foundation addr baseAddr
    some (ice, match result with | .ok _ => .success | .error status => status)
  | .setOptions aggressive wantNomTimeout trickle =>
    some (ice.setOptions aggressive wantNomTimeout trickle, .success)
  | .changeRole role => some ({ ice with role }, .success)
  | .setPrefs prefs => some ({ ice with prefs }, .success)
  | .createCheckList remUfrag remPasswd remCand =>
    some (ice.createCheckList remUfrag remPasswd remCand)
  | .updateCheckList remUfrag remPasswd remCand trickleDone =>
    some (ice.updateCheckList remUfrag remPasswd remCand trickleDone)
  | .startCheck => some (ice.startCheck env)
  | .periodicTimer => if ice.clistTimer then some (ice.startPeriodicCheck env, .success) else none
  | .timer => if ice.timer ≠ .none then some (ice.onTimer, .success) else none
  | .endOfCandTimer => if ice.timerEndOfCand then some (ice.endOfCandIndTimer, .success) else none
  | .rxRequest msg =>
    if 0 < msg.compId ∧ msg.compId ≤ ice.compCnt then some (ice.onStunRxRequest env msg, .success)
    else none
  | .requestComplete request completion =>
    if request ∈ ice.pending then
      some ({ ice with pending := ice.pending.erase request }.onStunRequestComplete env request
        completion, .success)
    else none
  | .destroy => some (ice.destroy, .success)

end Pjsip.Pjnath.Ice
