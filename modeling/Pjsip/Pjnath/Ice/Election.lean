import Pjsip.Pjnath.Ice.Fitness

/-!
# Runs that stay fit

The rest of the steps: checks are sent, transactions end, and requests come in. A session all of
whose steps are steadfast only starts nominated checks when it is fit for them; one that the
peer turns while they are due is not.
-/

namespace Pjsip.Pjnath.Ice

open Pjsip.Base

section Keeping

variable {env : IceEnv} {ice ice' : IceSess}

/-! ## Sending -/

/-- The next request can be made and sent. -/
def Sends (env : IceEnv) (ice : IceSess) : Bool :=
  match env.createReq ice.requests, env.sendMsg ice.requests with
  | .ok _, .ok _ => true
  | _, _ => false

/-- If the check that comes next cannot be sent, no valid pair depends on it. -/
def MaySend (env : IceEnv) (ice : IceSess) : Prop :=
  ∀ i ∈ ice.nextCheck, Sends env ice = false → Past ice ∧ (Electing ice → Spare ice i)

theorem performCheck_unsent {checkId : Nat} {nominate : Bool}
    (fails : (ice.performCheck env checkId nominate).2 ≠ .success) :
    Sends env ice = false ∧ (ice.performCheck env checkId nominate).1.sent = ice.sent := by
  rw [Sends]
  rw [IceSess.performCheck] at fails ⊢
  cases made : env.createReq ice.requests with
  | error status => exact ⟨rfl, rfl⟩
  | ok tdata =>
    rw [made] at fails
    cases sent : env.sendMsg ice.requests with
    | error status => exact ⟨rfl, rfl⟩
    | ok =>
      rw [sent] at fails
      exact absurd rfl fails

theorem Spare.modify {i : Nat} {f : Check → Check} (spare : Spare ice i)
    (frame : Frame ice ice') (changed : ice'.clist.checks = ice.clist.checks.modify i f)
    (same : ∀ c, (f c).state = c.state ∧ (f c).lcand = c.lcand ∧ (f c).rcand = c.rcand) :
    Spare ice' i := by
  have way : ∀ c, ice.way (f c) = ice.way c := by
    intro c
    rw [IceSess.way, IceSess.way, (same c).2.1, (same c).2.2]
  rw [Spare, frame.validList, frame.way, changed]
  intro vc mem c' at_ here
  rw [Option.mem_def, List.getElem?_modify_eq, Option.map_eq_map, Option.map_eq_some_iff] at at_
  obtain ⟨c, there, rfl⟩ := at_
  obtain ⟨idle, a, earlier, leads⟩ := spare vc mem c there ((way c).symm.trans here)
  refine ⟨(same c).1 ▸ idle, a, ?_, leads⟩
  rw [List.take_modify, List.modify_eq_self (by rw [List.length_take]; omega)]
  exact earlier

theorem Performed.spare {checkId : Nat} {nominate : Bool}
    (performed : Performed ice checkId nominate ice') (unsent : ice'.sent = ice.sent)
    (spare : Spare ice checkId) : Spare ice' checkId := by
  have frame := performed.frame
  cases performed with
  | unmade => exact spare
  | unsent => exact spare.modify frame rfl fun _ => ⟨rfl, rfl, rfl⟩
  | sent tdata => exact absurd unsent (List.cons_ne_self _ _)

theorem startPeriodicCheck_prepared (prepared : Prepared ice) (may : MaySend env ice) :
    Prepared (ice.startPeriodicCheck env) := by
  rw [IceSess.startPeriodicCheck]
  split
  · exact prepared
  have running : Prepared ice.running :=
    prepared.same ⟨by constructor <;> rfl, rfl, rfl, rfl, rfl⟩ rfl rfl
  dsimp only
  split
  · exact running
  next i next_ =>
  have next_ : ice.nextCheck = some i := next_
  obtain ⟨c, at_, toDo⟩ := IceSess.nextCheck_toDo next_
  have performed := performCheck_performed env ice.running i ice.isNominating
  have unsent : (ice.running.performCheck env i ice.isNominating).2 ≠ .success → _ ∧ _ :=
    performCheck_unsent
  show Prepared { (if (ice.running.performCheck env i ice.isNominating).2 ≠ .success then
    (ice.running.performCheck env i ice.isNominating).1.failCheck i
      (ice.running.performCheck env i ice.isNominating).2
    else (ice.running.performCheck env i ice.isNominating).1) with clistTimer := true }
  generalize ice.running.performCheck env i ice.isNominating = made at performed unsent ⊢
  have sent : Prepared made.1 := by
    refine performed.prepared running (fun ready => ready.idle) fun _ c' at' state => ?_
    have same : c' = c := Option.some.inj (at'.symm.trans at_)
    rw [← same, state] at toDo
    cases toDo
  have checked : Prepared (if made.2 ≠ .success then made.1.failCheck i made.2 else made.1) := by
    split
    · next error =>
      obtain ⟨fails, sent₁⟩ := unsent error
      obtain ⟨past, spare⟩ := may i next_ fails
      refine failCheck_prepared sent (performed.same.past past) i error fun ready => ?_
      have ready := performed.same.electing.1 ready
      exact performed.spare sent₁ (spare { ready with })
    · exact sent
  exact checked.same ⟨by constructor <;> rfl, rfl, rfl, rfl, rfl⟩ rfl rfl

/-! ## The end of a transaction -/

/-- The transport of the candidate that a success response maps a check to, unless the check
fails for it. -/
def mappedTransport (env : IceEnv) (ice : IceSess) (ckid transportId : Nat)
    (completion : IceSess.Completion) : Option Nat :=
  let check := ice.clist.slot ckid
  let rcandAddr := (ice.rcand check.rcand).addr
  if rcandAddr ≠ IceSess.sourceAddr env rcandAddr completion.srcAddr then none
  else
    completion.mappedAddr.bind fun xaddr =>
      let base := (ice.lcand check.lcand).baseAddr
      match ice.lcands.findIdx? (fun c => xaddr = c.addr && base = c.baseAddr) with
      | some l => some (ice.lcand l).transportId
      | none =>
        if ice.compId check = 0 ∨ ice.compId check > ice.compCnt ∨ ice.lcands.length ≥ maxCand then
          none
        else some transportId

/-- A success response makes a pair valid that goes the way of its check, with no failed check
ahead of it; else no valid pair depends on the check. -/
def MaySucceed (env : IceEnv) (ice : IceSess) (ckid transportId : Nat)
    (completion : IceSess.Completion) : Prop :=
  (∀ mapped ∈ mappedTransport env ice ckid transportId completion, Proves ice ckid mapped)
    ∧ (mappedTransport env ice ckid transportId completion = none → Spare ice ckid)

/-- What the end of a transaction may do to its check. -/
def MayComplete (env : IceEnv) (ice : IceSess) (request : Request)
    (completion : IceSess.Completion) : Prop :=
  ice.isDestroying = false → ice.isComplete = false → ∀ ckid ∈ ice.completedSlot request,
    (completion.status = .success → Electing ice →
        MaySucceed env ice ckid request.transportId completion)
      ∧ (completion.status = .stunCode 487 → MayTurn ice (conflictRole request.roleKind)
        ∧ (conflictRole request.roleKind = .controlling → ice.isNominating = false →
          ∀ c ∈ ice.clist.checks[ckid]?, c.state ≠ .succeeded))
      ∧ (completion.status ≠ .success → completion.status ≠ .stunCode 487 → Electing ice →
        Spare ice ckid)

theorem checkSucceeded_prepared (prepared : Prepared ice) (past : Past ice)
    {ckid transportId : Nat} {completion : IceSess.Completion}
    (may : Electing ice → MaySucceed env ice ckid transportId completion) :
    Prepared (ice.checkSucceeded env ckid transportId completion) := by
  have fails : ∀ status, status ≠ IceStatus.success →
      mappedTransport env ice ckid transportId completion = none →
      Prepared (ice.failCheck ckid status) := by
    intro status error unmapped
    refine failCheck_prepared prepared past ckid error fun ready => ?_
    exact (may ready).2 unmapped
  have may := fun ready => (may ready).1
  rw [mappedTransport] at may fails
  rw [IceSess.checkSucceeded]
  split
  · next differ =>
    rw [if_pos differ] at fails
    exact fails _ nofun rfl
  next same =>
  rw [if_neg same] at may fails
  cases mapped : completion.mappedAddr with
  | none =>
    rw [mapped] at fails
    exact fails _ nofun rfl
  | some xaddr =>
    rw [mapped, Option.bind_some] at may fails
    dsimp only at may fails ⊢
    cases found : ice.lcands.findIdx? (fun c => decide (xaddr = c.addr)
        && decide ((ice.lcand (ice.clist.slot ckid).lcand).baseAddr = c.baseAddr)) with
    | some l =>
      rw [found] at may
      obtain ⟨inside, _⟩ := List.findIdx?_eq_some_iff_getElem.1 found
      exact makeValid_prepared prepared past inside fun ready => may ready _ rfl
    | none =>
      rw [found] at may fails
      rcases IceSess.addCand_new transportId found with
        ⟨status, error, eq, outside⟩ | ⟨cand, transport, eq, inside⟩
      · rw [eq]
        rw [if_pos outside] at fails
        exact fails status error rfl
      · rw [eq]
        rw [if_neg inside] at may
        refine makeValid_prepared (prepared.grow [cand]) past ?_ fun ready => ?_
        · rw [List.length_append]
          exact Nat.lt_succ_self _
        · obtain ⟨at_, same, led⟩ := may { ready with } _ rfl
          have here := prepared.inside _ (List.mem_of_getElem? (ice.clist.slot_at at_))
          refine ⟨at_, ?_, ?_⟩
          · show ((ice.lcands ++ [cand]).getD ice.lcands.length {}).transportId
              = ((ice.lcands ++ [cand]).getD (ice.clist.slot ckid).lcand {}).transportId
            rw [List.getD_append_right _ _ _ _ (Nat.le_refl _), Nat.sub_self,
              List.getD_append _ _ _ _ here]
            exact transport.trans same
          · rw [grow_way [cand] here]
            refine led.forall₂ (List.forall₂_same.2 fun c mem => ⟨grow_way [cand] ?_, id⟩)
            exact prepared.inside c (List.mem_of_mem_take mem)

theorem clearTdata_prepared (prepared : Prepared ice) (ckid : Nat) :
    Prepared (ice.clearTdata ckid) ∧ Same ice (ice.clearTdata ckid) := by
  have same : Same ice (ice.clearTdata ckid) := ⟨by constructor <;> rfl, rfl, rfl, rfl, rfl⟩
  refine ⟨prepared.modifySlot same rfl (fun _ => rfl) (fun _ => rfl)
    (fun _ settled => ⟨settled.succeeded, settled.failed⟩) fun _ _ => ⟨fun _ => id, ?_⟩, same⟩
  exact fun _ _ _ _ _ => ⟨id, fun _ => id⟩

theorem clearTdata_mapped (ckid transportId : Nat) (completion : IceSess.Completion) :
    mappedTransport env (ice.clearTdata ckid) ckid transportId completion
      = mappedTransport env ice ckid transportId completion := by
  obtain ⟨lcand, rcand⟩ := Prod.mk.inj (ice.clearTdata_slot ckid).1
  simp only [mappedTransport, IceSess.compId, lcand, rcand]
  rfl

theorem clearTdata_proves {ckid transportId : Nat} (proves : Proves ice ckid transportId) :
    Proves (ice.clearTdata ckid) ckid transportId := by
  generalize cleared : ice.clearTdata ckid = ice₁
  have pair : (ice₁.clist.slot ckid).pair = (ice.clist.slot ckid).pair :=
    cleared ▸ (ice.clearTdata_slot ckid).1
  have lcand : (ice₁.clist.slot ckid).lcand = (ice.clist.slot ckid).lcand := congrArg Prod.fst pair
  have frame : Frame ice ice₁ := by
    rw [← cleared]
    constructor <;> rfl
  have checks : ice₁.clist.checks = ice.clist.checks.modify ckid fun c => { c with tdata := none } := by
    rw [← cleared]
    rfl
  refine ⟨?_, ?_, ?_⟩
  · rw [checks, List.length_modify]
    exact proves.inside
  · rw [frame.lcand, lcand]
    exact proves.transport
  · rw [frame.way, ice.way_pair pair, checks, List.take_modify,
      List.modify_eq_self (by rw [List.length_take]; omega)]
    exact proves.led

theorem clearTdata_spare {ckid : Nat} (spare : Spare ice ckid) : Spare (ice.clearTdata ckid) ckid :=
  spare.modify (by constructor <;> rfl) (Checklist.modifySlot_checks ..) fun _ => ⟨rfl, rfl, rfl⟩

theorem resend_prepared (prepared : Prepared ice) {ckid : Nat} {role : Role}
    (known : role ≠ .unknown) (may : MayTurn ice role)
    (idle : role = .controlling → ice.isNominating = false →
      ∀ c, ice.clist.checks[ckid]? = some c → c.state ≠ .succeeded) :
    let ice₂ : IceSess := { ice.clearTdata ckid with
      role
      clist := (ice.clearTdata ckid).clist.modifySlot ckid (Check.setState .waiting .success) }
    Prepared (ice₂.performCheck env ckid ((ice₂.clist.slot ckid).nominated || ice₂.isNominating)).1 := by
  intro ice₂
  obtain ⟨turned, same⟩ := clearTdata_prepared (prepared.turn known may) ckid
  have waits : Prepared ice₂ := by
    refine turned.modifySlot ⟨by constructor <;> rfl, rfl, rfl, rfl, rfl⟩ rfl (fun _ => rfl)
      (fun _ => rfl) (fun _ _ => ⟨nofun, nofun⟩) fun ready _ => ⟨fun _ => id, ?_⟩
    intro vc _ c at_ _
    refine ⟨fun state => ?_, fun _ _ => rfl⟩
    have at' : (ice.clist.checks.modify ckid fun c => { c with tdata := none })[ckid]? = some c := at_
    rw [List.getElem?_modify_eq, Option.map_eq_map, Option.map_eq_some_iff] at at'
    obtain ⟨d, there, rfl⟩ := at'
    exact absurd state (idle ready.role ready.idle d there)
  refine (performCheck_answered waits (fun ready => ?_) fun c at_ => ?_).prepared
  · rw [ready.idle, (waits.electable ready).unmarked.slot rfl ckid]
    rfl
  · have at' : ((ice.clearTdata ckid).clist.checks.modify ckid
        (Check.setState .waiting .success))[ckid]? = some c := at_
    rw [List.getElem?_modify_eq, Option.map_eq_map, Option.map_eq_some_iff] at at'
    obtain ⟨d, _, rfl⟩ := at'
    nofun

theorem onStunRequestComplete_prepared (prepared : Prepared ice) {request : Request}
    {completion : IceSess.Completion} (may : MayComplete env ice request completion) :
    Prepared (ice.onStunRequestComplete env request completion) := by
  rw [IceSess.onStunRequestComplete]
  split
  · exact prepared
  next going =>
  have alive : ice.isDestroying = false := Bool.not_eq_true _ ▸ fun ended => going (.inl ended)
  have active : ice.isComplete = false := Bool.not_eq_true _ ▸ fun complete => going (.inr complete)
  split
  · exact (clearTdata_prepared prepared _).1
  next ckid slot =>
  have may := may alive active ckid slot
  obtain ⟨prepared₁, same⟩ := clearTdata_prepared prepared ckid
  have past : Past (ice.clearTdata ckid) :=
    same.past fun complete => Bool.noConfusion (active.symm.trans complete)
  split
  · next success =>
    refine checkSucceeded_prepared prepared₁ past fun ready => ?_
    have may := may.1 success (same.electing.1 ready)
    rw [MaySucceed, clearTdata_mapped]
    exact ⟨fun mapped at_ => clearTdata_proves (may.1 mapped at_),
      fun unmapped => clearTdata_spare (may.2 unmapped)⟩
  · next conflict =>
    obtain ⟨turn, idle⟩ := may.2.1 conflict
    refine resend_prepared prepared ?_ turn idle
    cases request.roleKind <;> nofun
  · next success conflict =>
    exact failCheck_prepared prepared₁ past ckid success fun ready =>
      clearTdata_spare (may.2.2 success conflict (same.electing.1 ready))

/-! ## Requests of the peer -/

/-- What a request may do: the session can take on the role that it leaves, and no pair is
nominated by it while the session elects. -/
def MayReceive (ice : IceSess) (msg : IceSess.RxRequest) : Prop :=
  msg.priority.isSome = true → ice.isDestroying = false →
    ∀ role ∈ rxRequestRole ice.role ice.tieBreaker msg.roleAttr, MayTurn ice role
        ∧ (Electing { ice with role } → msg.responds = true → ice.txUfrag ≠ [] →
          msg.useCandidate = false)

theorem onStunRxRequest_prepared (prepared : Prepared ice) {msg : IceSess.RxRequest}
    (may : MayReceive ice msg) : Prepared (ice.onStunRxRequest env msg) := by
  rw [IceSess.onStunRxRequest]
  split
  · exact prepared
  next priority has =>
  split
  · exact prepared
  next alive =>
  split
  · exact prepared
  next role taken =>
  obtain ⟨turn, plain⟩ := may (by rw [has]; rfl) (Bool.not_eq_true _ ▸ alive) role taken
  have turned := prepared.turn (rxRequestRole_known prepared.known taken) turn
  dsimp only
  split
  · exact turned
  next responds =>
  split
  · refine turned.keep rfl rfl rfl rfl rfl turned.known (fun armed => ?_) fun ready =>
      turned.electable { ready with }
    obtain ⟨ready, all⟩ := turned.armed armed
    exact ⟨{ ready with }, all⟩
  next created =>
  refine (handleIncomingCheck_answered turned fun ready => ?_).prepared
  exact plain ready (by simpa using responds) created

end Keeping

/-! ## Steps -/

section Steps

variable {env : IceEnv} {ice ice' : IceSess}

/-- A step that leaves a session fit to nominate. -/
def Steadfast (env : IceEnv) (ice : IceSess) : IceAct → Prop
  | .changeRole role => role ≠ .unknown ∧ MayTurn ice role
  | .createCheckList _ _ _ => ice.txUfrag = [] →
      (Electing ice → ice.validList = []) ∧ (ice.isTrickling = false → MayEnd ice)
  | .updateCheckList _ _ remCand trickleDone => ice.txUfrag ≠ [] →
      ice.isTrickling = true ∨ remCand = [] → MayPair ice ∧ (trickleDone = true → MayEnd ice)
  | .startCheck => MayStart ice
  | .periodicTimer => MaySend env ice
  | .rxRequest msg => MayReceive ice msg
  | .requestComplete request completion =>
    MayComplete env { ice with pending := ice.pending.erase request } request completion
  | .addCand .. | .setOptions .. | .setPrefs .. | .timer | .endOfCandTimer | .destroy => True

theorem Stepped.prepared {act : IceAct} (stepped : Stepped env ice act ice')
    (prepared : Prepared ice) (steadfast : Steadfast env ice act) : Prepared ice' := by
  have keep : ∀ {ice₁ : IceSess}, ice₁.clist = ice.clist → ice₁.lcands = ice.lcands →
      ice₁.validList = ice.validList → ice₁.comps = ice.comps → ice₁.compCnt = ice.compCnt →
      ice₁.starts = ice.starts → ice₁.role = ice.role → ice₁.isNominating = ice.isNominating →
      ice₁.isComplete = ice.isComplete →
      (ice₁.timer = ice.timer ∨ ice₁.timer = .none) → Prepared ice₁ := by
    intro ice₁ clist lcands validList comps compCnt starts role isNominating isComplete timer
    have electing : Electing ice₁ ↔ Electing ice := by
      constructor <;> rintro ⟨role', idle, active⟩
      · exact ⟨role ▸ role', isNominating ▸ idle, isComplete ▸ active⟩
      · exact ⟨role ▸ role', isNominating ▸ idle, isComplete ▸ active⟩
    refine prepared.keep clist lcands validList comps starts (role ▸ prepared.known)
      (fun armed => ?_) fun ready => prepared.electable (electing.1 ready)
    rcases timer with same | stopped
    · obtain ⟨ready, all⟩ := prepared.armed (same ▸ armed)
      refine ⟨electing.2 ready, ?_⟩
      rw [IceSess.allComps, compCnt]
      simp only [IceSess.comp, comps]
      exact all
    · rw [stopped] at armed
      cases armed
  cases stepped with
  | addCand compId transportId type localPref foundation addr baseAddr =>
    obtain ⟨more, eq⟩ := ice.addCand_eq compId transportId type localPref foundation addr baseAddr
    rw [eq]
    exact prepared.grow more
  | setOptions => exact keep rfl rfl rfl rfl rfl rfl rfl rfl rfl (.inl rfl)
  | changeRole role => exact prepared.turn steadfast.1 steadfast.2
  | setPrefs => exact keep rfl rfl rfl rfl rfl rfl rfl rfl rfl (.inl rfl)
  | createCheckList => exact createCheckList_prepared prepared _ _ _ steadfast
  | updateCheckList => exact updateCheckList_prepared prepared _ _ _ _ steadfast
  | startCheck => exact startCheck_prepared prepared steadfast
  | periodicTimer => exact startPeriodicCheck_prepared prepared steadfast
  | timer => exact onTimer_prepared prepared
  | endOfCandTimer => exact endOfCandIndTimer_prepared prepared
  | rxRequest => exact onStunRxRequest_prepared prepared steadfast
  | requestComplete request completion =>
    have erased : Prepared { ice with pending := ice.pending.erase request } :=
      keep rfl rfl rfl rfl rfl rfl rfl rfl rfl (.inl rfl)
    exact onStunRequestComplete_prepared erased steadfast
  | destroy =>
    rw [IceSess.destroy]
    split
    · exact prepared
    · exact keep rfl rfl rfl rfl rfl rfl rfl rfl rfl (.inr rfl)

theorem create_prepared {role : Role} (known : role ≠ .unknown) (tieBreaker compCnt : Nat) :
    Prepared (IceSess.create role tieBreaker compCnt) where
  starts := List.forall_mem_nil _
  known := known
  inside := List.forall_mem_nil _
  validInside := List.forall_mem_nil _
  settled := List.forall_mem_nil _
  pointed := by
    intro comp mem
    rw [List.eq_of_mem_replicate mem]
    exact ⟨nofun, nofun⟩
  armed := nofun
  electable := by
    intro _
    refine ⟨fun i => ?_, fun c mem => ?_, List.forall_mem_nil _, List.forall_mem_nil _⟩
    · rcases IceSess.comp_cases (IceSess.create role tieBreaker compCnt) i with here | fresh
      · rw [List.eq_of_mem_replicate here]
      · rw [fresh]
    · rw [List.eq_of_mem_replicate mem]

/-- Whenever nominated checks are started the session is fit for them. -/
theorem startNominatedCheck_fit (env : IceEnv) {role : Role} (known : role ≠ .unknown)
    (tieBreaker compCnt : Nat) {tr : List (IceAct × IceStatus)}
    (run : Run (iceStep env) (IceSess.create role tieBreaker compCnt) tr ice)
    (steadfast : Along (iceStep env) (Steadfast env) (IceSess.create role tieBreaker compCnt)
      (tr.map Prod.fst)) : ∀ fit ∈ ice.starts, fit = true := by
  have prepared : Prepared ice := by
    refine run.invariant_along (fun _ act _ _ prepared steadfast taken => ?_) steadfast
      (create_prepared known tieBreaker compCnt)
    exact (iceStep_stepped taken).prepared prepared steadfast
  exact prepared.starts

end Steps

/-! ## Checking that a run is steadfast -/

instance Led.decidable (way : Check → Nat × Nat) (w : Nat × Nat) :
    (checks : List Check) → Decidable (Led way w checks)
  | [] => .isTrue trivial
  | c :: rest =>
    have := Led.decidable way w rest
    inferInstanceAs (Decidable (if way c = w then c.errCode = .success else Led way w rest))

instance (way : Check → Nat × Nat) (w : Nat × Nat) (checks : List Check) :
    Decidable (Backed way w checks) :=
  decidable_of_iff (Led way w checks ∧ ∃ c ∈ checks, way c = w ∧ c.state = .succeeded)
    ⟨fun ⟨led, proven⟩ => ⟨led, proven⟩, fun ⟨led, proven⟩ => ⟨led, proven⟩⟩

theorem comps_iff {ice : IceSess} : (∀ comp ∈ ice.comps, comp.nominatedCheck = none)
    ↔ ∀ i, (ice.comp i).nominatedCheck = none := by
  constructor
  · intro unnominated i
    rcases ice.comp_cases i with here | default
    · exact unnominated _ here
    · rw [default]
  · intro unnominated comp mem
    obtain ⟨i, inside, rfl⟩ := List.mem_iff_getElem.1 mem
    have here := unnominated i
    rwa [IceSess.comp, List.getD_eq_getElem _ _ inside] at here

instance (ice : IceSess) : Decidable (Electable ice) :=
  decidable_of_iff ((∀ comp ∈ ice.comps, comp.nominatedCheck = none)
      ∧ (∀ c ∈ ice.clist.checks ++ ice.clist.stale, c.nominated = false)
      ∧ (∀ vc ∈ ice.validList, vc.nominated = false ∧ vc.errCode = .success)
      ∧ ∀ vc ∈ ice.validList, Backed ice.way (ice.way vc) ice.clist.checks)
    ⟨fun ⟨comps, unmarked, valid, backed⟩ => ⟨comps_iff.1 comps, unmarked, valid, backed⟩,
      fun ⟨comps, unmarked, valid, backed⟩ => ⟨comps_iff.2 comps, unmarked, valid, backed⟩⟩

instance (ice : IceSess) : Decidable (Past ice) :=
  inferInstanceAs (Decidable (_ → ¬ (_ ∧ _)))

instance (ice : IceSess) (role : Role) : Decidable (MayTurn ice role) :=
  inferInstanceAs (Decidable ((_ → _) ∧ (_ → _)))

instance (ice : IceSess) : Decidable (MayEnd ice) :=
  decidable_of_iff ((ice.timer = .startNominatedCheck → ∀ c ∈ ice.rcands, c.compId ≤ ice.compCnt)
      ∧ (ice.trickle ≠ .disabled → Past ice))
    ⟨fun ⟨within, past⟩ => ⟨within, past⟩, fun ⟨within, past⟩ => ⟨within, past⟩⟩

instance (ice : IceSess) : Decidable (MayPair ice) :=
  inferInstanceAs (Decidable (Electing ice → _ → (_ ∨ ∃ c ∈ ice.clist.checks, _)
    ∧ ∀ c ∈ ice.lcands, _ → ∀ host ∈ findBase ice.lcands c, _))

instance (ice : IceSess) : Decidable (MayStart ice) :=
  inferInstanceAs (Decidable ((_ → _) ∧ (_ → _ → ∀ rcheck ∈ ice.earlyCheck, _)))

instance (ice : IceSess) (i : Nat) : Decidable (Spare ice i) :=
  inferInstanceAs (Decidable (∀ vc ∈ ice.validList, ∀ c ∈ ice.clist.checks[i]?,
    ice.way c = ice.way vc → c.state ≠ .succeeded
      ∧ ∃ a ∈ ice.clist.checks.take i, ice.way a = ice.way vc))

instance (env : IceEnv) (ice : IceSess) : Decidable (MaySend env ice) :=
  inferInstanceAs (Decidable (∀ i ∈ ice.nextCheck, _ → Past ice ∧ (_ → _)))

instance (ice : IceSess) (ckid transportId : Nat) : Decidable (Proves ice ckid transportId) :=
  decidable_of_iff (ckid < ice.clist.checks.length
      ∧ transportId = (ice.lcand (ice.clist.slot ckid).lcand).transportId
      ∧ Led ice.way (ice.way (ice.clist.slot ckid)) (ice.clist.checks.take ckid))
    ⟨fun ⟨inside, transport, led⟩ => ⟨inside, transport, led⟩,
      fun ⟨inside, transport, led⟩ => ⟨inside, transport, led⟩⟩

instance (env : IceEnv) (ice : IceSess) (ckid transportId : Nat) (completion : IceSess.Completion) :
    Decidable (MaySucceed env ice ckid transportId completion) :=
  inferInstanceAs (Decidable ((∀ mapped ∈ mappedTransport env ice ckid transportId completion, _)
    ∧ (_ → _)))

instance (env : IceEnv) (ice : IceSess) (request : Request) (completion : IceSess.Completion) :
    Decidable (MayComplete env ice request completion) :=
  inferInstanceAs (Decidable (_ → _ → ∀ ckid ∈ ice.completedSlot request,
    (_ → _ → _) ∧ (_ → _ ∧ (_ → _ → ∀ c ∈ ice.clist.checks[ckid]?, _)) ∧ (_ → _ → _ → _)))

instance (ice : IceSess) (msg : IceSess.RxRequest) : Decidable (MayReceive ice msg) :=
  inferInstanceAs (Decidable (_ → _ →
    ∀ role ∈ rxRequestRole ice.role ice.tieBreaker msg.roleAttr, _ ∧ (_ → _ → _ → _)))

instance (env : IceEnv) (ice : IceSess) : (act : IceAct) → Decidable (Steadfast env ice act)
  | .changeRole role => inferInstanceAs (Decidable (role ≠ .unknown ∧ MayTurn ice role))
  | .createCheckList .. => inferInstanceAs (Decidable (_ → (_ → _) ∧ (_ → MayEnd ice)))
  | .updateCheckList .. => inferInstanceAs (Decidable (_ → _ ∨ _ → MayPair ice ∧ (_ → MayEnd ice)))
  | .startCheck => inferInstanceAs (Decidable (MayStart ice))
  | .periodicTimer => inferInstanceAs (Decidable (MaySend env ice))
  | .rxRequest msg => inferInstanceAs (Decidable (MayReceive ice msg))
  | .requestComplete request completion =>
    inferInstanceAs (Decidable (MayComplete env { ice with pending := ice.pending.erase request }
      request completion))
  | .addCand .. | .setOptions .. | .setPrefs .. | .timer | .endOfCandTimer | .destroy =>
    .isTrue trivial

/-- Both components get a valid pair; one more pair is left to check. -/
def bothValid : List IceAct :=
  [.setOptions false 0 .disabled, .addCand 1 1 .host 65535 [0x6C] (hostAddr 1) (hostAddr 1),
    .addCand 2 2 .host 65535 [0x6C] (hostAddr 2) (hostAddr 2),
    .createCheckList [0x61] [0x62] [⟨.host, 1, 0, [0x72], 9, hostAddr 100, hostAddr 100⟩,
        ⟨.host, 2, 0, [0x72], 8, hostAddr 101, hostAddr 101⟩,
        ⟨.host, 1, 0, [0x73], 7, hostAddr 102, hostAddr 102⟩],
    .startCheck, .periodicTimer,
    .requestComplete ⟨0, 0, 0, 0, 1, .iceControlling, false⟩
      ⟨.success, hostAddr 100, some (hostAddr 1)⟩,
    .periodicTimer,
    .requestComplete ⟨1, 1, 1, 1, 2, .iceControlling, false⟩
      ⟨.success, hostAddr 101, some (hostAddr 2)⟩]

theorem startNominatedCheck_fit_bothValid :
    ∃ tr ice, Run (iceStep plainEnv) (IceSess.create .controlling 5 2) tr ice
      ∧ ice.starts ≠ [] ∧ ∀ fit ∈ ice.starts, fit = true := by
  have steadfast : Along (iceStep plainEnv) (Steadfast plainEnv) (IceSess.create .controlling 5 2)
      (bothValid ++ [.timer]) := by
    decide +kernel
  have runs : (exec (iceStep plainEnv) (IceSess.create .controlling 5 2)
      (bothValid ++ [.timer])).any (fun ice => ice.starts ≠ []) = true := by
    decide +kernel
  obtain ⟨ice, done, started⟩ := (Option.any_eq_true _ _).1 runs
  obtain ⟨tr, acts, run⟩ := Run.of_exec done
  have known : Role.controlling ≠ .unknown := nofun
  exact ⟨tr, ice, run, of_decide_eq_true started,
    startNominatedCheck_fit plainEnv known 5 2 run (acts.symm ▸ steadfast)⟩

/-- While nominated checks are due the peer, controlling as well and with the larger
tie-breaker, nominates the pair of the first component: the timer is not stopped. -/
theorem startNominatedCheck_controlled :
    ¬ ∀ (env : IceEnv) (role : Role) (tieBreaker compCnt : Nat) (tr : List (IceAct × IceStatus))
      (ice : IceSess), role ≠ .unknown →
      Run (iceStep env) (IceSess.create role tieBreaker compCnt) tr ice →
      ∀ fit ∈ ice.starts, fit = true := by
  intro claim
  have runs : (exec (iceStep plainEnv) (IceSess.create .controlling 5 2)
      (bothValid ++ [.rxRequest ⟨1, 1, hostAddr 100, some 1, true, some ⟨.iceControlling, 9⟩, true⟩,
        .timer])).any (fun ice => ice.starts = [false]) = true := by
    decide +kernel
  obtain ⟨ice, done, unfit⟩ := (Option.any_eq_true _ _).1 runs
  obtain ⟨tr, _, run⟩ := Run.of_exec done
  have starts : ice.starts = [false] := of_decide_eq_true unfit
  have fit := claim plainEnv .controlling 5 2 tr ice nofun run false
    (starts ▸ List.mem_singleton_self false)
  cases fit

end Pjsip.Pjnath.Ice
