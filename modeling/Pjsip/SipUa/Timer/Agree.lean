import Pjsip.Base.Run
import Pjsip.SipUa.Timer.Entries

/-!
# Two parties with session timers

An exchange is a request of one party, tried a second time after a 422, and the 2xx of the other.
However the intervals were set, both parties come to hold one interval and one refresher, and
the next exchange finds them so. The exception is the first request: its CSeq is compared with
the one of the last 422, which is 0 as long as there was none.
-/

namespace Pjsip.SipUa.Timer

open Pjsip.Base Pjsip.Pjlib Pjsip.Sip

/-- The timers of both sides; `confirmed` once the INVITE has been accepted. -/
structure Parties where
  a : PjsipTimer
  b : PjsipTimer
  confirmed : Bool
  deriving DecidableEq, Repr

/-- A request that is not refused for other reasons, from one side or the other. The 2xx leaves
the UAS at `uasNow` and comes in at `uacNow`. -/
structure Exchange where
  fromA : Bool
  method : Method
  supported : Option (List (List UInt8))
  cseq : Int32
  code : Nat
  require : Option (List (List UInt8))
  uasUpdate : Bool
  uacUpdate : Bool
  uasNow : Nat
  uacNow : Nat
  deriving DecidableEq, Repr

/-- The UAS accepts the request, and the UAC takes its 2xx. -/
def acceptRequest (uacOptions uasOptions : InvOptions) (confirmed : Bool) (x : Exchange)
    (cseq : Int32) (uac uas : PjsipTimer) : Option (PjsipTimer × PjsipTimer) :=
  match pjsipTimerUpdateResp uasOptions x.uasUpdate x.uasNow uas
      ⟨x.code, x.method, cseq, none, none, x.require⟩ with
  | none => none
  | some (uas, res) =>
    match pjsipTimerProcessResp uacOptions confirmed x.uacUpdate x.uacNow uac res with
    | some (.success, uac, _) => some (uac, uas)
    | _ => none

/-- One exchange, with the answer whether it took a second request; nothing comes out if the
second one is refused, or not sent. -/
def transact (uacOptions uasOptions : InvOptions) (confirmed : Bool) (x : Exchange)
    (uac uas : PjsipTimer) : Option ((PjsipTimer × PjsipTimer) × Bool) :=
  let (uac, req) := pjsipTimerUpdateReq uacOptions uac ⟨x.method, none, none, x.supported⟩
  match pjsipTimerProcessReq uasOptions uas req with
  | .ok uas => (acceptRequest uacOptions uasOptions confirmed x x.cseq uac uas).map (·, false)
  | .error code =>
    match pjsipTimerUpdateResp uasOptions x.uasUpdate x.uasNow uas
        ⟨code, x.method, x.cseq, none, none, none⟩ with
    | none => none
    | some (uas, res) =>
      match pjsipTimerProcessResp uacOptions confirmed x.uacUpdate x.uacNow uac res with
      | some (_, uac, .resend sessExpires minSe) =>
        match pjsipTimerProcessReq uasOptions uas
            { req with sessExpires := some sessExpires, minSe := some minSe } with
        | .ok uas =>
          (acceptRequest uacOptions uasOptions confirmed x (x.cseq + 1) uac uas).map (·, true)
        | .error _ => none
      | _ => none

def exchangeStep (aOptions bOptions : InvOptions) (parties : Parties) (x : Exchange) :
    Option (Parties × Bool) :=
  if x.fromA then
    (transact aOptions bOptions parties.confirmed x parties.a parties.b).map fun done =>
      (⟨done.1.1, done.1.2, true⟩, done.2)
  else
    (transact bOptions aOptions parties.confirmed x parties.b parties.a).map fun done =>
      (⟨done.1.2, done.1.1, true⟩, done.2)

/-! ## Agreement -/

/-- One side refreshes at half of the interval, and the other waits longer than that. -/
structure InTime (refresher other : PjsipTimer) : Prop where
  refreshes : refresher.asRefresher = true
  waits : other.asRefresher = false
  refresh : refresher.timer.due = some (refresher.lastRefresh + refresher.setting.sessExpires / 2)
  deadline : other.timer.due = some (other.lastRefresh
    + (other.setting.sessExpires - min 32 (other.setting.sessExpires / 3)))
  before : refresher.setting.sessExpires / 2
    < other.setting.sessExpires - min 32 (other.setting.sessExpires / 3)

/-- Both sides hold one interval, not below the Min-SE of either, and one of them refreshes. -/
structure Agrees (aMinSe bMinSe : Nat) (parties : Parties) : Prop where
  interval : parties.a.setting.sessExpires = parties.b.setting.sessExpires
  aboveA : aMinSe ≤ parties.a.setting.minSe
    ∧ parties.a.setting.minSe ≤ parties.a.setting.sessExpires
  aboveB : bMinSe ≤ parties.b.setting.minSe
    ∧ parties.b.setting.minSe ≤ parties.b.setting.sessExpires
  inTime : InTime parties.a parties.b ∨ InTime parties.b parties.a

def Exchange.Legal (x : Exchange) : Prop := otherMethod x.method = false ∧ x.code / 100 = 2

/-- Between exchanges. -/
structure Ready (timer : PjsipTimer) : Prop where
  tells : IdsTell timer
  least : absMinSe ≤ timer.setting.minSe
  ordered : timer.setting.minSe ≤ timer.setting.sessExpires

/-- The UAC and the UAS of an exchange, after it. -/
structure Settled (uac uas : PjsipTimer) : Prop where
  uacReady : Ready uac
  uasReady : Ready uas
  interval : uac.setting.sessExpires = uas.setting.sessExpires
  inTime : InTime uac uas ∨ InTime uas uac

/-- The first request is refused, and taken for one that is already the second. -/
def GivesUp (x : Exchange) (uac uas : PjsipTimer) : Prop :=
  uac.setting.sessExpires < uas.setting.minSe ∧ x.cseq = uac.last422Cseq + 1

/-! ## One exchange -/

section Exchanges

variable {uacOptions uasOptions : InvOptions} {x : Exchange} {uac uas : PjsipTimer}

theorem inTime_started {refresher other : PjsipTimer} (refreshes : refresher.asRefresher = true)
    (waits : other.asRefresher = false)
    (interval : refresher.setting.sessExpires = other.setting.sessExpires)
    (long : 0 < other.setting.sessExpires) (update update' : Bool) (now now' : Nat) :
    InTime (started update now refresher) (started update' now' other) where
  refreshes := refreshes
  waits := waits
  refresh := by simp [started, refreshes]
  deadline := by simp [started, waits, expireDelay_eq]
  before := by
    show refresher.setting.sessExpires / 2
      < other.setting.sessExpires - min 32 (other.setting.sessExpires / 3)
    omega

@[simp] theorem strUac_uac : stricmp strUac strUac = 0 := by decide

@[simp] theorem strUas_uac : stricmp strUas strUac = 16 := by decide

@[simp] theorem strUas_uas : stricmp strUas strUas = 0 := by decide

theorem acceptedRefresher_addSessExpires {timer : PjsipTimer} (known : timer.refresher ≠ .unknown) :
    acceptedRefresher (some (addSessExpires timer)) = timer.refresher := by
  unfold acceptedRefresher addSessExpires
  cases refresher : timer.refresher with
  | unknown => exact absurd refresher known
  | uac => simp
  | uas => simp

theorem acceptedSetting_same {setting : TimerSetting} {hdr : SessExpiresHdr}
    (same : hdr.sessExpires = setting.sessExpires) (ordered : setting.minSe ≤ setting.sessExpires) :
    acceptedSetting setting (some hdr) = setting := by
  have above : ¬ (hdr.sessExpires < setting.minSe ∧ absMinSe ≤ hdr.sessExpires) := by omega
  unfold acceptedSetting
  dsimp only
  rw [if_neg above, if_pos (by omega), same]

theorem acceptRequest_eq (uacEnabled : uacOptions.supportTimer = true)
    (uasEnabled : uasOptions.supportTimer = true) (legal : x.Legal) (uacReady : Ready uac)
    (uasTells : IdsTell uas) (active : uas.active = true) (known : uas.refresher ≠ .unknown)
    (interval : uas.setting.sessExpires = uac.setting.sessExpires) (confirmed : Bool)
    (cseq : Int32) :
    acceptRequest uacOptions uasOptions confirmed x cseq uac uas
      = some (started x.uacUpdate x.uacNow
          { uac with refresher := uas.refresher, role := .uac, active := true },
        started x.uasUpdate x.uasNow uas) := by
  obtain ⟨method, ok⟩ := legal
  have tells : IdsTell { uac with refresher := uas.refresher, role := .uac, active := true } :=
    ⟨uacReady.tells.refresh, uacReady.tells.expire⟩
  unfold acceptRequest pjsipTimerUpdateResp
  rw [if_neg (by rw [uasEnabled]; simp), if_pos ok, if_pos active, startTimer_eq uasTells active]
  dsimp only [Option.map_some]
  unfold pjsipTimerProcessResp
  rw [if_neg (by rw [uacEnabled]; simp)]
  dsimp only
  rw [if_neg (by rw [method]; simp), if_neg (by omega), if_pos ok]
  unfold processAccepted
  rw [if_neg (by simp), if_neg (by simp), acceptedRefresher_addSessExpires known,
    acceptedSetting_same interval uacReady.ordered, startTimer_eq tells rfl]
  rfl

theorem settled_of_accepted (uacReady : Ready uac) (uasReady : Ready uas) (role : uas.role = .uas)
    (known : uas.refresher ≠ .unknown)
    (interval : uas.setting.sessExpires = uac.setting.sessExpires) (uacNow uasNow : Nat)
    (uacUpdate uasUpdate : Bool) :
    Settled (started uacUpdate uacNow
        { uac with refresher := uas.refresher, role := .uac, active := true })
      (started uasUpdate uasNow uas) where
  uacReady := ⟨started_tells _ _, uacReady.least, uacReady.ordered⟩
  uasReady := ⟨started_tells _ _, uasReady.least, uasReady.ordered⟩
  interval := interval.symm
  inTime := by
    have least := uasReady.least
    have ordered := uasReady.ordered
    unfold absMinSe at least
    have uacSide : PjsipTimer.asRefresher
        { uac with refresher := uas.refresher, role := .uac, active := true }
          = decide (uas.refresher = .uac) := by
      simp [PjsipTimer.asRefresher]
    have uasSide : uas.asRefresher = decide (uas.refresher = .uas) := by
      simp [PjsipTimer.asRefresher, role]
    cases refresher : uas.refresher with
    | unknown => exact absurd refresher known
    | uac =>
      rw [refresher] at uacSide uasSide
      exact .inl (inTime_started uacSide uasSide interval.symm (by omega) _ _ _ _)
    | uas =>
      rw [refresher] at uacSide uasSide
      refine .inr (inTime_started uasSide uacSide interval ?_ _ _ _ _)
      show 0 < uac.setting.sessExpires
      omega

theorem requestRefresher_known (timer : PjsipTimer) (req : Request) :
    requestRefresher timer req ≠ .unknown := by
  unfold requestRefresher
  dsimp only
  repeat' split
  all_goals nofun

/-- A request with a Session-Expires header, taken. -/
def taken (timer : PjsipTimer) (req : Request) (sessExpires : Nat) : PjsipTimer :=
  { timer with
    setting := { timer.setting with sessExpires }
    refresher := requestRefresher timer req
    role := .uas
    active := true }

theorem processReq_eq (enabled : uasOptions.supportTimer = true) {req : Request}
    (method : otherMethod req.method = false) {hdr : SessExpiresHdr} {minSe : Nat}
    (se : req.sessExpires = some hdr) (min_ : req.minSe = some minSe) :
    pjsipTimerProcessReq uasOptions uas req
      = if hdr.sessExpires < max minSe uas.setting.minSe then .error 422
        else .ok (taken uas req hdr.sessExpires) := by
  unfold pjsipTimerProcessReq
  rw [if_neg (by rw [enabled]; simp), if_neg (by rw [method]; simp), se, min_]
  rfl

theorem Ready.takeUacRole (ready : Ready uac) : Ready (takeUacRole uac) := by
  refine ⟨takeUacRole_tells ready.tells, ?_, ?_⟩
  · rw [takeUacRole_setting]
    exact ready.least
  · rw [takeUacRole_setting]
    exact ready.ordered

theorem Ready.taken (ready : Ready uas) {req : Request} {sessExpires : Nat}
    (above : uas.setting.minSe ≤ sessExpires) : Ready (taken uas req sessExpires) :=
  ⟨⟨ready.tells.refresh, ready.tells.expire⟩, ready.least, above⟩

theorem accept_settles (uacEnabled : uacOptions.supportTimer = true)
    (uasEnabled : uasOptions.supportTimer = true) (legal : x.Legal) (uacReady : Ready uac)
    (uasReady : Ready uas) (above : uas.setting.minSe ≤ uac.setting.sessExpires) (req : Request)
    (confirmed : Bool) (cseq : Int32) :
    ∃ uac' uas', acceptRequest uacOptions uasOptions confirmed x cseq uac
        (taken uas req uac.setting.sessExpires) = some (uac', uas') ∧ Settled uac' uas'
      ∧ uac'.setting.minSe = uac.setting.minSe ∧ uas'.setting.minSe = uas.setting.minSe := by
  have known := requestRefresher_known uas req
  have ready : Ready (taken uas req uac.setting.sessExpires) := uasReady.taken above
  refine ⟨_, _, acceptRequest_eq uacEnabled uasEnabled legal uacReady ready.tells rfl known rfl
    confirmed cseq, settled_of_accepted uacReady ready rfl known rfl _ _ _ _, rfl, rfl⟩

theorem processResp_tooSmall (enabled : uacOptions.supportTimer = true) {res : Response}
    (method : otherMethod res.method = false) (code : res.code = 422) {minSe : Nat}
    (min_ : res.minSe = some minSe) (confirmed update : Bool) (now : Nat) :
    pjsipTimerProcessResp uacOptions confirmed update now uac res
      = if res.cseq = uac.last422Cseq + 1 then
          some (if confirmed then .success else .sip 422, uac, .nothing)
        else
          let raised := { uac with
            last422Cseq := res.cseq
            setting := ⟨max minSe uac.setting.minSe,
              max uac.setting.sessExpires (max minSe uac.setting.minSe)⟩ }
          some (.success, raised, .resend (addSessExpires raised) raised.setting.minSe) := by
  unfold pjsipTimerProcessResp processTooSmall
  rw [if_neg (by rw [enabled]; simp), if_neg (by rw [method]; simp), if_pos code, min_]
  dsimp only
  split <;> rfl

/-- An exchange comes to an agreement, unless the first request is given up. -/
theorem transact_settles (uacEnabled : uacOptions.supportTimer = true)
    (uasEnabled : uasOptions.supportTimer = true) (legal : x.Legal) (uacReady : Ready uac)
    (uasReady : Ready uas) (confirmed : Bool) :
    GivesUp x uac uas ∧ transact uacOptions uasOptions confirmed x uac uas = none
      ∨ ¬ GivesUp x uac uas ∧ ∃ uac' uas' again,
        transact uacOptions uasOptions confirmed x uac uas = some ((uac', uas'), again)
          ∧ Settled uac' uas' ∧ uac.setting.minSe ≤ uac'.setting.minSe
          ∧ uas'.setting.minSe = uas.setting.minSe := by
  have ready := uacReady.takeUacRole
  have setting := takeUacRole_setting uac
  have last := takeUacRole_last422Cseq uac
  unfold GivesUp transact pjsipTimerUpdateReq
  rw [if_neg (show ¬ uacOptions.supportTimer = false by rw [uacEnabled]; nofun)]
  dsimp only
  rw [processReq_eq uasEnabled legal.1 rfl rfl, ← setting, ← last]
  generalize takeUacRole uac = uac at *
  by_cases small : uac.setting.sessExpires < uas.setting.minSe
  · have tooSmall : (addSessExpires uac).sessExpires
        < max uac.setting.minSe uas.setting.minSe := by
      show uac.setting.sessExpires < _
      omega
    rw [if_pos tooSmall]
    dsimp only [pjsipTimerUpdateResp]
    rw [if_neg (show ¬ uasOptions.supportTimer = false by rw [uasEnabled]; nofun),
      if_neg (by decide), if_pos rfl]
    dsimp only
    rw [processResp_tooSmall uacEnabled legal.1 rfl rfl]
    by_cases guard : x.cseq = uac.last422Cseq + 1
    · rw [if_pos guard]
      exact .inl ⟨⟨small, guard⟩, rfl⟩
    · rw [if_neg guard]
      dsimp only
      rw [processReq_eq uasEnabled legal.1 rfl rfl]
      let raised : PjsipTimer := { uac with
        last422Cseq := x.cseq
        setting := ⟨max uas.setting.minSe uac.setting.minSe,
          max uac.setting.sessExpires (max uas.setting.minSe uac.setting.minSe)⟩ }
      have raisedReady : Ready raised :=
        ⟨⟨ready.tells.refresh, ready.tells.expire⟩, le_trans ready.least (Nat.le_max_right _ _),
          le_max_right _ _⟩
      have above : uas.setting.minSe ≤ raised.setting.sessExpires :=
        le_trans (Nat.le_max_left _ _) (Nat.le_max_right _ _)
      have fits : ¬ (addSessExpires raised).sessExpires
          < max raised.setting.minSe uas.setting.minSe :=
        not_lt.2 (max_le raisedReady.ordered above)
      rw [if_neg fits]
      obtain ⟨uac', uas', accepted, settled, uacMin, uasMin⟩ :=
        accept_settles uacEnabled uasEnabled legal raisedReady uasReady above
          ⟨x.method, some (addSessExpires raised), some raised.setting.minSe, x.supported⟩
          confirmed (x.cseq + 1)
      refine .inr ⟨fun both => guard both.2, uac', uas', true, ?_, settled, ?_, uasMin⟩
      · exact congrArg (Option.map (·, true)) accepted
      · exact uacMin ▸ le_max_right _ _
  · have fits : ¬ (addSessExpires uac).sessExpires
        < max uac.setting.minSe uas.setting.minSe :=
      not_lt.2 (max_le ready.ordered (not_lt.1 small))
    rw [if_neg fits]
    obtain ⟨uac', uas', accepted, settled, uacMin, uasMin⟩ :=
      accept_settles uacEnabled uasEnabled legal ready uasReady (not_lt.1 small)
        ⟨x.method, some (addSessExpires uac), some uac.setting.minSe, x.supported⟩
        confirmed x.cseq
    refine .inr ⟨fun both => small both.1, uac', uas', false, ?_, settled, uacMin.ge, uasMin⟩
    exact congrArg (Option.map (·, false)) accepted

end Exchanges

/-! ## Sessions -/

section Sessions

variable {aOptions bOptions : InvOptions} {x : Exchange} {parties : Parties}

theorem Settled.symm {uac uas : PjsipTimer} (settled : Settled uac uas) : Settled uas uac :=
  ⟨settled.uasReady, settled.uacReady, settled.interval.symm, settled.inTime.symm⟩

theorem Settled.not_givesUp {uac uas : PjsipTimer} (settled : Settled uac uas) :
    ¬ GivesUp x uac uas := by
  rintro ⟨small, -⟩
  have ordered := settled.uasReady.ordered
  have interval := settled.interval
  omega

/-- The sides of an exchange. -/
def Parties.uac (parties : Parties) (x : Exchange) : PjsipTimer :=
  if x.fromA then parties.a else parties.b

def Parties.uas (parties : Parties) (x : Exchange) : PjsipTimer :=
  if x.fromA then parties.b else parties.a

/-- An agreement, and what it rests on. -/
structure InForce (aMinSe bMinSe : Nat) (parties : Parties) : Prop where
  settled : Settled parties.a parties.b
  aboveA : aMinSe ≤ parties.a.setting.minSe
  aboveB : bMinSe ≤ parties.b.setting.minSe

variable {aMinSe bMinSe : Nat}

theorem InForce.agrees (inForce : InForce aMinSe bMinSe parties) :
    Agrees aMinSe bMinSe parties where
  interval := inForce.settled.interval
  aboveA := ⟨inForce.aboveA, inForce.settled.uacReady.ordered⟩
  aboveB := ⟨inForce.aboveB, inForce.settled.uasReady.ordered⟩
  inTime := inForce.settled.inTime

theorem exchangeStep_settles (aEnabled : aOptions.supportTimer = true)
    (bEnabled : bOptions.supportTimer = true) (legal : x.Legal) (parties : Parties)
    (aReady : Ready parties.a) (bReady : Ready parties.b) :
    GivesUp x (parties.uac x) (parties.uas x) ∧ exchangeStep aOptions bOptions parties x = none
      ∨ ¬ GivesUp x (parties.uac x) (parties.uas x) ∧ ∃ parties' again,
        exchangeStep aOptions bOptions parties x = some (parties', again)
          ∧ InForce parties.a.setting.minSe parties.b.setting.minSe parties' := by
  unfold exchangeStep Parties.uac Parties.uas
  cases fromA : x.fromA with
  | true =>
    simp only [if_true]
    refine (transact_settles aEnabled bEnabled legal aReady bReady parties.confirmed).imp ?_ ?_
    · rintro ⟨gives, refused⟩
      exact ⟨gives, congrArg (Option.map _) refused⟩
    · rintro ⟨goes, a, b, again, exchanged, settled, aMin, bMin⟩
      exact ⟨goes, ⟨a, b, true⟩, again, congrArg (Option.map _) exchanged, settled, aMin, bMin.ge⟩
  | false =>
    refine (transact_settles bEnabled aEnabled legal bReady aReady parties.confirmed).imp ?_ ?_
    · rintro ⟨gives, refused⟩
      exact ⟨gives, congrArg (Option.map _) refused⟩
    · rintro ⟨goes, b, a, again, exchanged, settled, bMin, aMin⟩
      exact ⟨goes, ⟨a, b, true⟩, again, congrArg (Option.map _) exchanged, settled.symm, aMin.ge, bMin⟩

theorem InForce.kept (aEnabled : aOptions.supportTimer = true)
    (bEnabled : bOptions.supportTimer = true) (legal : x.Legal)
    (inForce : InForce aMinSe bMinSe parties) :
    ∃ parties' again, exchangeStep aOptions bOptions parties x = some (parties', again)
      ∧ InForce aMinSe bMinSe parties' := by
  obtain ⟨settled, aboveA, aboveB⟩ := inForce
  rcases exchangeStep_settles aEnabled bEnabled legal parties settled.uacReady settled.uasReady with
    ⟨gives, -⟩ | ⟨-, parties', again, exchanged, inForce'⟩
  · unfold Parties.uac Parties.uas at gives
    split at gives
    · exact absurd gives settled.not_givesUp
    · exact absurd gives settled.symm.not_givesUp
  · exact ⟨parties', again, exchanged, inForce'.settled, aboveA.trans inForce'.aboveA,
      aboveB.trans inForce'.aboveB⟩

theorem InForce.stepwise (aEnabled : aOptions.supportTimer = true)
    (bEnabled : bOptions.supportTimer = true) (inForce : InForce aMinSe bMinSe parties)
    (exchanges : List Exchange) (legal : ∀ x ∈ exchanges, x.Legal) :
    Stepwise (exchangeStep aOptions bOptions)
      (fun _ _ parties _ => Agrees aMinSe bMinSe parties) parties exchanges := by
  induction exchanges generalizing parties with
  | nil => trivial
  | cons x exchanges ih =>
    obtain ⟨parties', again, exchanged, inForce'⟩ :=
      inForce.kept aEnabled bEnabled (legal x List.mem_cons_self)
    exact ⟨parties', again, exchanged, inForce'.agrees,
      ih inForce' fun x mem => legal x (List.mem_cons_of_mem _ mem)⟩

theorem ready_init {setting : Option TimerSetting} {timer : PjsipTimer}
    (init : pjsipTimerInitSession setting = .ok timer) :
    Ready timer ∧ timer.last422Cseq = 0 := by
  unfold pjsipTimerInitSession at init
  cases setting with
  | none =>
    cases init
    exact ⟨⟨⟨TimerEntry.tells_stopped, TimerEntry.tells_stopped⟩, by decide, by decide⟩, rfl⟩
  | some setting =>
    dsimp only at init
    split at init
    · nomatch init
    · rename_i least
      split at init
      · nomatch init
      · rename_i ordered
        cases init
        exact ⟨⟨⟨TimerEntry.tells_stopped, TimerEntry.tells_stopped⟩, not_lt.1 least,
          not_lt.1 ordered⟩, rfl⟩

/-- Every exchange of a session comes to an agreement, exactly unless the INVITE has CSeq 1 and
asks for an interval that the other side does not take. -/
theorem session_agrees_iff (aSetting bSetting : Option TimerSetting) {a b : PjsipTimer}
    (aInit : pjsipTimerInitSession aSetting = .ok a)
    (bInit : pjsipTimerInitSession bSetting = .ok b) (aEnabled : aOptions.supportTimer = true)
    (bEnabled : bOptions.supportTimer = true) (invite : Exchange) (later : List Exchange)
    (legal : ∀ x ∈ invite :: later, x.Legal) :
    Stepwise (exchangeStep aOptions bOptions)
        (fun _ _ parties _ => Agrees a.setting.minSe b.setting.minSe parties) ⟨a, b, false⟩
        (invite :: later)
      ↔ ¬ (invite.cseq = 1 ∧ (Parties.uac ⟨a, b, false⟩ invite).setting.sessExpires
        < (Parties.uas ⟨a, b, false⟩ invite).setting.minSe) := by
  obtain ⟨aReady, aLast⟩ := ready_init aInit
  obtain ⟨bReady, bLast⟩ := ready_init bInit
  have last : (Parties.uac ⟨a, b, false⟩ invite).last422Cseq = 0 := by
    unfold Parties.uac
    split
    · exact aLast
    · exact bLast
  have gives : GivesUp invite (Parties.uac ⟨a, b, false⟩ invite) (Parties.uas ⟨a, b, false⟩ invite)
      ↔ invite.cseq = 1 ∧ (Parties.uac ⟨a, b, false⟩ invite).setting.sessExpires
        < (Parties.uas ⟨a, b, false⟩ invite).setting.minSe := by
    rw [GivesUp, last]
    exact and_comm
  rw [← gives]
  rcases exchangeStep_settles aEnabled bEnabled (legal invite List.mem_cons_self) ⟨a, b, false⟩
    aReady bReady with ⟨refused, refused'⟩ | ⟨goes, parties', again, exchanged, inForce⟩
  · refine iff_of_false ?_ (not_not.2 refused)
    rintro ⟨parties', again, exchanged, -⟩
    rw [refused'] at exchanged
    nomatch exchanged
  · refine iff_of_true ⟨parties', again, exchanged, inForce.agrees, ?_⟩ goes
    exact inForce.stepwise aEnabled bEnabled later fun x mem => legal x (List.mem_cons_of_mem _ mem)

/-- A 422 for the INVITE, and an UPDATE of the other side. -/
theorem session_agrees_raised : Stepwise (exchangeStep ⟨true, false, false⟩ ⟨true, false, false⟩)
      (fun _ _ parties _ => Agrees 90 120 parties)
      ⟨resetTimer ⟨90, 100⟩, resetTimer ⟨120, 1800⟩, false⟩
      [⟨true, pjsipInviteMethod, some [strTimer], 7, 200, none, true, true, 10, 11⟩,
        ⟨false, pjsipUpdateMethod, none, 31, 200, none, true, true, 70, 71⟩] := by
  refine (session_agrees_iff (some ⟨90, 100⟩) (some ⟨120, 1800⟩) rfl rfl rfl rfl _ _ ?_).2 ?_
  · intro x mem
    rcases List.mem_cons.1 mem with rfl | mem
    · exact ⟨rfl, rfl⟩
    · obtain rfl := List.mem_singleton.1 mem
      exact ⟨by decide, rfl⟩
  · rintro ⟨one, -⟩
    exact absurd one (by decide)

/-- The same two parties and an INVITE with CSeq 1. -/
theorem session_not_agrees : ¬ Stepwise (exchangeStep ⟨true, false, false⟩ ⟨true, false, false⟩)
      (fun _ _ parties _ => Agrees 90 120 parties)
      ⟨resetTimer ⟨90, 100⟩, resetTimer ⟨120, 1800⟩, false⟩
      [⟨true, pjsipInviteMethod, some [strTimer], 1, 200, none, true, true, 10, 11⟩] := by
  rintro ⟨parties, again, exchanged, -⟩
  have refused : exchangeStep ⟨true, false, false⟩ ⟨true, false, false⟩
      ⟨resetTimer ⟨90, 100⟩, resetTimer ⟨120, 1800⟩, false⟩
      ⟨true, pjsipInviteMethod, some [strTimer], 1, 200, none, true, true, 10, 11⟩ = none := by
    decide
  rw [refused] at exchanged
  nomatch exchanged

end Sessions

end Pjsip.SipUa.Timer
