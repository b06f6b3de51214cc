import Pjsip.Base.Run
import Pjsip.Errno
import Pjsip.Sip.Method

/-!
# Dialogs (`sip_dialog.c`)

The sequence numbers of a dialog: how `pjsip_dlg_send_request` numbers the requests that go
out, and how `pjsip_dlg_on_rx_request` checks the numbers of those that come in. A call that
hands a request on may be entered again from there; what the source does before that point is
one step here, and what comes after it touches the dialog through its transactions only.
-/

namespace Pjsip.Sip.Dlg

open Pjsip.Base Pjsip.Pjlib

/-- What is read of a request that came in. -/
structure RxRequest where
  /-- The method of the request line. -/
  method : Method
  cseq : Int
  /-- The method of the CSeq header. -/
  cseqMethod : Method
  fromTag : List UInt8
  /-- The URI of its Contact header. -/
  contact : Option (List UInt8)
  /-- `pjsip_rdata_get_tsx` finds a transaction. -/
  hasTsx : Bool
  deriving DecidableEq, Repr

/-- What is read of a message to send. -/
structure TxData where
  isRequest : Bool
  method : Method
  /-- The number in its CSeq header, if it has one. -/
  cseq : Option Int
  deriving DecidableEq, Repr

/-- The part of `pjsip_dialog` that requests read or change. -/
structure Dialog where
  /-- The next number to send, `local.cseq`. -/
  localCseq : Int
  /-- The number that came last, `remote.cseq`. -/
  remoteCseq : Int
  remoteTag : List UInt8
  /-- The URI of `remote.contact`. -/
  remoteContact : Option (List UInt8)
  target : List UInt8
  tsxCount : Nat
  ackSent : Bool
  /-- The counter is a `pj_int32_t`. -/
  counter : -2 ^ 31 ≤ localCseq ∧ localCseq < 2 ^ 31
  deriving DecidableEq, Repr

/-- A dialog as `pjsip_dlg_create_uac2` leaves it; `rand` is what `pj_rand` returned. -/
def createUac (rand : Nat) (target : List UInt8) : Dialog where
  localCseq := rand % 2 ^ 15
  remoteCseq := -1
  remoteTag := []
  remoteContact := none
  target
  tsxCount := 0
  ackSent := false
  counter := by omega

/-- A dialog as `create_uas_dialog` leaves it, made for a request with this Contact. -/
def createUas (rand : Nat) (rdata : RxRequest) (contact : List UInt8) : Dialog where
  localCseq := rand % 2 ^ 15
  remoteCseq := rdata.cseq
  remoteTag := rdata.fromTag
  remoteContact := some contact
  target := contact
  tsxCount := 1
  ackSent := false
  counter := by omega

/-- `pjsip_dlg_fork`, for a response with this To tag and Contact. -/
def fork (first : Dialog) (toTag contact : List UInt8) : Dialog where
  localCseq := first.localCseq
  remoteCseq := -1
  remoteTag := toTag
  remoteContact := some contact
  target := contact
  tsxCount := 0
  ackSent := false
  counter := first.counter

/-- Requests whose numbers are left alone. -/
def exempt (method : Method) : Bool := method.id = .cancel || method.id = .ack

/-- `pjsip_method_creates_dialog` -/
def methodCreatesDialog (m : Method) : Bool :=
  m.id = .invite || methodCmp m ⟨.other, ascii "SUBSCRIBE".toList⟩
    || methodCmp m ⟨.other, ascii "REFER".toList⟩
    || methodCmp m ⟨.other, ascii "NOTIFY".toList⟩
    || methodCmp m ⟨.other, ascii "UPDATE".toList⟩

/-- `pjsip_dlg_send_request`, up to the point where the request goes to its transaction (or, an
ACK, to the transport): the request as it is then, or the status of a failure before that.
`created` is what `pjsip_tsx_create_uac` returned. -/
def sendRequest (dlg : Dialog) (tdata : TxData) (created : SipStatus) :
    Dialog × Except SipStatus TxData :=
  if tdata.isRequest = false then (dlg, .error .enotrequestmsg)
  else if exempt tdata.method = false then
    match tdata.cseq with
    | none => (dlg, .error .ebug)
    | some _ =>
      let tdata := { tdata with cseq := some dlg.localCseq }
      let dlg := { dlg with
        localCseq := i32 (dlg.localCseq + 1)
        counter := i32_range (dlg.localCseq + 1) }
      if created ≠ .success then (dlg, .error created)
      else ({ dlg with tsxCount := dlg.tsxCount + 1 }, .ok tdata)
  else if tdata.method.id ≠ .ack then
    if created ≠ .success then (dlg, .error created)
    else ({ dlg with tsxCount := dlg.tsxCount + 1 }, .ok tdata)
  else ({ dlg with ackSent := true }, .ok tdata)

/-- What became of a request that came in. -/
inductive Reception where
  /-- Answered 500, "Invalid CSeq". -/
  | invalidCseq
  /-- No transaction could be made for it; answered 500. -/
  | refused (status : SipStatus)
  /-- Reported to the usages; `claimed` if one of them took it. -/
  | reported (claimed : Bool)
  deriving DecidableEq, Repr

/-- The update of the target by a request that refreshes it. -/
def refreshTarget (uriCmp : List UInt8 → List UInt8 → Bool) (dlg : Dialog) (rdata : RxRequest) :
    Dialog :=
  if methodCreatesDialog rdata.cseqMethod then
    match rdata.contact with
    | none => dlg
    | some uri =>
      if dlg.remoteContact.all fun known => uriCmp known uri = false then
        { dlg with remoteContact := some uri, target := uri }
      else dlg
  else dlg

/-- `pjsip_dlg_on_rx_request`, up to the reports to the usages. `created` is what
`pjsip_tsx_create_uas2` returned, `claims` what the usages that have an `on_rx_request` answer,
and `uriCmp` whether two URIs are the same in a request line. -/
def onRxRequest (uriCmp : List UInt8 → List UInt8 → Bool) (dlg : Dialog) (rdata : RxRequest)
    (created : SipStatus) (claims : List Bool) : Dialog × Reception :=
  if rdata.cseq ≤ dlg.remoteCseq ∧ rdata.method.id ≠ .ack ∧ rdata.method.id ≠ .cancel then
    (dlg, .invalidCseq)
  else
    let dlg := { dlg with remoteCseq := rdata.cseq }
    let dlg := if dlg.remoteTag = [] then { dlg with remoteTag := rdata.fromTag } else dlg
    if rdata.hasTsx = false ∧ rdata.method.id ≠ .ack then
      if created ≠ .success then (dlg, .refused created)
      else
        (refreshTarget uriCmp { dlg with tsxCount := dlg.tsxCount + 1 } rdata,
          .reported (claims.any id))
    else (refreshTarget uriCmp dlg rdata, .reported (claims.any id))

/-- What happens to a dialog. -/
inductive DlgAct where
  | sendRequest (tdata : TxData) (created : SipStatus)
  | rxRequest (rdata : RxRequest) (created : SipStatus) (claims : List Bool)
  | tsxTerminated
  deriving DecidableEq, Repr

/-- A dialog with the numbers it has seen, the latest first. -/
structure History where
  dlg : Dialog
  /-- Of the requests it numbered: all but ACK and CANCEL. -/
  sent : List Int := []
  /-- Of the requests it passed to the usages, ACK and CANCEL apart. -/
  passed : List Int := []
  /-- The values of `remote.cseq`. -/
  remotes : List Int
  deriving DecidableEq, Repr

def History.start (dlg : Dialog) : History where
  dlg
  remotes := [dlg.remoteCseq]

/-- `pjsip_dlg_send_request` takes a number for this request. -/
def numbers (tdata : TxData) : Bool :=
  tdata.isRequest && !exempt tdata.method && tdata.cseq.isSome

def History.sending (h : History) (tdata : TxData) (dlg : Dialog) : History := { h with
  dlg
  sent := if numbers tdata then h.dlg.localCseq :: h.sent else h.sent }

def History.received (h : History) (rdata : RxRequest) (dlg : Dialog) (reception : Reception) :
    History := { h with
  dlg
  passed := match reception with
    | .reported _ => if exempt rdata.method then h.passed else rdata.cseq :: h.passed
    | _ => h.passed
  remotes := dlg.remoteCseq :: h.remotes }

/-- `pjsip_dlg_on_tsx_state`, for a transaction that terminated. -/
def Dialog.tsxTerminated (dlg : Dialog) : Dialog := { dlg with tsxCount := dlg.tsxCount - 1 }

def History.step (uriCmp : List UInt8 → List UInt8 → Bool) (h : History) :
    DlgAct → Option (History × Unit)
  | .sendRequest tdata created => some (h.sending tdata (sendRequest h.dlg tdata created).1, ())
  | .rxRequest rdata created claims =>
    let result := onRxRequest uriCmp h.dlg rdata created claims
    some (h.received rdata result.1 result.2, ())
  | .tsxTerminated => some ({ h with dlg := h.dlg.tsxTerminated }, ())

/-- The numbers have come in order. -/
structure InOrder (h : History) : Prop where
  sent : h.sent.Pairwise (· > ·)
  passed : h.passed.Pairwise (· > ·)
  remotes : h.remotes.Pairwise (· ≥ ·)

/-- A step that keeps the order: a number is taken before the counter has come round, and an ACK
or a CANCEL does not carry a number below the last. -/
def Orderly (h : History) : DlgAct → Prop
  | .sendRequest tdata _ => numbers tdata = true → h.dlg.localCseq = -2 ^ 31 → h.sent = []
  | .rxRequest rdata _ _ => exempt rdata.method = true → h.dlg.remoteCseq ≤ rdata.cseq
  | .tsxTerminated => True

section Order

variable {uriCmp : List UInt8 → List UInt8 → Bool}

theorem sendRequest_localCseq (dlg : Dialog) (tdata : TxData) (created : SipStatus) :
    (sendRequest dlg tdata created).1.localCseq
      = if numbers tdata then i32 (dlg.localCseq + 1) else dlg.localCseq := by
  cases isRequest : tdata.isRequest <;> cases skipped : exempt tdata.method <;>
    cases carried : tdata.cseq <;> simp [sendRequest, numbers, isRequest, skipped, carried] <;>
    split <;> (try split) <;> rfl

theorem sendRequest_frame (dlg : Dialog) (tdata : TxData) (created : SipStatus) :
    (sendRequest dlg tdata created).1.remoteCseq = dlg.remoteCseq
      ∧ (sendRequest dlg tdata created).1.remoteTag = dlg.remoteTag := by
  cases isRequest : tdata.isRequest <;> cases skipped : exempt tdata.method <;>
    cases carried : tdata.cseq <;> simp [sendRequest, isRequest, skipped, carried] <;>
    split <;> (try split) <;> exact ⟨rfl, rfl⟩

theorem refreshTarget_frame (dlg : Dialog) (rdata : RxRequest) :
    (refreshTarget uriCmp dlg rdata).localCseq = dlg.localCseq
      ∧ (refreshTarget uriCmp dlg rdata).remoteCseq = dlg.remoteCseq
      ∧ (refreshTarget uriCmp dlg rdata).remoteTag = dlg.remoteTag := by
  unfold refreshTarget
  split
  · split
    · exact ⟨rfl, rfl, rfl⟩
    · split <;> exact ⟨rfl, rfl, rfl⟩
  · exact ⟨rfl, rfl, rfl⟩

theorem not_exempt_iff {method : Method} :
    exempt method = false ↔ method.id ≠ .ack ∧ method.id ≠ .cancel := by
  simp only [exempt, Bool.or_eq_false_iff, decide_eq_false_iff_not]
  exact and_comm

theorem onRxRequest_cases (dlg : Dialog) (rdata : RxRequest) (created : SipStatus)
    (claims : List Bool) :
    (exempt rdata.method = false ∧ rdata.cseq ≤ dlg.remoteCseq
        ∧ onRxRequest uriCmp dlg rdata created claims = (dlg, .invalidCseq))
      ∨ ((exempt rdata.method = false → dlg.remoteCseq < rdata.cseq)
        ∧ (onRxRequest uriCmp dlg rdata created claims).1.localCseq = dlg.localCseq
        ∧ (onRxRequest uriCmp dlg rdata created claims).1.remoteCseq = rdata.cseq) := by
  unfold onRxRequest
  split
  · next old => exact .inl ⟨not_exempt_iff.2 old.2, old.1, rfl⟩
  · next fresh =>
    refine .inr ⟨fun counts => ?_, ?_⟩
    · have kind := not_exempt_iff.1 counts
      exact Int.not_le.1 fun old => fresh ⟨old, kind.1, kind.2⟩
    · -- the tag and the target are all that changes besides the number and the count
      have tagged : ∀ dlg' : Dialog,
          (if dlg'.remoteTag = [] then { dlg' with remoteTag := rdata.fromTag } else dlg').localCseq
            = dlg'.localCseq
          ∧ (if dlg'.remoteTag = [] then { dlg' with remoteTag := rdata.fromTag }
            else dlg').remoteCseq = dlg'.remoteCseq := by
        intro dlg'
        split <;> exact ⟨rfl, rfl⟩
      obtain ⟨localCseq, remoteCseq⟩ := tagged { dlg with remoteCseq := rdata.cseq }
      dsimp only at localCseq remoteCseq ⊢
      split
      · split
        · exact ⟨localCseq, remoteCseq⟩
        · simp only [refreshTarget_frame]
          exact ⟨localCseq, remoteCseq⟩
      · simp only [refreshTarget_frame]
        exact ⟨localCseq, remoteCseq⟩

/-- Where the counters stand while the numbers are in order. -/
structure Settled (h : History) : Prop where
  ahead : h.dlg.localCseq ≠ -2 ^ 31 → ∀ n ∈ h.sent, n < h.dlg.localCseq
  within : ∀ n ∈ h.sent, -2 ^ 31 ≤ n
  behind : ∀ n ∈ h.passed, n ≤ h.dlg.remoteCseq
  latest : h.remotes.head? = some h.dlg.remoteCseq

variable {h h' : History} {created : SipStatus}

theorem step_sendRequest {tdata : TxData}
    (taken : h.step uriCmp (.sendRequest tdata created) = some (h', ())) :
    h' = h.sending tdata (sendRequest h.dlg tdata created).1 :=
  (Prod.mk.inj (Option.some.inj taken)).1.symm

theorem step_rxRequest {rdata : RxRequest} {claims : List Bool}
    (taken : h.step uriCmp (.rxRequest rdata created claims) = some (h', ())) :
    (exempt rdata.method = false ∧ h' = h.received rdata h.dlg .invalidCseq)
      ∨ ∃ dlg reception, (exempt rdata.method = false → h.dlg.remoteCseq < rdata.cseq)
        ∧ dlg.localCseq = h.dlg.localCseq ∧ dlg.remoteCseq = rdata.cseq
        ∧ h' = h.received rdata dlg reception := by
  have eq := (Prod.mk.inj (Option.some.inj taken)).1.symm
  rcases onRxRequest_cases h.dlg rdata created claims with
    ⟨counts, _, invalid⟩ | ⟨fresh, localCseq, remoteCseq⟩
  · rw [invalid] at eq
    exact .inl ⟨counts, eq⟩
  · exact .inr ⟨_, _, fresh, localCseq, remoteCseq, eq⟩

theorem InOrder.before {act : DlgAct} (ordered : InOrder h')
    (taken : h.step uriCmp act = some (h', ())) : InOrder h := by
  obtain ⟨sent, passed, remotes⟩ := ordered
  cases act with
  | sendRequest tdata created =>
    rw [step_sendRequest taken] at sent passed remotes
    refine ⟨?_, passed, remotes⟩
    simp only [History.sending] at sent
    split at sent
    · exact sent.of_cons
    · exact sent
  | rxRequest rdata created claims =>
    have before : ∀ dlg reception, h' = h.received rdata dlg reception → InOrder h := by
      rintro dlg reception rfl
      refine ⟨sent, ?_, remotes.of_cons⟩
      cases reception with
      | invalidCseq => exact passed
      | refused => exact passed
      | reported =>
        simp only [History.received] at passed
        split at passed
        · exact passed
        · exact passed.of_cons
    rcases step_rxRequest taken with ⟨_, eq⟩ | ⟨dlg, reception, _, _, _, eq⟩
    · exact before _ _ eq
    · exact before _ _ eq
  | tsxTerminated =>
    cases taken
    exact ⟨sent, passed, remotes⟩

theorem Settled.number (settled : Settled h) :
    (∀ n ∈ h.sent, h.dlg.localCseq > n) ↔ (h.dlg.localCseq = -2 ^ 31 → h.sent = []) := by
  constructor
  · intro above lowest
    cases sent : h.sent with
    | nil => rfl
    | cons n rest =>
      have mem : n ∈ h.sent := by simp [sent]
      have least := settled.within n mem
      have beyond := above n mem
      omega
  · intro fresh n mem
    by_cases lowest : h.dlg.localCseq = -2 ^ 31
    · rw [fresh lowest] at mem
      nomatch mem
    · exact settled.ahead lowest n mem

theorem Settled.remotes_le (settled : Settled h) (ordered : InOrder h) {m : Int}
    (mem : m ∈ h.remotes) : m ≤ h.dlg.remoteCseq := by
  have latest := settled.latest
  have sorted := ordered.remotes
  cases remotes : h.remotes with
  | nil => simp [remotes] at mem
  | cons first rest =>
    rw [remotes] at latest sorted mem
    have head : first = h.dlg.remoteCseq := Option.some.inj latest
    rcases List.mem_cons.1 mem with rfl | earlier
    · omega
    · have below := (List.pairwise_cons.1 sorted).1 m earlier
      omega

theorem Settled.send {tdata : TxData} (settled : Settled h)
    (ordered : InOrder (h.sending tdata (sendRequest h.dlg tdata created).1)) :
    Settled (h.sending tdata (sendRequest h.dlg tdata created).1) := by
  obtain ⟨low, high⟩ := h.dlg.counter
  have sent := ordered.sent
  simp only [History.sending] at sent
  refine ⟨?_, ?_, ?_, ?_⟩ <;> simp only [History.sending]
  · rw [sendRequest_localCseq]
    split
    · next takes =>
      rw [if_pos takes] at sent
      intro still n mem
      -- the counter moved by one, or it came round
      have moved : i32 (h.dlg.localCseq + 1) = h.dlg.localCseq + 1 := by
        refine i32_of_bounds (by omega) ?_
        by_contra top
        refine still ?_
        rw [show h.dlg.localCseq + 1 = 2 ^ 31 by omega]
        decide
      rcases List.mem_cons.1 mem with rfl | earlier
      · omega
      · have below := (List.pairwise_cons.1 sent).1 n earlier
        omega
    · exact settled.ahead
  · split
    · intro n mem
      rcases List.mem_cons.1 mem with rfl | earlier
      · exact low
      · exact settled.within n earlier
    · exact settled.within
  · rw [(sendRequest_frame ..).1]
    exact settled.behind
  · rw [(sendRequest_frame ..).1]
    exact settled.latest

theorem Settled.receive {rdata : RxRequest} {dlg : Dialog} {reception : Reception}
    (settled : Settled h) (localCseq : dlg.localCseq = h.dlg.localCseq)
    (least : h.dlg.remoteCseq ≤ dlg.remoteCseq)
    (reported : ∀ claimed, reception = .reported claimed → dlg.remoteCseq = rdata.cseq) :
    Settled (h.received rdata dlg reception) := by
  have behind : ∀ n ∈ h.passed, n ≤ dlg.remoteCseq := by
    intro n mem
    have below := settled.behind n mem
    omega
  refine ⟨?_, settled.within, ?_, rfl⟩
  · show dlg.localCseq ≠ -2 ^ 31 → ∀ n ∈ h.sent, n < dlg.localCseq
    rw [localCseq]
    exact settled.ahead
  · cases reception with
    | invalidCseq => exact behind
    | refused => exact behind
    | reported claimed =>
      simp only [History.received]
      split
      · exact behind
      · rw [List.forall_mem_cons]
        exact ⟨Int.le_of_eq (reported claimed rfl).symm, behind⟩

theorem Settled.next {act : DlgAct} (settled : Settled h) (ordered : InOrder h')
    (taken : h.step uriCmp act = some (h', ())) : Settled h' := by
  cases act with
  | sendRequest tdata created =>
    obtain rfl := step_sendRequest taken
    exact settled.send ordered
  | rxRequest rdata created claims =>
    rcases step_rxRequest taken with ⟨_, rfl⟩ | ⟨dlg, reception, _, localCseq, remoteCseq, rfl⟩
    · exact settled.receive rfl (Int.le_refl _) nofun
    · have latest : h.dlg.remoteCseq ∈ h.remotes := List.mem_of_head? settled.latest
      have risen := (List.pairwise_cons.1 ordered.remotes).1 _ latest
      exact settled.receive localCseq risen fun _ _ => remoteCseq
  | tsxTerminated =>
    cases taken
    exact { settled with }

theorem inOrder_step {act : DlgAct} (settled : Settled h) (ordered : InOrder h)
    (taken : h.step uriCmp act = some (h', ())) : InOrder h' ↔ Orderly h act := by
  cases act with
  | sendRequest tdata created =>
    obtain rfl := step_sendRequest taken
    have counter := settled.number
    constructor
    · intro after takes
      have sent := after.sent
      simp only [History.sending, takes, if_true] at sent
      exact counter.1 (List.pairwise_cons.1 sent).1
    · intro orderly
      refine ⟨?_, ordered.passed, ordered.remotes⟩
      simp only [History.sending]
      split
      · next takes => exact List.pairwise_cons.2 ⟨counter.2 (orderly takes), ordered.sent⟩
      · exact ordered.sent
  | rxRequest rdata created claims =>
    have risen : ∀ {dlg : Dialog}, h.dlg.remoteCseq ≤ dlg.remoteCseq →
        (dlg.remoteCseq :: h.remotes).Pairwise (· ≥ ·) := by
      intro dlg least
      refine List.pairwise_cons.2 ⟨fun m mem => ?_, ordered.remotes⟩
      exact Int.le_trans (settled.remotes_le ordered mem) least
    rcases step_rxRequest taken with
      ⟨counts, rfl⟩ | ⟨dlg, reception, fresh, _, remoteCseq, rfl⟩
    · -- the number is not taken over, and the request not passed on
      refine iff_of_true ⟨ordered.sent, ordered.passed, risen (Int.le_refl _)⟩ ?_
      intro skipped
      rw [counts] at skipped
      cases skipped
    · constructor
      · intro after _
        have latest : h.dlg.remoteCseq ∈ h.remotes := List.mem_of_head? settled.latest
        have least := (List.pairwise_cons.1 after.remotes).1 _ latest
        rwa [remoteCseq] at least
      · intro orderly
        have least : h.dlg.remoteCseq ≤ rdata.cseq := by
          cases kind : exempt rdata.method with
          | true => exact orderly kind
          | false => exact Int.le_of_lt (fresh kind)
        refine ⟨ordered.sent, ?_, risen (remoteCseq ▸ least)⟩
        cases reception with
        | invalidCseq => exact ordered.passed
        | refused => exact ordered.passed
        | reported =>
          simp only [History.received]
          split
          · exact ordered.passed
          · next counts =>
            have greater := fresh (Bool.not_eq_true _ ▸ counts)
            refine List.pairwise_cons.2 ⟨fun n mem => ?_, ordered.passed⟩
            exact Int.lt_of_le_of_lt (settled.behind n mem) greater
  | tsxTerminated =>
    cases taken
    exact iff_of_true { ordered with } trivial

/-- The numbers of a dialog stay in order, in both directions, exactly as long as every step is
orderly. -/
theorem dlgCseq_inOrder_iff (uriCmp : List UInt8 → List UInt8 → Bool) (dlg : Dialog)
    (acts : List DlgAct) :
    Throughout (History.step uriCmp) InOrder (.start dlg) acts
      ↔ Along (History.step uriCmp) Orderly (.start dlg) acts := by
  have allowed : Along (History.step uriCmp) (fun _ _ => True) (.start dlg) acts := by
    generalize History.start dlg = h
    induction acts generalizing h with
    | nil => trivial
    | cons _ _ ih => exact ⟨trivial, fun next _ _ => ih next⟩
  refine allowed.throughout_iff (fun h act (settled : InOrder h → Settled h) _ => ?_) ?_ ?_ ?_
  · obtain ⟨h', taken⟩ : ∃ h', h.step uriCmp act = some (h', ()) := by
      cases act <;> exact ⟨_, rfl⟩
    refine ⟨h', (), taken, fun after => ?_⟩
    exact (settled (after.before taken)).next after taken
  · intro h act h' _ settled ordered _ taken
    exact inOrder_step (settled ordered) ordered taken
  · exact fun _ => ⟨nofun, nofun, nofun, rfl⟩
  · exact ⟨.nil, .nil, List.pairwise_singleton ..⟩

end Order

def inDialog (method : Method) (cseq : Int) : DlgAct :=
  .rxRequest ⟨method, cseq, method, [0x61], none, false⟩ .success [true]

/-- A request that has been handled is accepted again after a retransmitted ACK. -/
theorem dlgCseq_replayed :
    ¬ ∀ (uriCmp : List UInt8 → List UInt8 → Bool) (dlg : Dialog) (acts : List DlgAct),
      Throughout (History.step uriCmp) InOrder (.start dlg) acts := by
  intro claim
  let info : Method := ⟨.other, ascii "INFO".toList⟩
  let invite : RxRequest := ⟨⟨.invite, []⟩, 10, ⟨.invite, []⟩, [0x61], some [0x62], false⟩
  obtain ⟨h, done, ordered⟩ := (claim (fun _ _ => true) (createUas 7 invite [0x62])
    [inDialog info 11, inDialog ⟨.ack, []⟩ 10, inDialog info 11]).last
  have passed : h.passed = [11, 11] := by
    have runs : (exec (History.step fun _ _ => true) (.start (createUas 7 invite [0x62]))
        [inDialog info 11, inDialog ⟨.ack, []⟩ 10, inDialog info 11]).map History.passed
        = some [11, 11] := by
      decide +kernel
    rw [done] at runs
    exact Option.some.inj runs
  have sorted := ordered.passed
  rw [passed] at sorted
  exact absurd ((List.pairwise_cons.1 sorted).1 11 (List.mem_singleton_self _)) (by decide)

end Pjsip.Sip.Dlg
