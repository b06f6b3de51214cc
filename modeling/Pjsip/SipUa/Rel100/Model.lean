import Mathlib.Algebra.Group.Nat.Defs
import Pjsip.Base.Run

/-!
# Reliable provisional responses (`sip_100rel.c`)

The server side of RFC 3262. Responses to the INVITE are passed to `pjsip_100rel_tx_response`;
provisional ones wait in a list until those before them have been acknowledged. One function sends
the first of the list, and again when the timer expires, and gives up the seventh time. Not in the
code is the log of what has happened, the latest first.
-/

namespace Pjsip.SipUa.Rel100

open Pjsip.Base

/-- What is read of a response; `id` tells the messages apart. -/
structure Response where
  id : Nat
  code : Nat
  body : Bool
  deriving DecidableEq, Repr

/-- `tx_data_list_t` -/
structure TxDataList where
  rseq : UInt32
  tdata : Response
  deriving DecidableEq, Repr

/-- `uas_state_t`; `timerId` is `retransmit_timer.id`, `timer` the delay in milliseconds that
the timer is scheduled for, if it is. -/
structure UasState where
  cseq : UInt32
  rseq : UInt32
  txDataList : List TxDataList
  retransmitCount : Nat
  timerId : Bool
  timer : Option Nat
  deriving DecidableEq, Repr

inductive Event where
  /-- Passed to the module, with its number if it is to be acknowledged. -/
  | passed (tdata : Response) (rseq : Option UInt32)
  /-- Handed to the transport. -/
  | sent (tdata : Response)
  /-- A PRACK came in, with these numbers in its RAck header. -/
  | prack (rseq cseq : UInt32)
  /-- Taken out of the list. -/
  | left (id : Nat)
  /-- The module itself answers the INVITE with 500. -/
  | timedOut
  deriving DecidableEq, Repr

/-- The state of the INVITE transaction, `proceeding` also before the first response. -/
inductive TsxState where
  | proceeding | completed | terminated
  deriving DecidableEq, Repr

/-- `dlg_data`, with the INVITE transaction, the log and the number of responses so far. -/
structure DlgData where
  uasState : Option UasState
  tsx : TsxState
  nextId : Nat
  log : List Event
  deriving DecidableEq, Repr

/-- What becomes of a message that is to be sent. -/
inductive Outcome where
  /-- It is handed to the transport. -/
  | sent
  /-- The transport fails, which a server transaction only logs. -/
  | failed
  /-- The transport fails, and the address of the client cannot be resolved anew. -/
  | unresolved
  deriving DecidableEq, Repr

/-- What does not change while the INVITE is being answered: its CSeq, what `pj_rand` returns
for the first RSeq, and the timer T1. -/
structure Invite where
  cseq : UInt32
  rand : Nat
  t1 : Nat
  deriving DecidableEq, Repr

def Invite.firstRseq (inv : Invite) : UInt32 := UInt32.ofNat (inv.rand % 0x7FFF + 1)

def initData : DlgData := ⟨none, .proceeding, 0, []⟩

/-! ## The RAck header -/

def isDigit (c : UInt8) : Bool := 48 ≤ c ∧ c ≤ 57

/-- `pj_strtoul`, converted to 32 bits. -/
def strtoul (token : List UInt8) : UInt32 :=
  token.foldl (fun value c => value * 10 + (c - 48).toUInt32) 0

/-- `parse_rack`, without the method, which is not looked at. -/
def parseRack (rack : List UInt8) : UInt32 × UInt32 :=
  let rest := (rack.dropWhile isDigit).drop 1
  (strtoul (rack.takeWhile isDigit), strtoul (rest.takeWhile isDigit))

/-! ## Sending -/

/-- A change of the server's state, if there is one. -/
def DlgData.mapUas (dd : DlgData) (f : UasState → UasState) : DlgData :=
  { dd with uasState := dd.uasState.map f }

/-- `clear_all_responses` -/
def clearAllResponses (dd : DlgData) : DlgData :=
  match dd.uasState with
  | some uas =>
    { dd with
      uasState := some { uas with txDataList := [] }
      log := (uas.txDataList.map fun tl => .left tl.tdata.id).reverse ++ dd.log }
  | none => dd

/-- The timer is cancelled if its id says that it runs. -/
def cancelTimer (dd : DlgData) : DlgData :=
  dd.mapUas fun uas => if uas.timerId then { uas with timer := none, timerId := false } else uas

/-- `pjsip_100rel_end_session`, called when the session is disconnected. -/
def pjsip100relEndSession (dd : DlgData) : DlgData := clearAllResponses (cancelTimer dd)

/-- `tsx_send_msg`; a server transaction is terminated only when the address of the client cannot
be resolved, and the session with it. -/
def tsxSendMsg (dd : DlgData) (tdata : Response) : Outcome → DlgData
  | .sent => { dd with log := .sent tdata :: dd.log }
  | .failed => dd
  | .unresolved => pjsip100relEndSession { dd with tsx := .terminated }

/-- `pjsip_tsx_send_msg`, and whether it succeeds: no response follows a final one. A 2xx
terminates the transaction, and any other final response disconnects the session. -/
def pjsipTsxSendMsg (dd : DlgData) (tdata : Response) (outcome : Outcome) : DlgData × Bool :=
  if dd.tsx ≠ .proceeding then (dd, false)
  else
    let dd := tsxSendMsg dd tdata outcome
    if dd.tsx = .terminated then (dd, false)
    else if 300 ≤ tdata.code then (pjsip100relEndSession { dd with tsx := .completed }, true)
    else if 200 ≤ tdata.code then ({ dd with tsx := .terminated }, true)
    else (dd, true)

/-- The delay after the `count`-th transmission. -/
def retransmitDelay (t1 count : Nat) : Nat := if count < 6 then 2 ^ count * t1 else 1500

/-- The INVITE is answered with 500 by `pjsip_inv_end_session`. -/
def giveUp (dd : DlgData) (outcome : Outcome) : DlgData :=
  let dd := clearAllResponses dd
  (pjsipTsxSendMsg { dd with nextId := dd.nextId + 1, log := .timedOut :: dd.log }
    ⟨dd.nextId, 500, false⟩ outcome).1

/-- `on_retransmit`; no result stands for the assertion that there is something to send. -/
def onRetransmit (inv : Invite) (dd : DlgData) (uas : UasState) (outcome : Outcome) :
    Option DlgData :=
  let count := uas.retransmitCount + 1
  let dd := { dd with uasState := some { uas with timerId := false, retransmitCount := count } }
  if 7 ≤ count then some (giveUp dd outcome)
  else
    match uas.txDataList with
    | [] => none
    | tl :: _ =>
      -- only the first time the transaction is asked, and a failure looked at
      let (dd, success) :=
        if count = 1 then pjsipTsxSendMsg dd tl.tdata outcome
        else (tsxSendMsg dd tl.tdata outcome, true)
      if success = false then some dd
      else if 200 ≤ tl.tdata.code then some (clearAllResponses dd)
      else
        some (dd.mapUas fun uas =>
          { uas with timer := some (retransmitDelay inv.t1 count), timerId := true })

def hasSdp (uas : UasState) : Bool := uas.txDataList.any fun tl => tl.tdata.body

/-- The state made for the first reliable response. -/
def newUasState (inv : Invite) : UasState where
  cseq := inv.cseq
  rseq := inv.firstRseq
  txDataList := []
  retransmitCount := 0
  timerId := false
  timer := none

/-- The provisional part of `pjsip_100rel_tx_response`. -/
def txProvisional (inv : Invite) (dd : DlgData) (tdata : Response) (outcome : Outcome) :
    Option DlgData :=
  let uas := dd.uasState.getD (newUasState inv)
  if inv.cseq ≠ uas.cseq then none
  else
    let dd := { dd with log := .passed tdata (some uas.rseq) :: dd.log }
    let queued := { uas with
      rseq := uas.rseq + 1
      txDataList := uas.txDataList ++ [⟨uas.rseq, tdata⟩] }
    if uas.txDataList ≠ [] then some { dd with uasState := some queued }
    else onRetransmit inv dd { queued with retransmitCount := 0 } outcome

/-- `pjsip_100rel_tx_response` -/
def pjsip100relTxResponse (inv : Invite) (dd : DlgData) (code : Nat) (body : Bool)
    (outcome : Outcome) : Option DlgData :=
  let tdata : Response := ⟨dd.nextId, code, body⟩
  let dd := { dd with nextId := dd.nextId + 1 }
  let noted := { dd with log := .passed tdata none :: dd.log }
  let send (dd : DlgData) := some (pjsipTsxSendMsg dd tdata outcome).1
  if code = 100 then send noted
  else if code / 100 = 2 then
    match dd.uasState with
    | some uas =>
      if hasSdp uas then
        some { noted with uasState := some { uas with
          txDataList := uas.txDataList ++ [⟨0xFFFFFFFF, tdata⟩] } }
      else send (clearAllResponses (cancelTimer noted))
    | none => send noted
  else if 300 ≤ code then
    match dd.uasState with
    | some uas => send (if uas.timerId then clearAllResponses (cancelTimer noted) else noted)
    | none => send noted
  else txProvisional inv dd tdata outcome

/-- `pjsip_100rel_on_rx_prack`; `rack` is the RAck header, if there is one. -/
def pjsip100relOnRxPrack (inv : Invite) (dd : DlgData) (rack : Option (List UInt8))
    (outcome : Outcome) : Option DlgData :=
  match rack with
  | none => some dd
  | some rack =>
    let (rseq, cseq) := parseRack rack
    let dd := { dd with log := .prack rseq cseq :: dd.log }
    match dd.uasState with
    | none => some dd
    | some uas =>
      match uas.txDataList with
      | [] => some dd
      | tl :: rest =>
        if rseq = tl.rseq ∧ cseq = uas.cseq then
          let dd := (cancelTimer dd).mapUas fun uas =>
            { uas with txDataList := rest, retransmitCount := 0 }
          let dd := { dd with log := .left tl.tdata.id :: dd.log }
          match dd.uasState with
          | some uas => if rest ≠ [] then onRetransmit inv dd uas outcome else some dd
          | none => some dd
        else some dd

/-- The retransmission timer expires, if it is scheduled. -/
def timerExpires (inv : Invite) (dd : DlgData) (outcome : Outcome) : Option DlgData :=
  match dd.uasState with
  | some uas =>
    if uas.timer.isSome then onRetransmit inv dd { uas with timer := none } outcome else some dd
  | none => some dd

/-- The transaction is terminated and the session disconnected from without. -/
def terminated (dd : DlgData) : DlgData :=
  if dd.tsx = .terminated then dd else pjsip100relEndSession { dd with tsx := .terminated }

/-- What can happen; `outcome` is that of a transmission, if there is one. -/
inductive Act where
  | txResponse (code : Nat) (body : Bool) (outcome : Outcome)
  | rxPrack (rack : Option (List UInt8)) (outcome : Outcome)
  | timeout (outcome : Outcome)
  | terminate
  deriving DecidableEq, Repr

def relStep (inv : Invite) (dd : DlgData) : Act → Option (DlgData × Unit)
  | .txResponse code body outcome =>
    (pjsip100relTxResponse inv dd code body outcome).map (·, ())
  | .rxPrack rack outcome => (pjsip100relOnRxPrack inv dd rack outcome).map (·, ())
  | .timeout outcome => (timerExpires inv dd outcome).map (·, ())
  | .terminate => some (terminated dd, ())

end Pjsip.SipUa.Rel100
