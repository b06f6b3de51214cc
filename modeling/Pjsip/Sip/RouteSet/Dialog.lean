import Pjsip.Sip.Dialog
import Pjsip.Sip.RouteSet.Model

/-!
# Responses to a dialog (`sip_dialog.c`)

What a client dialog takes from the responses to its requests: the tag of the remote party, the
route set and the target. A response of a fork changes all of them until one of class 2xx has
come.
-/

namespace Pjsip.Sip.Dlg

open Pjsip.Pjlib Pjsip.Sip.RouteSet

/-- `pjsip_dialog_state` -/
inductive DlgState where
  | null | established
  deriving DecidableEq, Repr

inductive RxHdr where
  | recordRoute (hdr : RouteHdr)
  | other (text : List UInt8)
  deriving DecidableEq, Repr

def RxHdr.recordRoute? : RxHdr → Option RouteHdr
  | .recordRoute hdr => some hdr
  | .other _ => none

/-- What is read of a response. -/
structure RxResponse where
  code : Nat
  /-- The method of the CSeq header. -/
  method : Method
  toTag : List UInt8
  hdrs : List RxHdr
  /-- The URI of its Contact header. -/
  contact : Option (List UInt8)
  /-- It came over a transport of direction `PJSIP_TP_DIR_OUTGOING`. -/
  tpOutgoing : Bool
  /-- The host of that transport's `remote_name`. -/
  tpRemoteHost : List UInt8
  deriving DecidableEq, Repr

/-- The part of `pjsip_dialog` that responses read or change. -/
structure RoutedDialog where
  dlg : Dialog
  role : Role
  state : DlgState
  uacHas2xx : Bool
  routeSetFrozen : Bool
  routeSet : List RouteHdr
  initialDest : List UInt8
  deriving DecidableEq, Repr

/-- The Record-Route headers of a message from the last to the first, made Route headers. -/
def routeSetOf (hdrs : List RxHdr) : List RouteHdr := hdrs.reverse.filterMap RxHdr.recordRoute?

/-- A dialog as `pjsip_dlg_create_uac2` leaves it, and perhaps `pjsip_dlg_set_route_set`. -/
def RoutedDialog.createUac (rand : Nat) (target : List UInt8) (routeSet : List RouteHdr) :
    RoutedDialog where
  dlg := Dlg.createUac rand target
  role := .uac
  state := .null
  uacHas2xx := false
  routeSetFrozen := false
  routeSet
  initialDest := []

/-- `pjsip_dlg_fork`, for a response with a Contact. -/
def RoutedDialog.fork (first : RoutedDialog) (rdata : RxResponse) (contact : List UInt8) :
    RoutedDialog where
  dlg := Dlg.fork first.dlg rdata.toTag contact
  role := .uac
  state := .established
  uacHas2xx := false
  routeSetFrozen := false
  routeSet := routeSetOf rdata.hdrs
  initialDest := []

def updateMethod : Method := ⟨.other, ascii "UPDATE".toList⟩

/-- The URI of a Contact is the new target, unless it is the target already. -/
def Dialog.updateTarget (uriCmp : List UInt8 → List UInt8 → Bool) (dlg : Dialog)
    (contact : Option (List UInt8)) : Dialog :=
  match contact with
  | none => dlg
  | some uri =>
    if dlg.remoteContact.all fun known => uriCmp known uri = false then
      { dlg with remoteContact := some uri, target := uri }
    else dlg

namespace RoutedDialog

/-- `dlg_update_routeset`, which is called for responses only. -/
def dlgUpdateRouteset (dlg : RoutedDialog) (rdata : RxResponse) : RoutedDialog :=
  if dlg.routeSetFrozen then dlg
  -- The response to an UPDATE does not count.
  else if methodCmp rdata.method updateMethod then dlg
  else
    let dlg :=
      if dlg.role = .uac then
        { dlg with initialDest := if rdata.tpOutgoing then rdata.tpRemoteHost else [] }
      else dlg
    if rdata.code ≥ 300 then dlg
    else
      let dlg := { dlg with routeSet := routeSetOf rdata.hdrs }
      if methodCreatesDialog rdata.method ∧ rdata.code / 100 = 2 then
        { dlg with routeSetFrozen := true }
      else dlg

/-- Whether a response establishes the dialog, or is one of another fork. -/
def establishes (dlg : RoutedDialog) (rdata : RxResponse) : Bool :=
  (dlg.state = .null && methodCreatesDialog rdata.method && (100 < rdata.code && rdata.code < 300))
    || (dlg.role = .uac && !dlg.uacHas2xx && 100 < rdata.code && rdata.code / 100 ≤ 2
      && methodCreatesDialog rdata.method && !sameTag dlg.dlg.remoteTag rdata.toTag)

/-- What `pjsip_dlg_on_rx_response` does with such a response. -/
def establish (uriCmp : List UInt8 → List UInt8 → Bool) (dlg : RoutedDialog)
    (rdata : RxResponse) : RoutedDialog :=
  let dlg := { dlg with dlg := { dlg.dlg with remoteTag := rdata.toTag } }
  let dlg := dlg.dlgUpdateRouteset rdata
  let dlg := { dlg with dlg := dlg.dlg.updateTarget uriCmp rdata.contact, state := .established }
  if dlg.role = .uac ∧ dlg.uacHas2xx = false ∧ rdata.code / 100 = 2 then
    { dlg with uacHas2xx := true }
  else dlg

/-- What it does with any 2xx response to a request that creates dialogs. -/
def confirm (uriCmp : List UInt8 → List UInt8 → Bool) (dlg : RoutedDialog)
    (rdata : RxResponse) : RoutedDialog :=
  let dlg := { dlg with dlg := dlg.dlg.updateTarget uriCmp rdata.contact }
  let dlg := dlg.dlgUpdateRouteset rdata
  if dlg.role = .uac ∧ dlg.uacHas2xx = false then { dlg with uacHas2xx := true } else dlg

/-- `pjsip_dlg_on_rx_response`, up to the reports to the usages. -/
def onRxResponse (uriCmp : List UInt8 → List UInt8 → Bool) (dlg : RoutedDialog)
    (rdata : RxResponse) : RoutedDialog :=
  let dlg := if dlg.establishes rdata then dlg.establish uriCmp rdata else dlg
  if methodCreatesDialog rdata.method ∧ rdata.code / 100 = 2 then dlg.confirm uriCmp rdata
  else dlg

/-- `dlg_beautify_response`, for a response that is made in the dialog. -/
def beautifyResponse (dlg : RoutedDialog) (stCode : Nat) : RoutedDialog :=
  if stCode ≠ 100 ∧ dlg.state = .null then { dlg with state := .established } else dlg

end RoutedDialog

/-- What happens to a dialog that receives responses. -/
inductive DlgEvent where
  | response (rdata : RxResponse)
  /-- A request that came in is answered, by a usage or for want of one. -/
  | answer (stCode : Nat)
  | act (act : DlgAct)
  deriving DecidableEq, Repr

/-- The sequence numbers, the tag and the target after such a step. -/
def Dialog.act (uriCmp : List UInt8 → List UInt8 → Bool) (dlg : Dialog) : DlgAct → Dialog
  | .sendRequest tdata created => (sendRequest dlg tdata created).1
  | .rxRequest rdata created claims => (onRxRequest uriCmp dlg rdata created claims).1
  | .tsxTerminated => dlg.tsxTerminated

def RoutedDialog.step (uriCmp : List UInt8 → List UInt8 → Bool) (dlg : RoutedDialog) :
    DlgEvent → RoutedDialog
  | .response rdata => dlg.onRxResponse uriCmp rdata
  | .answer stCode => dlg.beautifyResponse stCode
  | .act act => { dlg with dlg := dlg.dlg.act uriCmp act }

def RoutedDialog.run (uriCmp : List UInt8 → List UInt8 → Bool) (dlg : RoutedDialog)
    (events : List DlgEvent) : RoutedDialog :=
  events.foldl (step uriCmp) dlg

/-- The client dialogs there are, each with what has happened to it, the latest first. A dialog
that was forked has been given the response it was forked for: an INVITE is what forks. -/
inductive Client (uriCmp : List UInt8 → List UInt8 → Bool) : List DlgEvent → RoutedDialog → Prop
  | created (rand : Nat) (target : List UInt8) (routeSet : List RouteHdr) :
      Client uriCmp [] (.createUac rand target routeSet)
  | forked (first : RoutedDialog) (rdata : RxResponse) (contact : List UInt8)
      (invite : rdata.method.id = .invite) (known : 100 < rdata.code ∧ rdata.code < 300) :
      Client uriCmp [.response rdata] ((first.fork rdata contact).onRxResponse uriCmp rdata)
  | next {history : List DlgEvent} {dlg : RoutedDialog} (event : DlgEvent) :
      Client uriCmp history dlg → Client uriCmp (event :: history) (dlg.step uriCmp event)

/-! ## Responses that count -/

namespace RxResponse

/-- A 1xx response above 100 to a request that creates dialogs. -/
def provisional (rdata : RxResponse) : Bool :=
  methodCreatesDialog rdata.method && (100 < rdata.code && rdata.code < 200)

/-- A 2xx response to a request that creates dialogs. -/
def success (rdata : RxResponse) : Bool :=
  methodCreatesDialog rdata.method && rdata.code / 100 = 2

def isUpdate (rdata : RxResponse) : Bool := methodCmp rdata.method updateMethod

/-- The Record-Route headers, in the order of the message. -/
def recordRoutes (rdata : RxResponse) : List RouteHdr := rdata.hdrs.filterMap RxHdr.recordRoute?

end RxResponse

/-- The first 2xx response to a request that creates dialogs. -/
def firstSuccess : List DlgEvent → Option RxResponse
  | [] => none
  | .response rdata :: before =>
    (firstSuccess before).or (if rdata.success then some rdata else none)
  | _ :: before => firstSuccess before

/-- The first 2xx response to a request, other than UPDATE, that creates dialogs. -/
def firstFreezing : List DlgEvent → Option RxResponse
  | [] => none
  | .response rdata :: before =>
    (firstFreezing before).or (if rdata.success && !rdata.isUpdate then some rdata else none)
  | _ :: before => firstFreezing before

/-- The last 1xx response above 100 to a request that creates dialogs. -/
def lastProvisional : List DlgEvent → Option RxResponse
  | [] => none
  | .response rdata :: before => if rdata.provisional then some rdata else lastProvisional before
  | _ :: before => lastProvisional before

/-- A request with this From tag has come in. -/
def heard (tag : List UInt8) : List DlgEvent → Bool
  | [] => false
  | .act (.rxRequest rdata _ _) :: before => sameTag rdata.fromTag tag || heard tag before
  | _ :: before => heard tag before

/-- An answer has been sent that establishes the dialog. -/
def answered : List DlgEvent → Bool
  | [] => false
  | .answer stCode :: before => stCode ≠ 100 || answered before
  | _ :: before => answered before

/-- The dialog has been established, with this tag, by a request from the other side. -/
def learned (tag : List UInt8) (before : List DlgEvent) : Bool :=
  answered before && heard tag before

/-- A provisional response, not to an UPDATE, that brings another To tag than the one before it. -/
def brings (before : List DlgEvent) (rdata : RxResponse) : Bool :=
  rdata.provisional && !rdata.isUpdate && (firstSuccess before).isNone
    && match lastProvisional before with
      | some last => !sameTag last.toTag rdata.toTag
      | none => !learned rdata.toTag before

/-- The last of these. -/
def lastBringing : List DlgEvent → Option RxResponse
  | [] => none
  | .response rdata :: before =>
    if brings before rdata then some rdata else lastBringing before
  | _ :: before => lastBringing before

/-- A response that comes before any of class 2xx to a request that creates dialogs. A response to
an UPDATE is not the first of that class, and brings the tag that is known; no other brings, as
the first provisional one, the tag of a dialog that is established already. -/
def regular (before : List DlgEvent) (rdata : RxResponse) : Bool :=
  if rdata.isUpdate then
    !rdata.success && (!rdata.provisional
      || (lastProvisional before).any (sameTag ·.toTag rdata.toTag))
  else !rdata.provisional || (lastProvisional before).isSome || !learned rdata.toTag before

/-- All responses before the first of class 2xx are regular. -/
def Regular : List DlgEvent → Bool
  | [] => true
  | .response rdata :: before =>
    ((firstSuccess before).isSome || regular before rdata) && Regular before
  | _ :: before => Regular before

end Pjsip.Sip.Dlg
