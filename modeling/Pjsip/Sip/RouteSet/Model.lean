import Pjsip.Sip.Lifetime.Routing

/-!
# The route set of a request (`sip_util.c`)

When a request is sent whose first Route is a strict one, that Route becomes the Request-URI and
the Request-URI the last Route. The Route that was taken away is kept in the transmit data, so
that the change can be undone when the request is sent again.
-/

namespace Pjsip.Sip.RouteSet

open Pjsip.Sip.Lifetime

structure SipUri where
  /-- The scheme is `sips`. -/
  secure : Bool := false
  lrParam : Bool := false
  maddrParam : List UInt8 := []
  host : List UInt8
  port : Nat := 0
  transportParam : List UInt8 := []
  deriving DecidableEq, Repr

/-- A URI object; `addr` is where it is in memory. -/
inductive PjUri where
  | sip (addr : Nat) (uri : SipUri)
  | other (addr : Nat) (text : List UInt8)
  /-- `pjsip_name_addr` -/
  | nameAddr (display : List UInt8) (uri : PjUri)
  deriving DecidableEq, Repr

/-- `pjsip_uri_get_uri` -/
def PjUri.getUri : PjUri → PjUri
  | .nameAddr _ uri => uri.getUri
  | uri => uri

/-- `pjsip_uri_get_scheme`, as far as it is looked at. -/
def PjUri.scheme (uri : PjUri) : Scheme :=
  match uri.getUri with
  | .sip _ url => if url.secure then .sips else .sip
  | _ => .other

/-- The two are one object. -/
def PjUri.sameObject : PjUri → PjUri → Bool
  | .sip addr _, .sip addr' _ | .sip addr _, .other addr' _ | .other addr _, .sip addr' _
  | .other addr _, .other addr' _ => addr = addr'
  | _, _ => false

/-- `pjsip_route_hdr` -/
structure RouteHdr where
  /-- `name_addr.display` -/
  display : List UInt8 := []
  /-- `name_addr.uri` -/
  uri : PjUri
  otherParam : List UInt8 := []
  deriving DecidableEq, Repr

inductive Hdr where
  | route (hdr : RouteHdr)
  | other (text : List UInt8)
  deriving DecidableEq, Repr

def Hdr.isRoute : Hdr → Bool
  | .route _ => true
  | .other _ => false

def Hdr.route? : Hdr → Option RouteHdr
  | .route hdr => some hdr
  | .other _ => none

/-- The headers that `pjsip_msg_find_hdr` finds for `PJSIP_H_ROUTE`, one after the other. -/
def routesOf (hdrs : List Hdr) : List RouteHdr := hdrs.filterMap Hdr.route?

def eraseFirst (hdrs : List Hdr) : List Hdr := hdrs.eraseP Hdr.isRoute

/-- A Route is put before the first one. -/
def insertBeforeFirst (new : RouteHdr) : List Hdr → List Hdr
  | [] => []
  | hdr :: rest =>
    if hdr.isRoute then .route new :: hdr :: rest else hdr :: insertBeforeFirst new rest

/-- A Route is put after the last one. -/
def insertAfterLast (new : RouteHdr) : List Hdr → List Hdr
  | [] => []
  | hdr :: rest =>
    if routesOf rest ≠ [] then hdr :: insertAfterLast new rest
    else if hdr.isRoute then hdr :: .route new :: rest
    else hdr :: rest

/-- The last Route is taken out. -/
def eraseLast : List Hdr → List Hdr
  | [] => []
  | hdr :: rest =>
    if routesOf rest ≠ [] then hdr :: eraseLast rest
    else if hdr.isRoute then rest
    else hdr :: rest

/-- The request in `pjsip_tx_data`. -/
structure TxRequest where
  uri : PjUri
  hdrs : List Hdr
  savedStrictRoute : Option RouteHdr := none
  /-- The type of the transport or listener that has been selected. -/
  tpSel : Option Nat := none
  deriving DecidableEq, Repr

def TxRequest.routes (tdata : TxRequest) : List RouteHdr := routesOf tdata.hdrs

/-- `pjsip_host_info` -/
structure HostInfo where
  flag : Nat
  type : Nat
  host : List UInt8
  port : Nat
  deriving DecidableEq, Repr

/-- What `sip_transport.c` knows about the types of transports, and the same of the destination as
in `DestCfg`. -/
structure TransportCfg where
  typeFromName : List UInt8 → Nat
  flagFromType : Nat → Nat
  typeFromFlag : Nat → Nat
  disableTlsSwitch : Bool
  misread : PjUri → Except SipStatus HostInfo

/-- `PJSIP_TRANSPORT_SECURE` -/
def transportSecure : Nat := 2

/-- `PJSIP_TRANSPORT_IPV6` -/
def transportIpv6 : Nat := 128

/-- The end of `pjsip_get_dest_info`: an address with a colon is one of IPv6. -/
def HostInfo.handleIpv6 (info : HostInfo) : HostInfo :=
  if info.type ≠ 0 ∧ info.host.contains 58 then { info with type := info.type ||| transportIpv6 }
  else info

/-- `pjsip_get_dest_info` -/
def getDestInfo (cfg : TransportCfg) (target request : PjUri) : Except SipStatus HostInfo :=
  match target.getUri with
  | .sip _ url =>
    let host := if url.maddrParam ≠ [] then url.maddrParam else url.host
    let type := cfg.typeFromName url.transportParam
    if url.secure ∨ cfg.disableTlsSwitch = false ∧ request.scheme = .sips then
      let type :=
        if cfg.flagFromType type &&& transportSecure ≠ transportSecure then
          let secure := cfg.typeFromFlag transportSecure
          if secure ≠ 0 then secure else type
        else type
      .ok (HostInfo.handleIpv6 ⟨cfg.flagFromType type, type, host, url.port⟩)
    else .ok (HostInfo.handleIpv6 ⟨cfg.flagFromType type, type, host, url.port⟩)
  | uri =>
    if cfg.disableTlsSwitch = false ∧ request.scheme = .sips then cfg.misread uri
    else .error enorouteset

/-- `has_lr_param` -/
def RouteHdr.loose (hdr : RouteHdr) : Bool :=
  match hdr.uri.getUri with
  | .sip _ url => url.lrParam
  | _ => false

namespace TxRequest

/-- `pjsip_restore_strict_route_set` -/
def restoreStrictRouteSet (tdata : TxRequest) : TxRequest :=
  match tdata.savedStrictRoute with
  | none => tdata
  | some strict =>
    match tdata.routes.getLast? with
    -- "Message route was modified?"
    | none => { tdata with savedStrictRoute := none }
    | some last =>
      { tdata with
        uri := last.uri
        hdrs := eraseLast (insertBeforeFirst strict tdata.hdrs)
        savedStrictRoute := none }

/-- The type of a selected transport is the type of the destination. -/
def selected (tdata : TxRequest) (info : HostInfo) : HostInfo :=
  match tdata.tpSel with
  | none => info
  | some type => { info with type }

/-- The Request-URI becomes the last Route, unless it is the new one already. -/
def replaceUri (tdata : TxRequest) (new : PjUri) : TxRequest :=
  if new.sameObject tdata.uri then tdata
  else
    let route : RouteHdr := { uri := tdata.uri.getUri }
    { tdata with
      hdrs :=
        if tdata.routes ≠ [] then insertAfterLast route tdata.hdrs
        else tdata.hdrs ++ [.route route]
      uri := new }

/-- `pjsip_process_route_set` -/
def processRouteSet (cfg : TransportCfg) (tdata : TxRequest) :
    TxRequest × Except SipStatus HostInfo :=
  let tdata := tdata.restoreStrictRouteSet
  match tdata.routes.head? with
  | none => (tdata, (getDestInfo cfg tdata.uri tdata.uri).map tdata.selected)
  | some first =>
    if first.loose then (tdata, (getDestInfo cfg first.uri tdata.uri).map tdata.selected)
    else
      let tdata := { tdata with
        hdrs := eraseFirst tdata.hdrs
        savedStrictRoute := some first }
      match getDestInfo cfg first.uri first.uri.getUri with
      | .error status => (tdata, .error status)
      | .ok info => (tdata.replaceUri first.uri.getUri, .ok (tdata.selected info))

end TxRequest

/-- What is done with a request before it is sent again. -/
inductive RouteAct where
  | process
  | restore
  deriving DecidableEq, Repr

def TxRequest.act (cfg : TransportCfg) (tdata : TxRequest) : RouteAct → TxRequest
  | .process => (tdata.processRouteSet cfg).1
  | .restore => tdata.restoreStrictRouteSet

/-- The request after such a sequence. -/
def TxRequest.acts (cfg : TransportCfg) (tdata : TxRequest) (acts : List RouteAct) : TxRequest :=
  acts.foldl (act cfg) tdata

/-! ## Route headers among others -/

section Lists

variable {hdrs : List Hdr} {new : RouteHdr}

@[simp] theorem routesOf_nil : routesOf [] = [] := rfl

@[simp] theorem routesOf_route (hdr : RouteHdr) (rest : List Hdr) :
    routesOf (.route hdr :: rest) = hdr :: routesOf rest := rfl

@[simp] theorem routesOf_other (text : List UInt8) (rest : List Hdr) :
    routesOf (.other text :: rest) = routesOf rest := rfl

@[simp] theorem routesOf_append (hdrs hdrs' : List Hdr) :
    routesOf (hdrs ++ hdrs') = routesOf hdrs ++ routesOf hdrs' :=
  List.filterMap_append

theorem routesOf_eraseFirst (hdrs : List Hdr) :
    routesOf (eraseFirst hdrs) = (routesOf hdrs).tail := by
  induction hdrs with
  | nil => rfl
  | cons hdr rest ih =>
    cases hdr with
    | route hdr => rfl
    | other text => exact ih

theorem routesOf_insertBeforeFirst (routed : routesOf hdrs ≠ []) :
    routesOf (insertBeforeFirst new hdrs) = new :: routesOf hdrs := by
  induction hdrs with
  | nil => exact absurd rfl routed
  | cons hdr rest ih =>
    cases hdr with
    | route hdr => rfl
    | other text => exact ih routed

theorem routesOf_insertAfterLast (routed : routesOf hdrs ≠ []) :
    routesOf (insertAfterLast new hdrs) = routesOf hdrs ++ [new] := by
  induction hdrs with
  | nil => exact absurd rfl routed
  | cons hdr rest ih =>
    rw [insertAfterLast]
    by_cases more : routesOf rest = []
    · rw [if_neg fun routed => routed more]
      cases hdr with
      | route hdr => simp [Hdr.isRoute, more]
      | other text => exact absurd more routed
    · rw [if_pos more]
      cases hdr with
      | route hdr => simp [ih more]
      | other text => exact ih more

theorem routesOf_eraseLast (hdrs : List Hdr) :
    routesOf (eraseLast hdrs) = (routesOf hdrs).dropLast := by
  induction hdrs with
  | nil => rfl
  | cons hdr rest ih =>
    rw [eraseLast]
    by_cases more : routesOf rest = []
    · rw [if_neg fun routed => routed more]
      cases hdr with
      | route hdr => simp [Hdr.isRoute, more]
      | other text => simp [Hdr.isRoute, more]
    · rw [if_pos more]
      cases hdr with
      | route hdr => rw [routesOf_route, routesOf_route, ih, List.dropLast_cons_of_ne_nil more]
      | other text => exact ih

end Lists

end Pjsip.Sip.RouteSet
