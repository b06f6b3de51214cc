import Pjsip.Errno

/-!
# Where a request is sent (`sip_util.c`)

The destination of a request is looked for twice: by `pjsip_get_request_dest` when its
transaction is created, and by `pjsip_process_route_set` when it is sent. Of the destination
only this matters here, that there is one.
-/

namespace Pjsip.Sip.Lifetime

/-- The scheme of a URI. -/
inductive Scheme where
  | sip | sips | other
  deriving DecidableEq, Repr

structure Uri where
  scheme : Scheme
  /-- `lr_param` -/
  lrParam : Bool := false
  deriving DecidableEq, Repr

/-- The request line and the Route headers of a request. -/
structure Routed where
  uri : Uri
  routes : List Uri := []
  savedStrictRoute : Option Uri := none
  deriving DecidableEq, Repr

/-- `PJSIP_ENOROUTESET` -/
def enorouteset : SipStatus := .other 171005

/-- What `pjsip_get_dest_info` depends on besides the URIs. -/
structure DestCfg where
  /-- `disable_tls_switch` of `pjsip_cfg` -/
  disableTlsSwitch : Bool := false
  /-- What comes of a URI of another scheme that is read as a `pjsip_sip_uri`, past its end. -/
  misread : SipStatus

/-- `pjsip_get_dest_info` -/
def getDestInfo (cfg : DestCfg) (target request : Uri) : SipStatus :=
  if target.scheme ≠ .other then .success
  -- For a request to a sips URI the scheme of the target is not looked at.
  else if cfg.disableTlsSwitch = false ∧ request.scheme = .sips then cfg.misread
  else enorouteset

def Routed.target (msg : Routed) : Uri := msg.routes.head?.getD msg.uri

/-- `pjsip_get_request_dest` -/
def getRequestDest (cfg : DestCfg) (msg : Routed) : SipStatus :=
  getDestInfo cfg msg.target msg.uri

/-- `pjsip_restore_strict_route_set` -/
def restoreStrictRouteSet (msg : Routed) : Routed :=
  match msg.savedStrictRoute, msg.routes with
  | none, _ => msg
  | some _, [] => { msg with savedStrictRoute := none }
  | some strict, first :: rest =>
    { uri := (first :: rest).getLast (List.cons_ne_nil first rest)
      routes := strict :: (first :: rest).dropLast }

/-- `pjsip_process_route_set` -/
def processRouteSet (cfg : DestCfg) (msg : Routed) : SipStatus × Routed :=
  let msg := restoreStrictRouteSet msg
  match msg.routes with
  | [] => (getDestInfo cfg msg.uri msg.uri, msg)
  | top :: rest =>
    if top.scheme ≠ .other ∧ top.lrParam then
      (getDestInfo cfg top msg.uri, msg)
    else
      let status := getDestInfo cfg top top
      if status ≠ .success then
        (status, { msg with routes := rest, savedStrictRoute := some top })
      else
        (status, { uri := top, routes := rest ++ [msg.uri], savedStrictRoute := some top })

/-- The target is one that can be resolved: the topmost Route, once a strict route is put back,
or the Request-URI is a SIP or SIPS URI. -/
def Routed.Resolvable (msg : Routed) : Prop :=
  (restoreStrictRouteSet msg).target.scheme ≠ .other

instance (msg : Routed) : Decidable msg.Resolvable := instDecidableNot

variable (cfg : DestCfg)

theorem getDestInfo_target {target : Uri} (known : target.scheme ≠ .other) (request : Uri) :
    getDestInfo cfg target request = .success := if_pos known

theorem getDestInfo_other {target : Uri} (unknown : target.scheme = .other) :
    getDestInfo cfg target target = enorouteset := by
  simp [getDestInfo, unknown]

theorem processRouteSet_success_iff (msg : Routed) :
    (processRouteSet cfg msg).1 = .success ↔ msg.Resolvable := by
  rw [processRouteSet, Routed.Resolvable]
  generalize restoreStrictRouteSet msg = msg
  rw [Routed.target]
  cases routes : msg.routes with
  | nil =>
    change _ ↔ msg.uri.scheme ≠ .other
    constructor
    · intro found unknown
      rw [getDestInfo_other cfg unknown] at found
      cases found
    · exact fun known => getDestInfo_target cfg known _
  | cons top rest =>
    change _ ↔ top.scheme ≠ .other
    by_cases known : top.scheme = .other
    · have failed : getDestInfo cfg top top ≠ .success := by
        rw [getDestInfo_other cfg known]
        nofun
      simp [known, failed]
    · have found := getDestInfo_target cfg known
      simp only [ne_eq, known, not_false_eq_true, true_and, iff_true]
      split
      · exact found msg.uri
      · simp [found top]

end Pjsip.Sip.Lifetime
