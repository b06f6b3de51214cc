import Pjsip.Sip.RouteSet.Model

/-!
# Strict routing is undone (`sip_util.c`)

A request whose strict Route has been dealt with is told from the original one by its last Route.
That this is the Request-URI that was moved there holds as long as the Request-URI is moved at
all: it is not if there is no destination, and not if the Route has the very URI of the request.
-/

namespace Pjsip.Sip.RouteSet

/-- The first Route is a strict one. -/
def TxRequest.Strict (tdata : TxRequest) (first : RouteHdr) : Prop :=
  tdata.routes.head? = some first ∧ first.loose = false

def TxRequest.moved (tdata : TxRequest) : RouteHdr := { uri := tdata.uri.getUri }

/-- The two requests are one, a name-addr around the Request-URI aside. -/
structure Alike (tdata tdata' : TxRequest) : Prop where
  uri : tdata'.uri.getUri = tdata.uri.getUri
  routes : tdata'.routes = tdata.routes
  tpSel : tdata'.tpSel = tdata.tpSel

/-- The request is the original one. -/
structure Restored (tdata tdata' : TxRequest) : Prop where
  alike : Alike tdata tdata'
  saved : tdata'.savedStrictRoute = none

/-- The request goes to its strict Route. -/
structure Swapped (tdata tdata' : TxRequest) (first : RouteHdr) : Prop where
  uri : tdata'.uri = first.uri.getUri
  routes : tdata'.routes = tdata.routes.tail ++ [tdata.moved]
  tpSel : tdata'.tpSel = tdata.tpSel
  saved : tdata'.savedStrictRoute = some first

/-- The message that is sent: a strict Route has changed places with the Request-URI, and nothing
else has changed. -/
structure Sent (tdata tdata' : TxRequest) : Prop where
  strict : ∀ first, tdata.Strict first →
    tdata'.uri.getUri = first.uri.getUri ∧ tdata'.routes = tdata.routes.tail ++ [tdata.moved]
  loose : (∀ first, ¬ tdata.Strict first) →
    tdata'.uri.getUri = tdata.uri.getUri ∧ tdata'.routes = tdata.routes

/-- What is to be true of a request that these things have been done with. -/
structure Undone (cfg : TransportCfg) (tdata : TxRequest) (acts : List RouteAct) : Prop where
  restored : Restored tdata (tdata.acts cfg acts).restoreStrictRouteSet
  destination : ((tdata.acts cfg acts).processRouteSet cfg).2 = (tdata.processRouteSet cfg).2
  repeated : Alike (tdata.processRouteSet cfg).1 ((tdata.acts cfg acts).processRouteSet cfg).1
  sent : ∀ info, ((tdata.acts cfg acts).processRouteSet cfg).2 = .ok info →
    Sent tdata ((tdata.acts cfg acts).processRouteSet cfg).1

/-- The strict Route is a SIP URI, and another object than the Request-URI. -/
def TxRequest.Movable (tdata : TxRequest) (first : RouteHdr) : Prop :=
  first.uri.scheme ≠ .other ∧ ¬ first.uri.getUri.sameObject tdata.uri.getUri

/-! ## Destinations -/

@[simp] theorem PjUri.getUri_getUri (uri : PjUri) : uri.getUri.getUri = uri.getUri := by
  induction uri with
  | sip addr uri => rfl
  | other addr text => rfl
  | nameAddr display uri ih => exact ih

theorem PjUri.sameObject_getUri {new uri : PjUri} (same : new.sameObject uri) :
    new.sameObject uri.getUri := by
  cases uri with
  | sip addr url => exact same
  | other addr text => exact same
  | nameAddr display uri => cases new <;> cases same

theorem getDestInfo_congr (cfg : TransportCfg) (target : PjUri) {request request' : PjUri}
    (alike : request'.getUri = request.getUri) :
    getDestInfo cfg target request' = getDestInfo cfg target request := by
  have scheme : request'.scheme = request.scheme := by rw [PjUri.scheme, PjUri.scheme, alike]
  rw [getDestInfo, getDestInfo, scheme]

theorem getDestInfo_self (cfg : TransportCfg) {uri uri' : PjUri}
    (alike : uri'.getUri = uri.getUri) :
    getDestInfo cfg uri' uri' = getDestInfo cfg uri uri := by
  rw [getDestInfo_congr cfg uri' alike, getDestInfo, getDestInfo, alike]

theorem getDestInfo_ok (cfg : TransportCfg) {target : PjUri} (known : target.scheme ≠ .other)
    (request : PjUri) : ∃ info, getDestInfo cfg target request = .ok info := by
  rw [PjUri.scheme] at known
  rw [getDestInfo]
  cases uri : target.getUri with
  | sip addr url =>
    dsimp only
    split
    · exact ⟨_, rfl⟩
    · exact ⟨_, rfl⟩
  | other addr text => exact absurd (by rw [uri]) known
  | nameAddr display inner => exact absurd (by rw [uri]) known

theorem PjUri.scheme_getUri (uri : PjUri) : uri.getUri.scheme = uri.scheme := by
  rw [PjUri.scheme, PjUri.scheme, PjUri.getUri_getUri]

theorem getDestInfo_other (cfg : TransportCfg) {target request : PjUri}
    (unknown : target.scheme = .other) (insecure : request.scheme ≠ .sips) :
    getDestInfo cfg target request = .error Lifetime.enorouteset := by
  rw [PjUri.scheme] at unknown
  rw [getDestInfo]
  cases uri : target.getUri with
  | sip addr url =>
    rw [uri] at unknown
    cases secure : url.secure
    · simp [secure] at unknown
    · simp [secure] at unknown
  | other addr text => simp [insecure]
  | nameAddr display inner => simp [insecure]

/-- What the lifetime of a dialog is told of a URI and of a destination. -/
def PjUri.abstract (uri : PjUri) : Lifetime.Uri where
  scheme := uri.scheme
  lrParam := match uri.getUri with
    | .sip _ url => url.lrParam
    | _ => false

def statusOf : Except SipStatus HostInfo → SipStatus
  | .ok _ => .success
  | .error status => status

theorem getDestInfo_status (cfg : TransportCfg) (target request : PjUri) :
    statusOf (getDestInfo cfg target request) =
      Lifetime.getDestInfo ⟨cfg.disableTlsSwitch, statusOf (cfg.misread target.getUri)⟩
        target.abstract request.abstract := by
  by_cases known : target.scheme = .other
  · rw [Lifetime.getDestInfo, if_neg (fun other => other known), getDestInfo]
    rw [PjUri.scheme] at known
    cases uri : target.getUri with
    | sip addr url =>
      rw [uri] at known
      cases secure : url.secure
      · simp [secure] at known
      · simp [secure] at known
    | other addr text => exact apply_ite statusOf _ _ _
    | nameAddr display inner => exact apply_ite statusOf _ _ _
  · obtain ⟨info, found⟩ := getDestInfo_ok cfg known request
    rw [found, Lifetime.getDestInfo_target _ known]
    rfl

namespace TxRequest

variable (cfg : TransportCfg) {tdata tdata' : TxRequest} {first : RouteHdr}

/-! ## One processing -/

@[simp] theorem restore_none (saved : tdata.savedStrictRoute = none) :
    tdata.restoreStrictRouteSet = tdata := by
  rw [restoreStrictRouteSet, saved]

theorem Strict.routes (strict : tdata.Strict first) :
    tdata.routes = first :: tdata.routes.tail := by
  have head := strict.1
  cases routes : tdata.routes with
  | nil =>
    rw [routes] at head
    cases head
  | cons hdr rest =>
    rw [routes] at head
    cases head
    rfl

theorem process_loose (saved : tdata.savedStrictRoute = none)
    (loose : ∀ first, ¬ tdata.Strict first) :
    tdata.processRouteSet cfg
      = (tdata, (getDestInfo cfg ((tdata.routes.head?.map RouteHdr.uri).getD tdata.uri)
          tdata.uri).map tdata.selected) := by
  rw [processRouteSet, restore_none saved]
  cases head : tdata.routes.head? with
  | none => rfl
  | some first =>
    have lr : first.loose = true := by
      cases h : first.loose with
      | false => exact absurd ⟨head, h⟩ (loose first)
      | true => rfl
    dsimp only
    rw [if_pos lr]
    rfl

/-- The strict Route has been taken out. -/
def taken (tdata : TxRequest) (first : RouteHdr) : TxRequest :=
  { tdata with hdrs := eraseFirst tdata.hdrs, savedStrictRoute := some first }

theorem taken_routes (tdata : TxRequest) (first : RouteHdr) :
    (tdata.taken first).routes = tdata.routes.tail :=
  routesOf_eraseFirst tdata.hdrs

theorem process_strict (saved : tdata.savedStrictRoute = none) (strict : tdata.Strict first) :
    tdata.processRouteSet cfg = match getDestInfo cfg first.uri first.uri.getUri with
        | .error status => (tdata.taken first, .error status)
        | .ok info =>
          ((tdata.taken first).replaceUri first.uri.getUri, .ok (tdata.selected info)) := by
  rw [processRouteSet, restore_none saved, strict.1]
  dsimp only
  rw [if_neg (by rw [strict.2]; simp)]
  rfl

theorem replaceUri_routes {new : PjUri} (another : ¬ new.sameObject tdata.uri) :
    (tdata.replaceUri new).routes = tdata.routes ++ [tdata.moved] := by
  rw [replaceUri, if_neg another]
  show routesOf (if tdata.routes ≠ [] then insertAfterLast tdata.moved tdata.hdrs
    else tdata.hdrs ++ [.route tdata.moved]) = _
  split
  · next routed => exact routesOf_insertAfterLast routed
  · exact routesOf_append tdata.hdrs _

theorem replaceUri_uri {new : PjUri} (another : ¬ new.sameObject tdata.uri) :
    (tdata.replaceUri new).uri = new ∧ (tdata.replaceUri new).tpSel = tdata.tpSel
      ∧ (tdata.replaceUri new).savedStrictRoute = tdata.savedStrictRoute := by
  rw [replaceUri, if_neg another]
  exact ⟨rfl, rfl, rfl⟩

theorem process_swaps (saved : tdata.savedStrictRoute = none) (strict : tdata.Strict first)
    (known : first.uri.scheme ≠ .other) (another : ¬ first.uri.getUri.sameObject tdata.uri) :
    Swapped tdata (tdata.processRouteSet cfg).1 first ∧ (tdata.processRouteSet cfg).2
          = (getDestInfo cfg first.uri first.uri.getUri).map tdata.selected := by
  obtain ⟨info, found⟩ := getDestInfo_ok cfg known first.uri.getUri
  have result := process_strict cfg saved strict
  rw [found] at result ⊢
  rw [result]
  have another' : ¬ first.uri.getUri.sameObject (tdata.taken first).uri := another
  obtain ⟨uri, tpSel, saved'⟩ := replaceUri_uri another'
  refine ⟨⟨uri, ?_, tpSel, saved'⟩, rfl⟩
  show ((tdata.taken first).replaceUri first.uri.getUri).routes = _
  rw [replaceUri_routes another', taken_routes]
  rfl

/-! ## Back again -/

theorem restore_some (saved : tdata.savedStrictRoute = some first) {last : RouteHdr}
    {routes : List RouteHdr} (found : tdata.routes = routes ++ [last]) :
    tdata.restoreStrictRouteSet.uri = last.uri
      ∧ tdata.restoreStrictRouteSet.routes = first :: routes
      ∧ tdata.restoreStrictRouteSet.savedStrictRoute = none
      ∧ tdata.restoreStrictRouteSet.tpSel = tdata.tpSel := by
  have end_ : tdata.routes.getLast? = some last := by rw [found, List.getLast?_concat]
  have routed : routesOf tdata.hdrs ≠ [] := by
    intro unrouted
    rw [show tdata.routes = [] from unrouted] at end_
    cases end_
  rw [restoreStrictRouteSet, saved]
  rw [end_]
  refine ⟨rfl, ?_, rfl, rfl⟩
  show routesOf (eraseLast (insertBeforeFirst first tdata.hdrs)) = _
  rw [routesOf_eraseLast, routesOf_insertBeforeFirst routed]
  show (first :: tdata.routes).dropLast = _
  rw [found]
  show (first :: routes ++ [last]).dropLast = first :: routes
  exact List.dropLast_concat

theorem restore_swapped (swapped : Swapped tdata tdata' first) (strict : tdata.Strict first) :
    tdata'.restoreStrictRouteSet.uri = tdata.uri.getUri
      ∧ Restored tdata tdata'.restoreStrictRouteSet := by
  obtain ⟨uri, routes, saved, tpSel⟩ := restore_some swapped.saved swapped.routes
  refine ⟨uri, ⟨?_, ?_, ?_⟩, saved⟩
  · rw [uri]
    exact PjUri.getUri_getUri tdata.uri
  · rw [routes, ← strict.routes]
  · rw [tpSel, swapped.tpSel]

theorem restore_loses (saved : tdata'.savedStrictRoute = some first)
    (routes : tdata'.routes = tdata.routes.tail) (strict : tdata.Strict first) :
    tdata'.restoreStrictRouteSet.routes ≠ tdata.routes := by
  intro same
  have less : tdata'.routes.length + 1 = tdata.routes.length := by
    rw [routes, strict.routes]
    rfl
  rcases List.eq_nil_or_concat tdata'.routes with unrouted | ⟨front, last, found⟩
  · have gone : tdata'.restoreStrictRouteSet.routes = [] := by
      rw [restoreStrictRouteSet, saved]
      rw [unrouted]
      exact unrouted
    rw [← same, gone] at less
    cases less
  · have kept := (restore_some saved (found.trans (List.concat_eq_append ..))).2.1
    rw [← same, kept, found] at less
    simp at less

theorem process_loses (saved : tdata.savedStrictRoute = none) (strict : tdata.Strict first)
    (fixed : first.uri.scheme = .other ∨ first.uri.getUri.sameObject tdata.uri) :
    (tdata.processRouteSet cfg).1.restoreStrictRouteSet.routes ≠ tdata.routes := by
  suffices unmoved : (tdata.processRouteSet cfg).1 = tdata.taken first by
    rw [unmoved]
    exact restore_loses rfl (taken_routes tdata first) strict
  rw [process_strict cfg saved strict]
  by_cases known : first.uri.scheme = .other
  · rw [getDestInfo_other cfg known (by simp [PjUri.scheme_getUri, known])]
  · obtain ⟨info, found⟩ := getDestInfo_ok cfg known first.uri.getUri
    rw [found]
    show (tdata.taken first).replaceUri first.uri.getUri = _
    exact if_pos (fixed.resolve_left known)

/-! ## Any sequence -/

theorem Strict.alike (alike : Alike tdata tdata') : tdata'.Strict first ↔ tdata.Strict first := by
  rw [Strict, Strict, alike.routes]

theorem selected_alike (alike : Alike tdata tdata') : tdata'.selected = tdata.selected := by
  funext info
  rw [selected, selected, alike.tpSel]

/-- The original request, or the one that goes to its strict Route. -/
def Kept (tdata tdata' : TxRequest) : Prop :=
  Restored tdata tdata' ∨ ∃ first, tdata.Strict first ∧ Swapped tdata tdata' first

theorem Kept.restore (kept : Kept tdata tdata') : Restored tdata tdata'.restoreStrictRouteSet := by
  rcases kept with restored | ⟨first, strict, swapped⟩
  · rw [restore_none restored.saved]
    exact restored
  · exact (restore_swapped swapped strict).2

theorem process_restore (saved : tdata.restoreStrictRouteSet.savedStrictRoute = none) :
    tdata.restoreStrictRouteSet.processRouteSet cfg = tdata.processRouteSet cfg := by
  rw [processRouteSet, restore_none saved]
  rfl

/-- What processing makes of a request, and the destination it finds. -/
structure Processed (cfg : TransportCfg) (tdata : TxRequest)
    (result : TxRequest × Except SipStatus HostInfo) : Prop where
  kept : Kept tdata result.1
  sent : Sent tdata result.1
  destination : result.2 = (tdata.processRouteSet cfg).2
  repeated : Alike (tdata.processRouteSet cfg).1 result.1

theorem Movable.another (movable : tdata.Movable first)
    (alike : tdata'.uri.getUri = tdata.uri.getUri) :
    ¬ first.uri.getUri.sameObject tdata'.uri := by
  intro same
  exact movable.2 (alike ▸ PjUri.sameObject_getUri same)

theorem process_restored (saved : tdata.savedStrictRoute = none)
    (movable : ∀ first, tdata.Strict first → tdata.Movable first)
    (restored : Restored tdata tdata') :
    Processed cfg tdata (tdata'.processRouteSet cfg) := by
  have alike := restored.alike
  by_cases strict : ∃ first, tdata.Strict first
  · obtain ⟨first, strict⟩ := strict
    have can := movable first strict
    obtain ⟨swapped, found⟩ :=
      process_swaps cfg saved strict can.1 (can.another rfl)
    obtain ⟨swapped', found'⟩ := process_swaps cfg restored.saved
      ((Strict.alike alike).2 strict) can.1 (can.another alike.uri)
    have routes' : (tdata'.processRouteSet cfg).1.routes = tdata.routes.tail ++ [tdata.moved] := by
      rw [swapped'.routes, alike.routes, moved, alike.uri]
      rfl
    have tpSel' := swapped'.tpSel.trans alike.tpSel
    refine ⟨.inr ⟨first, strict, swapped'.uri, routes', tpSel', swapped'.saved⟩,
      ⟨?_, ?_⟩, ?_, ?_, ?_, ?_⟩
    · intro first' strict'
      have same : first = first' := Option.some.inj (strict.1.symm.trans strict'.1)
      subst same
      exact ⟨by rw [swapped'.uri, PjUri.getUri_getUri], routes'⟩
    · exact fun loose => absurd strict (loose first)
    · rw [found, found', selected_alike alike]
    · rw [swapped.uri, swapped'.uri]
    · rw [routes', swapped.routes]
    · rw [tpSel', swapped.tpSel]
  · have loose : ∀ first, ¬ tdata.Strict first := fun first strict' => strict ⟨first, strict'⟩
    have loose' : ∀ first, ¬ tdata'.Strict first :=
      fun first strict' => loose first ((Strict.alike alike).1 strict')
    rw [process_loose cfg restored.saved loose']
    refine ⟨.inl restored, ⟨?_, ?_⟩, ?_, ?_⟩
    · exact fun first strict' => absurd strict' (loose first)
    · exact fun _ => ⟨alike.uri, alike.routes⟩
    · rw [process_loose cfg saved loose, alike.routes, selected_alike alike]
      show Except.map _ _ = Except.map _ _
      cases tdata.routes.head? with
      | none => exact congrArg _ (getDestInfo_self cfg alike.uri)
      | some first => exact congrArg _ (getDestInfo_congr cfg first.uri alike.uri)
    · rw [process_loose cfg saved loose]
      exact alike

theorem Kept.process (saved : tdata.savedStrictRoute = none)
    (movable : ∀ first, tdata.Strict first → tdata.Movable first) (kept : Kept tdata tdata') :
    Processed cfg tdata (tdata'.processRouteSet cfg) := by
  have restored := kept.restore
  rw [← process_restore cfg restored.saved]
  exact process_restored cfg saved movable restored

theorem Kept.act (saved : tdata.savedStrictRoute = none)
    (movable : ∀ first, tdata.Strict first → tdata.Movable first) (kept : Kept tdata tdata')
    (a : RouteAct) : Kept tdata (tdata'.act cfg a) := by
  cases a with
  | process => exact (kept.process cfg saved movable).kept
  | restore => exact .inl kept.restore

theorem Kept.acts (saved : tdata.savedStrictRoute = none)
    (movable : ∀ first, tdata.Strict first → tdata.Movable first) (kept : Kept tdata tdata')
    (acts : List RouteAct) : Kept tdata (tdata'.acts cfg acts) := by
  induction acts generalizing tdata' with
  | nil => exact kept
  | cons a acts ih => exact ih (kept.act cfg saved movable a)

theorem Strict.movable (saved : tdata.savedStrictRoute = none) (strict : tdata.Strict first)
    (undone : ∀ acts, Undone cfg tdata acts) : tdata.Movable first := by
  have once : ¬ (first.uri.scheme = .other ∨ first.uri.getUri.sameObject tdata.uri) :=
    fun fixed => process_loses cfg saved strict fixed (undone [.process]).restored.alike.routes
  have known : first.uri.scheme ≠ .other := fun other => once (.inl other)
  refine ⟨known, fun same => ?_⟩
  -- What is put back is the Request-URI without a name-addr, so that the second time it is seen
  -- to be the URI of the Route.
  obtain ⟨swapped, -⟩ := process_swaps cfg saved strict known (fun h => once (.inr h))
  obtain ⟨uri, back⟩ := restore_swapped swapped strict
  have again := (undone [.process, .restore, .process]).restored.alike.routes
  refine process_loses cfg back.saved ((Strict.alike back.alike).2 strict) (.inr ?_)
    (again.trans back.alike.routes.symm)
  rw [uri]
  exact same

end TxRequest

/-- Whatever is done with a request, restoring it gives the request back, and processing it sends
it as the first time. This is so if a strict Route at the top is a SIP URI and another object than
the Request-URI; a Route that has no destination is lost. -/
theorem strict_route_undone (cfg : TransportCfg) {tdata : TxRequest}
    (saved : tdata.savedStrictRoute = none) :
    (∀ acts, Undone cfg tdata acts) ↔ ∀ first, tdata.Strict first → tdata.Movable first := by
  constructor
  · exact fun undone first strict => strict.movable cfg saved undone
  · intro movable acts
    have original : TxRequest.Kept tdata tdata := .inl ⟨⟨rfl, rfl, rfl⟩, saved⟩
    have kept := original.acts cfg saved movable acts
    have processed := kept.process cfg saved movable
    exact ⟨kept.restore, processed.destination, processed.repeated, fun _ _ => processed.sent⟩

/-- `sip:proxy` -/
def proxyUri : PjUri := .sip 1 { host := "proxy".toUTF8.toList }

/-- `sip:callee` -/
def calleeUri : PjUri := .sip 2 { host := "callee".toUTF8.toList }

/-- Every transport is UDP, a datagram transport. -/
def udpOnly : TransportCfg where
  typeFromName _ := 1
  flagFromType _ := 4
  typeFromFlag _ := 0
  disableTlsSwitch := false
  misread _ := .error Lifetime.enorouteset

/-- A request with this Route. -/
def oneRoute (uri : PjUri) : TxRequest where
  uri := calleeUri
  hdrs := [.other "Via".toUTF8.toList, .route { uri }, .other "From".toUTF8.toList]

theorem strict_route_undone_proxy :
    Undone udpOnly (oneRoute proxyUri) [.process, .process, .restore] := by
  have saved : (oneRoute proxyUri).savedStrictRoute = none := rfl
  refine (strict_route_undone udpOnly saved).2 ?_ _
  intro first strict
  cases strict.1
  exact ⟨nofun, nofun⟩

/-- `tel:911` -/
def telUri : PjUri := .other 1 "tel:911".toUTF8.toList

/-- The only Route is `tel:911`: the request cannot be sent, and is left without a Route. -/
theorem tel_route_lost : ¬ ∀ acts, Undone udpOnly (oneRoute telUri) acts := by
  intro undone
  have gone := (undone [.process]).restored.alike.routes
  exact absurd gone (by decide)

end Pjsip.Sip.RouteSet
