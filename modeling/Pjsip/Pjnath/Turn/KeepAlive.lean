import Pjsip.Base.CInt
import Pjsip.Base.Run

/-!
# Keeping a TURN allocation alive (`turn_session.c`)

A session that has its allocation sends a Refresh before the LIFETIME granted by the server is over,
a ChannelBind for each bound channel and a CreatePermission for the permissions marked for renewal
before these time out. All of this is decided when the keep-alive timer expires. Times are in
milliseconds; a request is answered at once, after the function that sends it has returned. Not in
the code are `granted`, the time of the last response with a LIFETIME, and in each channel and
permission `since`, when the server was last asked for it, and `interval`, which its expiration was
computed with.
-/

namespace Pjsip.Pjnath.Turn

open Pjsip.Base

def turnKeepAliveSec : Nat := 15
def turnRefreshSecBefore : UInt32 := 60
def turnPermTimeout : Nat := 300
def turnInvalidChannel : Nat := 0xFFFF
def turnChannelMin : Nat := 0x4000
def turnChannelMax : Nat := 0x7FFF
/-- `PJ_STUN_MAX_ATTR` -/
def stunMaxAttr : Nat := 16

/-- The IP address and the port of a peer. -/
structure Peer where
  ip : List UInt8
  port : UInt16
  deriving DecidableEq, Repr

/-- `ch_t` -/
structure Ch where
  num : Nat
  bound : Bool
  addr : Peer
  expiry : Nat
  interval : Nat
  since : Nat
  deriving DecidableEq, Repr

/-- `perm_t`; its address has no port. -/
structure Perm where
  addr : List UInt8
  renew : Bool
  expiry : Nat
  reqToken : Nat
  interval : Nat
  since : Nat
  deriving DecidableEq, Repr

/-- `pj_turn_session`. It is ready, or deallocated; `timer` is the time when the keep-alive timer
expires, if it is scheduled. -/
structure TurnSession where
  ready : Bool
  now : Nat
  lifetime : UInt32
  kaInterval : Nat
  expiry : Nat
  timer : Option Nat
  chTable : List Ch
  permTable : List Perm
  nextCh : Nat
  allocLifetime : Int
  allocKaInterval : Int
  granted : Nat
  deriving DecidableEq, Repr

/-- What is sent to the server. -/
inductive TurnRequest where
  | refresh (lifetime : Option Int)
  | channelBind (num : Nat) (addr : Peer)
  | createPermission (peers : List Peer)
  | sendIndication
  deriving DecidableEq, Repr

/-! ## The tables -/

/-- When what is installed now is to be renewed. -/
def TurnSession.renewedExpiry (s : TurnSession) : Nat :=
  s.now + (turnPermTimeout - s.kaInterval - 1) * 1000

def modCh (addr : Peer) (f : Ch → Ch) (table : List Ch) : List Ch :=
  table.map fun ch => if ch.addr = addr then f ch else ch

def modPerm (ip : List UInt8) (f : Perm → Perm) (table : List Perm) : List Perm :=
  table.map fun perm => if perm.addr = ip then f perm else perm

/-- The permission of the address, allocated if there is none. -/
def withPerm (ip : List UInt8) (table : List Perm) : List Perm :=
  if table.any (·.addr = ip) then table else table ++ [⟨ip, false, 0, 0, 0, 0⟩]

def withCh (addr : Peer) (table : List Ch) : List Ch :=
  if table.any (·.addr = addr) then table
  else table ++ [⟨turnInvalidChannel, false, addr, 0, 0, 0⟩]

/-- `lookup_perm`, updating. -/
def lookupPerm (s : TurnSession) (ip : List UInt8) : TurnSession :=
  { s with
    permTable := modPerm ip
      (fun perm => { perm with expiry := s.renewedExpiry, interval := s.kaInterval })
      (withPerm ip s.permTable) }

/-- `lookup_ch_by_addr`, updating. -/
def lookupChByAddr (s : TurnSession) (addr : Peer) : TurnSession :=
  let s := { s with
    chTable := modCh addr
      (fun ch => { ch with expiry := s.renewedExpiry, interval := s.kaInterval })
      (withCh addr s.chTable) }
  lookupPerm s addr.ip

/-! ## Requests -/

/-- `pj_turn_session_bind_channel`, as far as sending the request. -/
def bindRequest (s : TurnSession) (addr : Peer) : TurnSession × List TurnRequest :=
  let s := lookupChByAddr s addr
  match s.chTable.find? (·.addr = addr) with
  | none => (s, [])
  | some ch =>
    if ch.num ≠ turnInvalidChannel then (s, [.channelBind ch.num addr])
    else if turnChannelMax < s.nextCh then (s, [])
    else
      ({ s with
          chTable := modCh addr (fun ch => { ch with num := s.nextCh }) s.chTable
          nextCh := s.nextCh + 1 },
        [.channelBind s.nextCh addr])

def invalidatePerms (s : TurnSession) (token : Nat) : TurnSession :=
  { s with permTable := s.permTable.filter fun perm => perm.reqToken ≠ token }

/-- The permission is looked up, and marked for renewal or not. -/
def markPerm (s : TurnSession) (renew : Bool) (ip : List UInt8) : TurnSession :=
  let s := lookupPerm s ip
  { s with permTable := modPerm ip (fun perm => { perm with renew := renew }) s.permTable }

def setReqToken (s : TurnSession) (token : Nat) (ip : List UInt8) : TurnSession :=
  { s with permTable := modPerm ip (fun perm => { perm with reqToken := token }) s.permTable }

def hasReqToken (s : TurnSession) (token : Nat) (ip : List UInt8) : Bool :=
  s.permTable.any fun perm => perm.addr = ip ∧ perm.reqToken = token

/-- The loop of `pj_turn_session_set_perm`: the addresses added to the request, of which there
have been `count` before, or nothing if there is no room for one. -/
def addPeers (renew : Bool) (token : Nat) :
    TurnSession → Nat → List Peer → TurnSession × Option (List Peer)
  | s, _, [] => (s, some [])
  | s, count, addr :: rest =>
    let s := markPerm s renew addr.ip
    if hasReqToken s token addr.ip then
      -- the request contains this address already
      addPeers renew token s count rest
    else
      let s := setReqToken s token addr.ip
      if stunMaxAttr ≤ count then (s, none)
      else
        let (s, peers) := addPeers renew token s (count + 1) rest
        (s, peers.map (addr :: ·))

/-- `pj_turn_session_set_perm`; `canSend` tells whether the STUN session accepts a
CreatePermission request with these peers. -/
def setPerm (canSend : List Peer → Bool) (s : TurnSession) (addrs : List Peer) (renew : Bool)
    (token : Nat) : TurnSession × List TurnRequest :=
  match addPeers renew token s 0 addrs with
  | (s, none) => (invalidatePerms s token, [])
  | (s, some []) => (s, [])
  | (s, some peers) =>
    if canSend peers then (s, [.createPermission peers]) else (invalidatePerms s token, [])

/-- What `pj_turn_session_sendto` does about the permission. -/
def sendto (canSend : List Peer → Bool) (s : TurnSession) (addr : Peer) (token : Nat) :
    TurnSession × List TurnRequest :=
  if s.ready ∧ ¬ s.permTable.any (·.addr = addr.ip) then setPerm canSend s [addr] false token
  else (s, [])

/-- `send_refresh` -/
def sendRefresh (lifetime : Int) : TurnRequest :=
  .refresh (if 0 ≤ lifetime then some lifetime else none)

/-! ## Responses -/

/-- `on_allocate_success`, for a response with this LIFETIME. -/
def onAllocateSuccess (s : TurnSession) (lifetime : UInt32) : TurnSession :=
  if lifetime = 0 then { s with ready := false }
  else
    let s := { s with lifetime := lifetime, expiry := s.now, granted := s.now }
    if lifetime.toNat < turnKeepAliveSec then
      if lifetime ≤ 2 then { s with ready := false }
      else
        let kaInterval := lifetime.toNat - 2
        { s with
          kaInterval := kaInterval
          expiry := s.expiry + (kaInterval - 1) * 1000
          timer := some (s.now + kaInterval * 1000) }
    else
      let kaInterval := turnKeepAliveSec
      -- an unsigned difference, converted to `int`
      let timeout : Int := i32 (lifetime - turnRefreshSecBefore).toNat
      let timeout := if timeout < (kaInterval : Int) then (kaInterval : Int) - 1 else timeout
      { s with
        kaInterval := kaInterval
        expiry := s.expiry + timeout.toNat * 1000
        timer := some (s.now + kaInterval * 1000) }

/-- The response to a request is a success; `lifetime` is the LIFETIME in it if it is one to a
Refresh. -/
def onRequestComplete (lifetime : UInt32) (s : TurnSession) : TurnRequest → TurnSession
  | .refresh _ => onAllocateSuccess s lifetime
  | .channelBind _ addr =>
    let s := { s with chTable := modCh addr (fun ch => { ch with bound := true }) s.chTable }
    let s := lookupChByAddr s addr
    { s with
      chTable := modCh addr (fun ch => { ch with since := s.now }) s.chTable
      permTable := modPerm addr.ip (fun perm => { perm with since := s.now }) s.permTable }
  | .createPermission peers =>
    { s with
      permTable := s.permTable.map fun perm =>
        if perm.addr ∈ peers.map Peer.ip then { perm with since := s.now } else perm }
  | .sendIndication => s

/-! ## The timer -/

def Ch.due (now : Nat) (ch : Ch) : Bool := ch.bound ∧ ch.expiry ≤ now

/-- The seconds only are compared. -/
def Perm.due (now : Nat) (perm : Perm) : Bool := perm.expiry / 1000 ≤ now / 1000 + 1

def bindAll : TurnSession → List Ch → TurnSession × List TurnRequest
  | s, [] => (s, [])
  | s, ch :: rest =>
    let (s, reqs) := bindRequest s ch.addr
    let (s, more) := bindAll s rest
    (s, reqs ++ more)

/-- The loop of `refresh_permissions`: the table afterwards, the addresses added to the request,
and whether there was room for all of them. -/
def refreshLoop (s : TurnSession) (token : Nat) : Nat → List Perm → List Perm × List Peer × Bool
  | _, [] => ([], [], true)
  | count, perm :: rest =>
    if perm.due s.now then
      if perm.renew then
        if stunMaxAttr ≤ count then (perm :: rest, [], false)
        else
          let renewed := { perm with
            expiry := s.renewedExpiry, interval := s.kaInterval, reqToken := token }
          let (table, peers, room) := refreshLoop s token (count + 1) rest
          (renewed :: table, ⟨perm.addr, 0⟩ :: peers, room)
      else
        -- expired, and not to be renewed
        refreshLoop s token count rest
    else
      let (table, peers, room) := refreshLoop s token count rest
      (perm :: table, peers, room)

/-- `refresh_permissions` -/
def refreshPermissions (canSend : List Peer → Bool) (s : TurnSession) (token : Nat) :
    TurnSession × List TurnRequest :=
  let (table, peers, room) := refreshLoop s token 0 s.permTable
  let s := { s with permTable := table }
  if room ∧ peers ≠ [] ∧ canSend peers then (s, [.createPermission peers]) else (s, [])

/-- `on_timer_event`, for the keep-alive timer. -/
def onTimerEvent (canSend : List Peer → Bool) (s : TurnSession) (token : Nat) :
    TurnSession × List TurnRequest :=
  let s := { s with timer := none }
  if ¬ s.ready then (s, [])
  else
    let refresh := s.expiry ≤ s.now
    let refreshReqs :=
      if refresh then [sendRefresh (if s.allocLifetime = 0 then -1 else s.allocLifetime)] else []
    let (s, bindReqs) := bindAll s (s.chTable.filter (Ch.due s.now))
    let (s, permReqs) := refreshPermissions canSend s token
    let reqs := refreshReqs ++ bindReqs ++ permReqs
    let reqs := if reqs = [] ∧ 0 < s.allocKaInterval then [.sendIndication] else reqs
    if refresh then (s, reqs)
    else ({ s with timer := some (s.now + s.kaInterval * 1000) }, reqs)

/-! ## Runs -/

/-- What can happen. With a call comes the token that `pj_rand` returns, with the timer also the
LIFETIME in the response to a Refresh. -/
inductive TurnAct where
  | elapse (ms : Nat)
  | setPerm (addrs : List Peer) (renew : Bool) (token : Nat)
  | sendto (addr : Peer) (token : Nat)
  | bindChannel (addr : Peer)
  | timer (lifetime : UInt32) (token : Nat)
  deriving DecidableEq, Repr

/-- The requests are answered in the order in which they were sent. -/
def answered (lifetime : UInt32) (sent : TurnSession × List TurnRequest) :
    TurnSession × List TurnRequest :=
  (sent.2.foldl (onRequestComplete lifetime) sent.1, sent.2)

def turnStep (canSend : List Peer → Bool) (s : TurnSession) :
    TurnAct → Option (TurnSession × List TurnRequest)
  | .elapse ms => some ({ s with now := s.now + ms }, [])
  | .setPerm addrs renew token => some (answered 0 (setPerm canSend s addrs renew token))
  | .sendto addr token => some (answered 0 (sendto canSend s addr token))
  | .bindChannel addr =>
    some (if s.ready then answered 0 (bindRequest s addr) else (s, []))
  | .timer lifetime token => some (answered lifetime (onTimerEvent canSend s token))

/-- The session at the response to the Allocate request. -/
def allocated (now : Nat) (lifetime : UInt32) (allocLifetime allocKaInterval : Int) : TurnSession :=
  onAllocateSuccess ⟨true, now, 0, 0, 0, none, [], [], turnChannelMin, allocLifetime,
    allocKaInterval, 0⟩ lifetime

end Pjsip.Pjnath.Turn
