import Pjsip.Base.Network

/-!
# The role of an ICE session

The part of `ice_session.c` that reads and changes `ice->role`: what a connectivity
check carries, what a session does with the role of a check that comes in, and what
it does when its own check is answered with a role conflict.
-/

namespace Pjsip.Pjnath.Ice

open Pjsip.Base

/-- `pj_ice_sess_role`. -/
inductive Role where
  | unknown
  | controlled
  | controlling
  deriving DecidableEq, Repr

/-- The attribute by which a check tells the role of its sender. -/
inductive RoleKind where
  | iceControlling
  | iceControlled
  deriving DecidableEq, Repr

/-- ICE-CONTROLLING or ICE-CONTROLLED, with the tie-breaker of the sender. -/
structure RoleAttr where
  kind : RoleKind
  value : Nat
  deriving DecidableEq, Repr

/-- What `perform_check` adds for a role: only a controlling session says so. -/
def roleKind (role : Role) : RoleKind :=
  if role = .controlling then .iceControlling else .iceControlled

/-- The repair of a role conflict in `on_stun_rx_request`: the role to go on with, or
`none` for a 487 response. -/
def rxRequestRole (role : Role) (tieBreaker : Nat) : Option RoleAttr → Option Role
  | none => some role
  | some roleAttr =>
    if role = .controlling ∧ roleAttr.kind = .iceControlling then
      if tieBreaker < roleAttr.value then some .controlled else none
    else if role = .controlled ∧ roleAttr.kind = .iceControlled then
      if tieBreaker < roleAttr.value then none else some .controlling
    else some role

/-- The role that `on_stun_request_complete` takes when a request with this attribute
is answered with 487. -/
def conflictRole : RoleKind → Role
  | .iceControlling => .controlled
  | .iceControlled => .controlling

/-! ## Two sessions -/

inductive Agent where
  | one
  | two
  deriving DecidableEq, Repr

def Agent.peer : Agent → Agent
  | .one => .two
  | .two => .one

@[simp] theorem Agent.peer_peer (p : Agent) : p.peer.peer = p := by
  cases p <;> rfl

@[simp] theorem Agent.peer_ne (p : Agent) : p.peer ≠ p := by
  cases p <;> decide

theorem Agent.eq_or_peer (p q : Agent) : q = p ∨ q = p.peer := by
  cases p <;> cases q <;> decide

/-- The roles at work in a session: `pending` are the requests whose transaction is
not complete, under their transaction id. -/
structure RoleSess where
  role : Role
  tieBreaker : Nat
  pending : List (Nat × RoleAttr)
  nextTsx : Nat

inductive StunCode where
  | success
  | roleConflict
  deriving DecidableEq, Repr

/-- A connectivity check, or the response to one. -/
inductive RoleMsg where
  | request (tsx : Nat) (roleAttr : RoleAttr)
  | response (tsx : Nat) (code : StunCode)
  deriving DecidableEq, Repr

def RoleSess.roleAttr (ice : RoleSess) : RoleAttr := ⟨roleKind ice.role, ice.tieBreaker⟩

/-- `perform_check`, of which this sees a request under a new transaction id. -/
def RoleSess.performCheck (ice : RoleSess) (p : Agent) : RoleSess × List (Agent × RoleMsg) :=
  ({ ice with pending := (ice.nextTsx, ice.roleAttr) :: ice.pending, nextTsx := ice.nextTsx + 1 },
    [(p.peer, .request ice.nextTsx ice.roleAttr)])

/-- A request out of the transactions that are not complete. -/
def RoleSess.complete (ice : RoleSess) (request : Nat × RoleAttr) : RoleSess :=
  { ice with pending := ice.pending.erase request }

/-- What a session does without being asked: a check is sent by the timer or is
triggered, or a transaction ends without a response. -/
inductive RoleAct (p : Agent) (ice : RoleSess) : RoleSess → List (Agent × RoleMsg) → Prop
  | check : RoleAct p ice (ice.performCheck p).1 (ice.performCheck p).2
  | timeout (request : Nat × RoleAttr) : RoleAct p ice (ice.complete request) []

/-- What a session does with a message. A response is only taken for a request that is
pending, and only once. -/
inductive RoleRecv (p : Agent) (ice : RoleSess) (q : Agent) :
    RoleMsg → RoleSess → List (Agent × RoleMsg) → Prop
  | accept {tsx : Nat} {roleAttr : RoleAttr} {role : Role} :
      rxRequestRole ice.role ice.tieBreaker (some roleAttr) = some role →
      RoleRecv p ice q (.request tsx roleAttr) { ice with role := role }
        [(q, .response tsx .success)]
  | refuse {tsx : Nat} {roleAttr : RoleAttr} :
      rxRequestRole ice.role ice.tieBreaker (some roleAttr) = none →
      RoleRecv p ice q (.request tsx roleAttr) ice [(q, .response tsx .roleConflict)]
  | success {tsx : Nat} {roleAttr : RoleAttr} : (tsx, roleAttr) ∈ ice.pending →
      RoleRecv p ice q (.response tsx .success) (ice.complete (tsx, roleAttr)) []
  /-- The new role is taken, and the check is sent again at once. -/
  | conflict {tsx : Nat} {roleAttr : RoleAttr} {next : RoleSess} :
      (tsx, roleAttr) ∈ ice.pending →
      next = { ice.complete (tsx, roleAttr) with role := conflictRole roleAttr.kind } →
      RoleRecv p ice q (.response tsx .roleConflict) (next.performCheck p).1 (next.performCheck p).2
  /-- The check cannot be sent again. -/
  | conflictUnsent {tsx : Nat} {roleAttr : RoleAttr} : (tsx, roleAttr) ∈ ice.pending →
      RoleRecv p ice q (.response tsx .roleConflict)
        { ice.complete (tsx, roleAttr) with role := conflictRole roleAttr.kind } []
  /-- The negotiation is over, or the pair of the check is no longer in the list. -/
  | ignored {tsx : Nat} {code : StunCode} {roleAttr : RoleAttr} :
      (tsx, roleAttr) ∈ ice.pending →
      RoleRecv p ice q (.response tsx code) (ice.complete (tsx, roleAttr)) []

def roleProtocol : Protocol Agent RoleSess RoleMsg where
  act := RoleAct
  recv := RoleRecv

/-- Two sessions that have sent nothing yet. -/
def roleStart (role : Agent → Role) (tieBreaker : Agent → Nat) : Config Agent RoleSess RoleMsg where
  node p := { role := role p, tieBreaker := tieBreaker p, pending := [], nextTsx := 0 }
  outbox _ := []

end Pjsip.Pjnath.Ice
