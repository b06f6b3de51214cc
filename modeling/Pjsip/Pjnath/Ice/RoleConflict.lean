import Pjsip.Pjnath.Ice.Role
import Mathlib.Tactic.Cases

/-!
# Role conflicts are resolved once

Of two sessions that claim the same role one will yield, and the tie-breakers say which: the one
with the smaller tie-breaker if both are controlling, the one with the larger if both are
controlled. The other never moves; what the first sends is of its old role or its new one, and a 487
only ever answers a request of its old role.
-/

namespace Pjsip.Pjnath.Ice

open Pjsip.Base

/-- The sessions say the same, and at least one of them knows its role. -/
def Conflict (role : Agent → Role) : Prop :=
  roleKind (role .one) = roleKind (role .two) ∧ (role .one ≠ .unknown ∨ role .two ≠ .unknown)

/-- If there is a conflict, `m` is the one that yields. -/
def Yields (role : Agent → Role) (tieBreaker : Agent → Nat) (m : Agent) : Prop :=
  Conflict role →
    match roleKind (role m) with
    | .iceControlling => tieBreaker m < tieBreaker m.peer
    | .iceControlled => tieBreaker m.peer < tieBreaker m

theorem Conflict.same {role : Agent → Role} (conflict : Conflict role) (p q : Agent) :
    roleKind (role p) = roleKind (role q) := by
  obtain ⟨same, _⟩ := conflict
  cases p <;> cases q <;> simp [same]

theorem conflict_of {role : Agent → Role} (p : Agent)
    (same : roleKind (role p) = roleKind (role p.peer)) (known : role p ≠ .unknown) :
    Conflict role := by
  cases p with
  | one => exact ⟨same, .inl known⟩
  | two => exact ⟨same.symm, .inr known⟩

theorem exists_yields (role : Agent → Role) (tieBreaker : Agent → Nat)
    (distinct : tieBreaker .one ≠ tieBreaker .two) : ∃ m, Yields role tieBreaker m := by
  by_cases conflict : Conflict role
  · have same := conflict.same .one .two
    cases kind : roleKind (role .one) with
    | iceControlling =>
      rcases Nat.lt_or_gt_of_ne distinct with less | greater
      · exact ⟨.one, fun _ => by simpa [kind, Agent.peer] using less⟩
      · exact ⟨.two, fun _ => by simpa [← same, kind, Agent.peer] using greater⟩
    | iceControlled =>
      rcases Nat.lt_or_gt_of_ne distinct with less | greater
      · exact ⟨.two, fun _ => by simpa [← same, kind, Agent.peer] using less⟩
      · exact ⟨.one, fun _ => by simpa [kind, Agent.peer] using greater⟩
  · exact ⟨.one, fun holds => absurd holds conflict⟩

section Repair

variable {role : Agent → Role} {tieBreaker : Agent → Nat} {m : Agent}

/-- The role that `m` yields to. -/
def yielded (role : Agent → Role) (m : Agent) : Role := conflictRole (roleKind (role m))

theorem roleKind_yielded (role : Agent → Role) (m : Agent) :
    roleKind (yielded role m) ≠ roleKind (role m) := by
  unfold yielded
  cases roleKind (role m) <;> decide

variable {attr : RoleAttr}

theorem rxRequestRole_other {own : Role} (tie : Nat)
    (other : attr.kind ≠ roleKind own) : rxRequestRole own tie (some attr) = some own := by
  unfold rxRequestRole
  cases own <;> cases kind : attr.kind <;> simp_all [roleKind]

/-- Whether a session with this tie-breaker yields to a check of its role. -/
def YieldsTo (tie value : Nat) : RoleKind → Prop
  | .iceControlling => tie < value
  | .iceControlled => ¬tie < value

theorem rxRequestRole_same {own : Role} {tie : Nat} (known : own ≠ .unknown)
    (same : attr.kind = roleKind own) :
    (YieldsTo tie attr.value (roleKind own) → rxRequestRole own tie (some attr)
        = some (conflictRole (roleKind own)))
      ∧ (¬YieldsTo tie attr.value (roleKind own) → rxRequestRole own tie (some attr) = none) := by
  unfold rxRequestRole
  cases own <;> simp_all [roleKind, YieldsTo, conflictRole]

/-- The one that stays refuses a check of its own role, unless it has no role. -/
theorem rxRequestRole_stays (yields : Yields role tieBreaker m)
    (kind : attr.kind = roleKind (role m)) (same : roleKind (role m.peer) = roleKind (role m))
    (value : attr.value = tieBreaker m) :
    rxRequestRole (role m.peer) (tieBreaker m.peer) (some attr) = some (role m.peer) ∨
      Conflict role ∧ rxRequestRole (role m.peer) (tieBreaker m.peer) (some attr) = none := by
  by_cases known : role m.peer = .unknown
  · left
    simp [rxRequestRole, known]
  · right
    have conflict : Conflict role := conflict_of m.peer (by rw [Agent.peer_peer]; exact same) known
    refine ⟨conflict, (rxRequestRole_same known (kind.trans same.symm)).2 ?_⟩
    have order := yields conflict
    rw [same, value]
    cases own : roleKind (role m) <;> simp only [own] at order <;> simp only [YieldsTo] <;> omega

/-- The one that yields does so at a check of its own role. -/
theorem rxRequestRole_yields (yields : Yields role tieBreaker m)
    (kind : attr.kind = roleKind (role m)) (same : roleKind (role m.peer) = roleKind (role m))
    (value : attr.value = tieBreaker m.peer) :
    rxRequestRole (role m) (tieBreaker m) (some attr) = some (role m) ∨
      Conflict role ∧
        rxRequestRole (role m) (tieBreaker m) (some attr) = some (yielded role m) := by
  by_cases known : role m = .unknown
  · left
    simp [rxRequestRole, known]
  · right
    have conflict : Conflict role := conflict_of m same.symm known
    refine ⟨conflict, (rxRequestRole_same known kind).1 ?_⟩
    have order := yields conflict
    cases own : roleKind (role m) <;> simp only [own] at order <;> simp only [YieldsTo] <;> omega

end Repair

/-! ## The invariant -/

/-- What holds of both sessions and of all that they have sent. -/
structure RoleInv (role : Agent → Role) (tieBreaker : Agent → Nat) (m : Agent)
    (c : Config Agent RoleSess RoleMsg) : Prop where
  tie : ∀ p, (c.node p).tieBreaker = tieBreaker p
  stays : (c.node m.peer).role = role m.peer
  yields : (c.node m).role = role m ∨ Conflict role ∧ (c.node m).role = yielded role m
  requests : ∀ p q tsx attr, (q, .request tsx attr) ∈ c.outbox p →
    q = p.peer ∧ tsx < (c.node p).nextTsx ∧ attr.value = tieBreaker p ∧
      (attr.kind = roleKind (role p) ∨
        p = m ∧ Conflict role ∧ attr.kind = roleKind (yielded role m))
  unique : ∀ p q q' tsx attr attr', (q, .request tsx attr) ∈ c.outbox p →
    (q', .request tsx attr') ∈ c.outbox p → attr' = attr
  pending : ∀ p tsx attr, (tsx, attr) ∈ (c.node p).pending →
    (p.peer, .request tsx attr) ∈ c.outbox p
  conflicts : ∀ p q tsx, (q, .response tsx .roleConflict) ∈ c.outbox p →
    p = m.peer ∧ q = m ∧ Conflict role ∧
      ∃ attr, (p, .request tsx attr) ∈ c.outbox m ∧ attr.kind = roleKind (role m)

variable {role : Agent → Role} {tieBreaker : Agent → Nat} {m : Agent}
  {c : Config Agent RoleSess RoleMsg}

theorem roleInv_start (role : Agent → Role) (tieBreaker : Agent → Nat) (m : Agent) :
    RoleInv role tieBreaker m (roleStart role tieBreaker) := by
  refine ⟨fun p => rfl, rfl, .inl rfl, ?_, ?_, ?_, ?_⟩
  · intro p q tsx attr mem
    cases mem
  · intro p q q' tsx attr attr' mem
    cases mem
  · intro p tsx attr mem
    cases mem
  · intro p q tsx mem
    cases mem

/-- The role that a session may take: the one it has now, or the one it yields to. -/
def MayTake (role : Agent → Role) (m p : Agent) (now next : Role) : Prop :=
  next = now ∨ p = m ∧ Conflict role ∧ next = yielded role m

/-- What a step does: it keeps the invariant, and every session takes a role that it may
take. -/
structure RoleStep (role : Agent → Role) (tieBreaker : Agent → Nat) (m : Agent)
    (c c' : Config Agent RoleSess RoleMsg) : Prop where
  inv : RoleInv role tieBreaker m c'
  takes : ∀ p, MayTake role m p (c.node p).role (c'.node p).role

theorem RoleInv.mayTake (inv : RoleInv role tieBreaker m c) (p : Agent) :
    MayTake role m p (role p) (c.node p).role := by
  rcases Agent.eq_or_peer m p with rfl | rfl
  · rcases inv.yields with same | ⟨conflict, moved⟩
    · exact .inl same
    · exact .inr ⟨rfl, conflict, moved⟩
  · exact .inl inv.stays

/-- A session that answers, or takes another role, without sending a check. -/
theorem RoleInv.put_quiet (inv : RoleInv role tieBreaker m c) {p : Agent} {ice : RoleSess}
    {out : List (Agent × RoleMsg)} (tie : ice.tieBreaker = (c.node p).tieBreaker)
    (next : ice.nextTsx = (c.node p).nextTsx)
    (mayTake : MayTake role m p (c.node p).role ice.role)
    (pending : ∀ request ∈ ice.pending, request ∈ (c.node p).pending)
    (noRequest : ∀ q tsx attr, (q, .request tsx attr) ∉ out)
    (refused : ∀ q tsx, (q, .response tsx .roleConflict) ∈ out →
      p = m.peer ∧ q = m ∧ Conflict role ∧
        ∃ attr, (p, .request tsx attr) ∈ c.outbox m ∧ attr.kind = roleKind (role m)) :
    RoleStep role tieBreaker m c (c.put p ice out) := by
  have takes : ∀ p', MayTake role m p' (c.node p').role ((c.put p ice out).node p').role := by
    intro p'
    rw [put_node]
    split
    · rename_i same
      rw [same]
      exact mayTake
    · exact .inl rfl
  refine ⟨?_, takes⟩
  have old : ∀ {p' q tsx attr}, (q, RoleMsg.request tsx attr) ∈ (c.put p ice out).outbox p' →
      (q, RoleMsg.request tsx attr) ∈ c.outbox p' := by
    intro p' q tsx attr mem
    rcases mem_put c p ice out mem with ⟨_, new⟩ | before
    · exact absurd new (noRequest q tsx attr)
    · exact before
  refine ⟨?_, ?_, ?_, ?_, ?_, ?_, ?_⟩
  · intro p'
    rw [put_node]
    split
    · rename_i same
      rw [same, tie]
      exact inv.tie p
    · exact inv.tie p'
  · rcases takes m.peer with kept | ⟨here, _⟩
    · rw [kept]
      exact inv.stays
    · exact absurd here (Agent.peer_ne m)
  · rcases takes m with kept | ⟨_, conflict, moved⟩
    · rw [kept]
      exact inv.yields
    · exact .inr ⟨conflict, moved⟩
  · intro p' q tsx attr mem
    obtain ⟨dest, fresh, rest⟩ := inv.requests p' q tsx attr (old mem)
    refine ⟨dest, ?_, rest⟩
    rw [put_node]
    split
    · rename_i same
      rw [next, ← same]
      exact fresh
    · exact fresh
  · intro p' q q' tsx attr attr' mem mem'
    exact inv.unique p' q q' tsx attr attr' (old mem) (old mem')
  · intro p' tsx attr mem
    apply mem_put_of_mem
    rw [put_node] at mem
    split at mem
    · rename_i same
      rw [same]
      exact inv.pending p tsx attr (pending _ mem)
    · exact inv.pending p' tsx attr mem
  · intro p' q tsx mem
    have found : p' = m.peer ∧ q = m ∧ Conflict role ∧
        ∃ attr, (p', .request tsx attr) ∈ c.outbox m ∧ attr.kind = roleKind (role m) := by
      rcases mem_put c p ice out mem with ⟨rfl, new⟩ | before
      · exact refused q tsx new
      · exact inv.conflicts p' q tsx before
    obtain ⟨here, dest, conflict, attr, request, kind⟩ := found
    exact ⟨here, dest, conflict, attr, mem_put_of_mem c p ice out request, kind⟩

theorem RoleInv.put_check (inv : RoleInv role tieBreaker m c) (p : Agent) :
    RoleStep role tieBreaker m c
      (c.put p ((c.node p).performCheck p).1 ((c.node p).performCheck p).2) := by
  have fresh : ∀ q attr, (q, RoleMsg.request (c.node p).nextTsx attr) ∉ c.outbox p := by
    intro q attr mem
    exact absurd (inv.requests p q _ attr mem).2.1 (Nat.lt_irrefl _)
  have kept : ∀ p', ((c.put p ((c.node p).performCheck p).1 ((c.node p).performCheck p).2).node
      p').role = (c.node p').role := by
    intro p'
    rw [put_node]
    split
    · rename_i same
      rw [same]
      rfl
    · rfl
  refine ⟨⟨?_, (kept _).trans inv.stays, ?_, ?_, ?_, ?_, ?_⟩, fun p' => .inl (kept p')⟩
  · intro p'
    rw [put_node]
    split
    · rename_i same
      rw [same]
      exact inv.tie p
    · exact inv.tie p'
  · rcases inv.yields with own | ⟨conflict, own⟩
    · exact .inl ((kept m).trans own)
    · exact .inr ⟨conflict, (kept m).trans own⟩
  · intro p' q tsx attr mem
    rcases mem_put _ _ _ _ mem with ⟨rfl, new⟩ | before
    · -- the new request carries the role of this moment
      simp only [RoleSess.performCheck, List.mem_singleton, Prod.mk.injEq, RoleMsg.request.injEq] at new
      obtain ⟨rfl, rfl, rfl⟩ := new
      refine ⟨rfl, by simp [RoleSess.performCheck], inv.tie p', ?_⟩
      rcases inv.mayTake p' with same | ⟨here, conflict, moved⟩
      · exact .inl (congrArg roleKind same)
      · exact .inr ⟨here, conflict, congrArg roleKind moved⟩
    · obtain ⟨dest, early, rest⟩ := inv.requests p' q tsx attr before
      refine ⟨dest, ?_, rest⟩
      rw [put_node]
      split
      · rename_i same
        rw [same] at early
        exact Nat.lt_succ_of_lt early
      · exact early
  · intro p' q q' tsx attr attr' mem mem'
    rcases mem_put _ _ _ _ mem with ⟨rfl, new⟩ | before
    · simp only [RoleSess.performCheck, List.mem_singleton, Prod.mk.injEq, RoleMsg.request.injEq] at new
      obtain ⟨rfl, rfl, rfl⟩ := new
      rcases mem_put _ _ _ _ mem' with ⟨_, new'⟩ | before'
      · simp only [RoleSess.performCheck, List.mem_singleton, Prod.mk.injEq, RoleMsg.request.injEq] at new'
        exact new'.2.2
      · exact absurd before' (fresh q' attr')
    · rcases mem_put _ _ _ _ mem' with ⟨rfl, new'⟩ | before'
      · simp only [RoleSess.performCheck, List.mem_singleton, Prod.mk.injEq, RoleMsg.request.injEq] at new'
        obtain ⟨rfl, rfl, rfl⟩ := new'
        exact absurd before (fresh q attr)
      · exact inv.unique p' q q' tsx attr attr' before before'
  · intro p' tsx attr mem
    rw [put_node] at mem
    split at mem
    · rename_i same
      subst same
      rcases List.mem_cons.mp mem with new | old
      · cases new
        simp [RoleSess.performCheck]
      · exact mem_put_of_mem _ _ _ _ (inv.pending p' tsx attr old)
    · exact mem_put_of_mem _ _ _ _ (inv.pending p' tsx attr mem)
  · intro p' q tsx mem
    rcases mem_put _ _ _ _ mem with ⟨_, new⟩ | before
    · simp [RoleSess.performCheck] at new
    · obtain ⟨here, dest, conflict, attr, request, kind⟩ := inv.conflicts p' q tsx before
      exact ⟨here, dest, conflict, attr, mem_put_of_mem _ _ _ _ request, kind⟩

/-! ## The steps -/

theorem RoleInv.refused (inv : RoleInv role tieBreaker m c) {p q : Agent} {tsx : Nat}
    {attr : RoleAttr} (sent : (p, .response tsx .roleConflict) ∈ c.outbox q)
    (pending : (tsx, attr) ∈ (c.node p).pending) :
    MayTake role m p (c.node p).role (conflictRole attr.kind) := by
  obtain ⟨_, rfl, conflict, attr', request, kind⟩ := inv.conflicts q p tsx sent
  have own := inv.pending p tsx attr pending
  rw [inv.unique p _ _ tsx _ _ request own, kind]
  exact .inr ⟨rfl, conflict, rfl⟩

/-- What a session takes when a check comes in is its role, or the one it yields to;
and if it refuses, the sender is to yield. -/
theorem RoleInv.request (inv : RoleInv role tieBreaker m c) (yields : Yields role tieBreaker m)
    {p q : Agent} {tsx : Nat} {attr : RoleAttr} (sent : (p, .request tsx attr) ∈ c.outbox q) :
    (∃ own, rxRequestRole (c.node p).role (c.node p).tieBreaker (some attr) = some own ∧
        MayTake role m p (c.node p).role own) ∨
      rxRequestRole (c.node p).role (c.node p).tieBreaker (some attr) = none ∧
        p = m.peer ∧ q = m ∧ Conflict role ∧ attr.kind = roleKind (role m) := by
  obtain ⟨dest, _, value, kind⟩ := inv.requests q p tsx attr sent
  rw [inv.tie p]
  rcases Agent.eq_or_peer m p with rfl | rfl
  · -- the one that yields hears the other, which never moved
    obtain rfl : q = p.peer := by rw [dest, Agent.peer_peer]
    left
    have kind' : attr.kind = roleKind (role p.peer) :=
      kind.resolve_right fun moved => Agent.peer_ne p moved.1
    rcases inv.yields with own | ⟨conflict, own⟩
    · rw [own]
      by_cases same : roleKind (role p.peer) = roleKind (role p)
      · rcases rxRequestRole_yields yields (kind'.trans same) same value with kept | ⟨conflict, moved⟩
        · exact ⟨_, kept, .inl rfl⟩
        · exact ⟨_, moved, .inr ⟨rfl, conflict, rfl⟩⟩
      · exact ⟨_, rxRequestRole_other _ (kind' ▸ same), .inl rfl⟩
    · have other : attr.kind ≠ roleKind (c.node p).role := by
        rw [kind', own, conflict.same p.peer p]
        exact (roleKind_yielded role p).symm
      exact ⟨_, rxRequestRole_other _ other, .inl rfl⟩
  · -- the other one hears a check of the old role or of the new
    obtain rfl : q = m := by
      have back := congrArg Agent.peer dest
      rwa [Agent.peer_peer, Agent.peer_peer, eq_comm] at back
    rw [inv.stays]
    rcases kind with old | ⟨_, conflict, new⟩
    · by_cases same : roleKind (role q.peer) = roleKind (role q)
      · rcases rxRequestRole_stays yields old same value with kept | ⟨conflict, refused⟩
        · exact .inl ⟨_, kept, .inl rfl⟩
        · exact .inr ⟨refused, rfl, rfl, conflict, old⟩
      · exact .inl ⟨_, rxRequestRole_other _ (old ▸ Ne.symm same), .inl rfl⟩
    · have other : attr.kind ≠ roleKind (role q.peer) := by
        rw [new, conflict.same q.peer q]
        exact roleKind_yielded role q
      exact .inl ⟨_, rxRequestRole_other _ other, .inl rfl⟩

theorem roleInv_step (yields : Yields role tieBreaker m) (c c' : Config Agent RoleSess RoleMsg)
    (inv : RoleInv role tieBreaker m c) (step : roleProtocol.Step c c') :
    RoleStep role tieBreaker m c c' := by
  have same : ∀ p, MayTake role m p (c.node p).role (c.node p).role := fun p => .inl rfl
  have fewer : ∀ (p : Agent) (request : Nat × RoleAttr),
      ∀ r ∈ ((c.node p).complete request).pending, r ∈ (c.node p).pending := by
    intro p request r mem
    exact List.mem_of_mem_erase mem
  cases step with
  | @act p s out acted =>
    cases acted with
    | check => exact inv.put_check p
    | timeout request =>
      exact inv.put_quiet rfl rfl (same p) (fewer p request) (by simp) (by simp)
  | @deliver p q msg s out sent received =>
    cases received with
    | @accept tsx attr own taken =>
      rcases inv.request yields sent with ⟨own', taken', mayTake⟩ | ⟨refused, _⟩
      · rw [taken] at taken'
        cases taken'
        exact inv.put_quiet rfl rfl mayTake (fun _ mem => mem) (by simp) (by simp)
      · rw [taken] at refused
        cases refused
    | @refuse tsx attr taken =>
      rcases inv.request yields sent with ⟨own', taken', _⟩ | ⟨_, here, dest, conflict, kind⟩
      · rw [taken] at taken'
        cases taken'
      · refine inv.put_quiet rfl rfl (same p) (fun _ mem => mem) (by simp) ?_
        intro q' tsx' mem
        simp only [List.mem_singleton, Prod.mk.injEq, RoleMsg.response.injEq] at mem
        obtain ⟨rfl, rfl, _⟩ := mem
        exact ⟨here, dest, conflict, attr, dest ▸ sent, kind⟩
    | @success tsx attr pending =>
      exact inv.put_quiet rfl rfl (same p) (fewer p _) (by simp) (by simp)
    | @conflict tsx attr next pending here =>
      subst here
      have quiet : RoleStep role tieBreaker m c (c.put p
          { (c.node p).complete (tsx, attr) with role := conflictRole attr.kind } []) :=
        inv.put_quiet rfl rfl (inv.refused sent pending) (fewer p (tsx, attr)) (by simp)
          (by simp)
      have checked := quiet.inv.put_check p
      rw [put_node, if_pos rfl, put_put, List.append_nil] at checked
      refine ⟨checked.inv, ?_⟩
      intro p'
      have first := quiet.takes p'
      have second := checked.takes p'
      rcases second with kept | moved
      · rw [kept]
        exact first
      · exact .inr moved
    | @conflictUnsent tsx attr pending =>
      exact inv.put_quiet rfl rfl (inv.refused sent pending) (fewer p (tsx, attr)) (by simp)
        (by simp)
    | @ignored tsx code attr pending =>
      exact inv.put_quiet rfl rfl (same p) (fewer p (tsx, attr)) (by simp) (by simp)

theorem roleInv_reaches (yields : Yields role tieBreaker m)
    (reaches : roleProtocol.Reaches (roleStart role tieBreaker) c) :
    RoleInv role tieBreaker m c := by
  have keeps : ∀ c c', RoleInv role tieBreaker m c → roleProtocol.Step c c' →
      RoleInv role tieBreaker m c' :=
    fun c c' inv step => (roleInv_step yields c c' inv step).inv
  exact reaches.invariant keeps (roleInv_start role tieBreaker m)

theorem moved_stays {c' : Config Agent RoleSess RoleMsg} (yields : Yields role tieBreaker m)
    (inv : RoleInv role tieBreaker m c) {p : Agent} (moved : (c.node p).role ≠ role p)
    (later : roleProtocol.Reaches c c') : (c'.node p).role = (c.node p).role := by
  rcases inv.mayTake p with same | ⟨rfl, _, own⟩
  · exact absurd same moved
  · have keeps : ∀ d d', RoleInv role tieBreaker p d ∧ (d.node p).role = yielded role p →
        roleProtocol.Step d d' →
        RoleInv role tieBreaker p d' ∧ (d'.node p).role = yielded role p := by
      intro d d' now step
      obtain ⟨inv', takes⟩ := roleInv_step yields d d' now.1 step
      refine ⟨inv', ?_⟩
      rcases takes p with kept | ⟨_, _, taken⟩
      · exact kept.trans now.2
      · exact taken
    rw [own]
    exact (later.invariant keeps ⟨inv, own⟩).2

theorem moved_order (yields : Yields role tieBreaker m) (inv : RoleInv role tieBreaker m c)
    (same : role .one = role .two) {p : Agent} (moved : (c.node p).role ≠ role p) {large : Agent}
    (order : tieBreaker large.peer < tieBreaker large) :
    (c.node large).role = .controlling ∧ (c.node large.peer).role = .controlled := by
  rcases inv.mayTake p with kept | ⟨rfl, conflict, own⟩
  · exact absurd kept moved
  · have both : role p.peer = role p := by
      cases p <;> simp [Agent.peer, same]
    have stays := inv.stays
    have less := yields conflict
    cases now : role p with
    | unknown =>
      obtain ⟨_, known⟩ := conflict
      exfalso
      cases p <;> simp_all [Agent.peer]
    | controlling =>
      rw [now] at less both
      rcases Agent.eq_or_peer p large with rfl | rfl
      · exact absurd order (Nat.not_lt.mpr (Nat.le_of_lt less))
      · rw [Agent.peer_peer, own, stays, both, yielded, now]
        exact ⟨rfl, rfl⟩
    | controlled =>
      rw [now] at less both
      rcases Agent.eq_or_peer p large with rfl | rfl
      · rw [own, stays, both, yielded, now]
        exact ⟨rfl, rfl⟩
      · rw [Agent.peer_peer] at order
        exact absurd order (Nat.not_lt.mpr (Nat.le_of_lt less))

/-- Two sessions, whatever their roles are at the start and whatever the channels do:
each changes its role once at most, and one of them never; with equal roles a change
leaves the one with the larger tie-breaker controlling and the other controlled; with
opposite roles none changes. -/
theorem roleConflict_converges (role : Agent → Role) (tieBreaker : Agent → Nat)
    (distinct : tieBreaker .one ≠ tieBreaker .two) (c : Config Agent RoleSess RoleMsg)
    (reaches : roleProtocol.Reaches (roleStart role tieBreaker) c) :
    (∀ p, (c.node p).role ≠ role p →
      ∀ c', roleProtocol.Reaches c c' → (c'.node p).role = (c.node p).role) ∧
    ((c.node .one).role = role .one ∨ (c.node .two).role = role .two) ∧
    (role .one = role .two → ∀ p, (c.node p).role ≠ role p →
      ∀ large, tieBreaker large.peer < tieBreaker large →
        (c.node large).role = .controlling ∧ (c.node large.peer).role = .controlled) ∧
    (∀ p, role p = .controlling → role p.peer = .controlled →
      (c.node p).role = .controlling ∧ (c.node p.peer).role = .controlled) := by
  obtain ⟨m, yields⟩ := exists_yields role tieBreaker distinct
  have inv := roleInv_reaches yields reaches
  refine ⟨?_, ?_, ?_, ?_⟩
  · intro p moved c' later
    exact moved_stays yields inv moved later
  · have stays := inv.stays
    cases m with
    | one => exact .inr stays
    | two => exact .inl stays
  · intro same p moved large order
    exact moved_order yields inv same moved order
  · intro p controlling controlled
    have apart : ¬ Conflict role := by
      intro conflict
      have kinds := conflict.same p p.peer
      rw [controlling, controlled] at kinds
      exact absurd kinds (by decide)
    have kept : ∀ q, (c.node q).role = role q := fun q =>
      (inv.mayTake q).resolve_right fun moved => apart moved.2.1
    rw [kept p, kept p.peer]
    exact ⟨controlling, controlled⟩

/-- The tie-breakers of an example: the first session has the larger one. -/
def exampleTies : Agent → Nat
  | .one => 5
  | .two => 3

/-- The second of them. -/
def yielding : RoleSess := ⟨.controlling, 3, [], 0⟩

/-- Both controlling: the check of the second session is refused, and it yields. -/
theorem roleConflict_converges_refused :
    ∃ c, roleProtocol.Reaches (roleStart (fun _ => .controlling) exampleTies) c ∧
      (c.node .two).role ≠ .controlling ∧
      (c.node .one).role = .controlling ∧ (c.node .two).role = .controlled := by
  have sends := Protocol.Step.act (P := roleProtocol) (p := .two)
    (c := roleStart (fun _ => .controlling) exampleTies) RoleAct.check
  have refuses := Protocol.Step.deliver (P := roleProtocol) (p := .one) (q := .two)
    (m := .request 0 ⟨.iceControlling, 3⟩)
    (c := (roleStart (fun _ => .controlling) exampleTies).put .two
      (yielding.performCheck .two).1 (yielding.performCheck .two).2)
    (by decide) (.refuse rfl)
  have yields := Protocol.Step.deliver (P := roleProtocol) (p := .two) (q := .one)
    (m := .response 0 .roleConflict)
    (c := ((roleStart (fun _ => .controlling) exampleTies).put .two
      (yielding.performCheck .two).1 (yielding.performCheck .two).2).put .one ⟨.controlling, 5, [], 0⟩
        [(.two, .response 0 .roleConflict)])
    (by decide) (.conflictUnsent (show (0, ⟨.iceControlling, 3⟩) ∈ _ from List.mem_cons_self))
  have reaches := ((Relation.ReflTransGen.refl.tail sends).tail refuses).tail yields
  obtain ⟨_, _, order, _⟩ := roleConflict_converges (fun _ => .controlling) exampleTies (by decide)
    _ reaches
  have moved : conflictRole .iceControlling ≠ .controlling := by decide
  exact ⟨_, reaches, moved, order rfl .two moved .one (by decide)⟩

end Pjsip.Pjnath.Ice
