import Mathlib.Data.List.Count
import Mathlib.Data.List.Perm.Basic
import Pjsip.Pjnath.Stun.EncodeLayout
import Pjsip.Pjnath.Stun.Session

/-!
# The requests that are pending (`pending_request_list`)

A transaction waits while it is neither complete nor about to be destroyed. What a step does
to the list is put as an exchange: some entries are replaced by others, the rest stays, and
the transactions that wait for a request are counted on both sides, with what the
application is told.
-/

namespace Pjsip.Pjnath.Stun

open Pjsip.Base

/-! ## What is counted -/

def ClientTsx.waits (tsx : ClientTsx) : Bool := !tsx.complete && !tsx.isDestroying

/-- A transaction of this request waits. -/
def TxData.waitsFor (request : Nat) (tdata : TxData) : Bool :=
  tdata.request == request && tdata.clientTsx.any ClientTsx.waits

def waiting (request : Nat) (entries : List TxData) : Nat :=
  entries.countP (·.waitsFor request)

def accepted (request : Nat) (events : List StunEvent) : Nat :=
  events.countP fun
    | .accepted r => r == request
    | _ => false

def cancelled (request : Nat) (events : List StunEvent) : Nat :=
  events.countP fun
    | .cancelled r => r == request
    | _ => false

def completed (request : Nat) (events : List StunEvent) : Nat :=
  events.countP fun
    | .requestComplete r _ _ => r == request
    | _ => false

/-- No request is taken or completed. -/
def Idle (events : List StunEvent) : Prop :=
  ∀ request, accepted request events = 0 ∧ completed request events = 0

theorem Idle.nil : Idle [] := fun _ => ⟨rfl, rfl⟩

theorem Idle.sent (msg : StunMsg) : Idle [.sent msg] := fun _ => ⟨rfl, rfl⟩

theorem accepted_append (request : Nat) (events more : List StunEvent) :
    accepted request (events ++ more) = accepted request events + accepted request more :=
  List.countP_append

theorem completed_append (request : Nat) (events more : List StunEvent) :
    completed request (events ++ more) = completed request events + completed request more :=
  List.countP_append

theorem cancelled_append (request : Nat) (events more : List StunEvent) :
    cancelled request (events ++ more) = cancelled request events + cancelled request more :=
  List.countP_append

theorem accepted_pos {request : Nat} {events : List StunEvent} :
    0 < accepted request events ↔ .accepted request ∈ events := by
  rw [accepted, List.countP_pos_iff]
  constructor
  · rintro ⟨event, mem, here⟩
    cases event <;> simp only [beq_iff_eq, Bool.false_eq_true] at here
    rwa [here] at mem
  · intro mem
    exact ⟨_, mem, by simp⟩

theorem cancelled_pos {request : Nat} {events : List StunEvent} :
    0 < cancelled request events ↔ .cancelled request ∈ events := by
  rw [cancelled, List.countP_pos_iff]
  constructor
  · rintro ⟨event, mem, here⟩
    cases event <;> simp only [beq_iff_eq, Bool.false_eq_true] at here
    rwa [here] at mem
  · intro mem
    exact ⟨_, mem, by simp⟩

theorem waiting_append (request : Nat) (entries more : List TxData) :
    waiting request (entries ++ more) = waiting request entries + waiting request more :=
  List.countP_append

/-! ## Sound transactions -/

/-- What holds of a transaction at all times. -/
structure ClientTsx.Steady (tsx : ClientTsx) : Prop where
  calls : tsx.waits = true → tsx.notifies = true
  silent : tsx.isDestroying = true → tsx.notifies = false
  /-- Only over a stream is there no retransmission, and the timer is for the timeout. -/
  retransmits : tsx.requireRetransmit = true ∨ maxTransmitCount ≤ tsx.transmitCount
  doomed : tsx.destroyTimer = true → tsx.isDestroying = true

/-- What holds of it between the calls: while it waits, its timer is scheduled. -/
structure ClientTsx.Sound (tsx : ClientTsx) : Prop extends tsx.Steady where
  armed : tsx.waits = true → tsx.retransmitTimer = true

/-- An entry of the list, with a transaction of this kind. -/
structure TxData.Holds (kind : ClientTsx → Prop) (next : Nat) (tdata : TxData) : Prop where
  handle : tdata.handle < next
  request : tdata.request < next
  isRequest : isRequest tdata.msg.hdr.type = true
  tsx : ∃ tsx, tdata.clientTsx = some tsx ∧ kind tsx

abbrev TxData.Sound : Nat → TxData → Prop := TxData.Holds ClientTsx.Sound

structure StunSession.Sound (sess : StunSession) : Prop where
  distinct : (sess.pending.map (·.handle)).Nodup
  entries : ∀ tdata ∈ sess.pending, tdata.Sound sess.next

theorem TxData.Holds.mono {kind : ClientTsx → Prop} {next later : Nat} {tdata : TxData}
    (holds : tdata.Holds kind next) (order : next ≤ later) : tdata.Holds kind later :=
  { holds with
    handle := Nat.lt_of_lt_of_le holds.handle order
    request := Nat.lt_of_lt_of_le holds.request order }

theorem TxData.Holds.modify {kind kind' : ClientTsx → Prop} {next : Nat} {tdata : TxData}
    (holds : tdata.Holds kind next) {f : ClientTsx → ClientTsx}
    (keeps : ∀ tsx, tdata.clientTsx = some tsx → kind tsx → kind' (f tsx)) :
    (tdata.modifyTsx f).Holds kind' next := by
  obtain ⟨tsx, here, kindly⟩ := holds.tsx
  refine ⟨holds.handle, holds.request, holds.isRequest, f tsx, ?_, keeps tsx here kindly⟩
  rw [TxData.modifyTsx, here, Option.map_some]

variable {tsx : ClientTsx}

theorem ClientTsx.Steady.sound (steady : tsx.Steady) (idle : tsx.waits = false) : tsx.Sound :=
  { steady with
    armed := fun waits => by
      rw [idle] at waits
      cases waits }

theorem ClientTsx.Steady.timerOff (steady : tsx.Steady) :
    ClientTsx.Steady { tsx with retransmitTimer := false } :=
  { steady with }

theorem ClientTsx.Steady.completed (steady : tsx.Steady) :
    ClientTsx.Steady { tsx with complete := true } :=
  ⟨fun waits => by simp [ClientTsx.waits] at waits, steady.silent, steady.retransmits,
    steady.doomed⟩

theorem ClientTsx.Steady.scheduleDestroy (steady : tsx.Steady) :
    tsx.scheduleDestroy.Sound ∧ tsx.scheduleDestroy.waits = false := by
  unfold ClientTsx.scheduleDestroy
  split
  · next gone =>
    have idle : tsx.waits = false := by rw [ClientTsx.waits, gone, Bool.not_true, Bool.and_false]
    exact ⟨steady.sound idle, idle⟩
  · have idle : ClientTsx.waits { tsx with
        isDestroying := true, destroyTimer := true, retransmitTimer := false
        notifies := false } = false := by
      rw [ClientTsx.waits, Bool.not_true, Bool.and_false]
    refine ⟨⟨⟨fun waits => ?_, fun _ => rfl, steady.retransmits, fun _ => rfl⟩, fun waits => ?_⟩,
      idle⟩
    · rw [idle] at waits
      cases waits
    · rw [idle] at waits
      cases waits

theorem TxData.waitsFor_eq {tdata : TxData} (here : tdata.clientTsx = some tsx)
    (request : Nat) : tdata.waitsFor request = (tdata.request == request && tsx.waits) := by
  rw [TxData.waitsFor, here, Option.any_some]

/-! ## Exchanges -/

/-- Some entries are replaced by others, which are new or stay at their address. -/
structure Exchange (sess after : StunSession) (events : List StunEvent)
    (gone left rest : List TxData) : Prop where
  gone_rest : sess.pending.Perm (gone ++ rest)
  left_rest : after.pending.Perm (left ++ rest)
  next : sess.next ≤ after.next
  handles : ∀ tdata ∈ left, (∃ old ∈ gone, old.handle = tdata.handle) ∨ sess.next ≤ tdata.handle
  distinct : (left.map (·.handle)).Nodup
  sound : ∀ tdata ∈ left, tdata.Sound after.next
  fresh : ∀ request, accepted request events = 0
    ∨ accepted request events = 1 ∧ sess.next ≤ request ∧ request < after.next
  /-- At most what has waited, or is taken, waits or is complete. -/
  spent : ∀ request, waiting request left + completed request events
    ≤ waiting request gone + accepted request events
  /-- What has waited, or is taken, waits, is complete, or is cancelled. -/
  kept : ∀ request, waiting request gone + accepted request events
    ≤ waiting request left + completed request events + cancelled request events

namespace Exchange

variable {sess after : StunSession} {events : List StunEvent} {gone left rest : List TxData}

theorem keeps_sound (exchange : Exchange sess after events gone left rest)
    (sound : sess.Sound) : after.Sound := by
  have distinct := (exchange.gone_rest.map (·.handle)).nodup_iff.1 sound.distinct
  rw [List.map_append, List.nodup_append] at distinct
  obtain ⟨-, distinctRest, apart⟩ := distinct
  have restSound : ∀ tdata ∈ rest, tdata.Sound sess.next := fun tdata mem =>
    sound.entries tdata (exchange.gone_rest.mem_iff.2 (List.mem_append_right gone mem))
  constructor
  · refine (exchange.left_rest.map (·.handle)).nodup_iff.2 ?_
    rw [List.map_append, List.nodup_append]
    refine ⟨exchange.distinct, distinctRest, ?_⟩
    rintro h inLeft h' inRest rfl
    obtain ⟨tdata, mem, rfl⟩ := List.mem_map.1 inLeft
    obtain ⟨other, memRest, same⟩ := List.mem_map.1 inRest
    rcases exchange.handles tdata mem with ⟨old, memGone, kept⟩ | new
    · exact apart _ (List.mem_map_of_mem memGone) _ inRest kept
    · -- a new address is not that of an entry that stays
      have below := (restSound other memRest).handle
      omega
  · intro tdata mem
    rcases List.mem_append.1 (exchange.left_rest.mem_iff.1 mem) with inLeft | inRest
    · exact exchange.sound tdata inLeft
    · exact (restSound tdata inRest).mono exchange.next

theorem waiting_before (exchange : Exchange sess after events gone left rest) (request : Nat) :
    waiting request sess.pending = waiting request gone + waiting request rest := by
  rw [← waiting_append]
  exact exchange.gone_rest.countP_eq _

theorem waiting_after (exchange : Exchange sess after events gone left rest) (request : Nat) :
    waiting request after.pending = waiting request left + waiting request rest := by
  rw [← waiting_append]
  exact exchange.left_rest.countP_eq _

end Exchange

theorem Exchange.idle {sess after : StunSession} {events : List StunEvent}
    (pending : after.pending = sess.pending) (next : sess.next ≤ after.next)
    (idle : Idle events) : Exchange sess after events [] [] sess.pending where
  gone_rest := .refl _
  left_rest := by
    rw [pending]
    exact .refl _
  next := next
  handles := List.forall_mem_nil _
  distinct := List.nodup_nil
  sound := List.forall_mem_nil _
  fresh := fun request => .inl (idle request).1
  spent := fun request => by
    rw [(idle request).2]
    exact Nat.le_add_right _ _
  kept := fun request => by
    rw [(idle request).1, Nat.add_assoc]
    exact Nat.le_add_right _ _

theorem Exchange.after_idle {sess after : StunSession} {events more : List StunEvent}
    {gone left rest : List TxData} (exchange : Exchange sess after more gone left rest)
    (idle : Idle events) : Exchange sess after (events ++ more) gone left rest :=
  { exchange with
    fresh := fun request => by
      rw [accepted_append, (idle request).1, Nat.zero_add]
      exact exchange.fresh request
    spent := fun request => by
      rw [accepted_append, completed_append, (idle request).1, (idle request).2, Nat.zero_add,
        Nat.zero_add]
      exact exchange.spent request
    kept := fun request => by
      have kept := exchange.kept request
      rw [accepted_append, completed_append, cancelled_append, (idle request).1, (idle request).2]
      omega }

/-! ## One entry of the list -/

theorem perm_of_mem {α : Type} {entry : α} {entries : List α} (mem : entry ∈ entries) :
    ∃ rest, entries.Perm (entry :: rest) := by
  obtain ⟨front, back, rfl⟩ := List.append_of_mem mem
  exact ⟨front ++ back, List.perm_middle⟩

/-- The entry at an address, and those at other addresses. -/
structure StunSession.Selects (sess : StunSession) (tdata : TxData) (rest : List TxData) :
    Prop where
  perm : sess.pending.Perm (tdata :: rest)
  others : ∀ other ∈ rest, other.handle ≠ tdata.handle

namespace StunSession.Selects

variable {sess : StunSession} {tdata : TxData} {rest : List TxData}

theorem of_sound (sound : sess.Sound) (mem : tdata ∈ sess.pending) :
    ∃ rest, sess.Selects tdata rest := by
  obtain ⟨rest, perm⟩ := perm_of_mem mem
  refine ⟨rest, perm, fun other inRest same => ?_⟩
  have distinct := (perm.map (·.handle)).nodup_iff.1 sound.distinct
  rw [List.map_cons, List.nodup_cons] at distinct
  exact distinct.1 (same ▸ List.mem_map_of_mem inRest)

theorem modify (selects : sess.Selects tdata rest) {f : TxData → TxData}
    (stays : (f tdata).handle = tdata.handle) :
    (sess.modifyPending tdata.handle f).Selects (f tdata) rest := by
  refine ⟨(selects.perm.map _).trans ?_, fun other mem => ?_⟩
  · rw [List.map_cons, if_pos rfl]
    refine List.Perm.cons _ (.of_eq ?_)
    conv => rhs; rw [← List.map_id rest]
    refine List.map_congr_left fun other mem => ?_
    rw [if_neg (selects.others other mem), id]
  · rw [stays]
    exact selects.others other mem

theorem erase (selects : sess.Selects tdata rest) :
    (sess.erase tdata.handle).pending.Perm rest := by
  refine (selects.perm.filter _).trans (.of_eq ?_)
  rw [List.filter_cons_of_neg (by simp)]
  refine List.filter_eq_self.2 fun other mem => ?_
  exact decide_eq_true (selects.others other mem)

theorem add (selects : sess.Selects tdata rest) (below : tdata.handle < sess.next) (new : TxData)
    (tsx : ClientTsx) :
    (sess.tsxAdd new tsx).Selects tdata
      ({ new with handle := sess.next, clientTsx := some tsx } :: rest) := by
  refine ⟨(List.Perm.cons _ selects.perm).trans (.swap _ _ _), fun other mem => ?_⟩
  rcases List.mem_cons.1 mem with rfl | inRest
  · exact Nat.ne_of_gt below
  · exact selects.others other inRest

theorem congr {after : StunSession} (selects : sess.Selects tdata rest)
    (same : after.pending = sess.pending) : after.Selects tdata rest :=
  ⟨same ▸ selects.perm, selects.others⟩

end StunSession.Selects

theorem Exchange.retime {sess between after : StunSession} {events : List StunEvent}
    {tdata entry : TxData} {left rest : List TxData}
    (exchange : Exchange between after events [entry] left rest)
    (selects : sess.Selects tdata rest) (next : between.next = sess.next)
    (handle : entry.handle = tdata.handle)
    (same : ∀ request, waiting request [entry] = waiting request [tdata]) :
    Exchange sess after events [tdata] left rest where
  gone_rest := selects.perm
  left_rest := exchange.left_rest
  next := next ▸ exchange.next
  handles := by
    intro new mem
    rcases exchange.handles new mem with ⟨old, here, stays⟩ | fresh
    · rw [List.mem_singleton.1 here, handle] at stays
      exact .inl ⟨tdata, List.mem_singleton.2 rfl, stays⟩
    · exact .inr (next ▸ fresh)
  distinct := exchange.distinct
  sound := exchange.sound
  fresh := fun request => next ▸ exchange.fresh request
  spent := fun request => same request ▸ exchange.spent request
  kept := fun request => same request ▸ exchange.kept request

theorem Exchange.modify {sess : StunSession} {events : List StunEvent} {tdata : TxData}
    {rest : List TxData} {tsx : ClientTsx} {f : ClientTsx → ClientTsx}
    (selects : sess.Selects tdata rest) (holds : tdata.Sound sess.next)
    (here : tdata.clientTsx = some tsx) (sound : (f tsx).Sound)
    (waits : (f tsx).waits = tsx.waits) (idle : Idle events) :
    Exchange sess (sess.modifyPending tdata.handle (·.modifyTsx f)) events [tdata]
      [tdata.modifyTsx f] rest := by
  have here' : (tdata.modifyTsx f).clientTsx = some (f tsx) := by
    rw [TxData.modifyTsx, here, Option.map_some]
  have same : ∀ request, waiting request [tdata.modifyTsx f] = waiting request [tdata] := by
    intro request
    rw [waiting, waiting, List.countP_singleton, List.countP_singleton,
      TxData.waitsFor_eq here', TxData.waitsFor_eq here, waits]
    rfl
  refine ⟨selects.perm, (selects.modify rfl).perm, Nat.le_refl _, fun new mem => ?_, by simp,
    fun new mem => ?_, fun request => .inl (idle request).1, fun request => ?_, fun request => ?_⟩
  · rw [List.mem_singleton.1 mem]
    exact .inl ⟨tdata, List.mem_singleton.2 rfl, rfl⟩
  · rw [List.mem_singleton.1 mem]
    refine holds.modify fun other stands _ => ?_
    rw [here] at stands
    cases stands
    exact sound
  · rw [same, (idle request).1, (idle request).2]
  · rw [same, (idle request).1]
    omega

end Pjsip.Pjnath.Stun
