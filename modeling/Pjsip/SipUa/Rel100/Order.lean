import Pjsip.SipUa.Rel100.Model

/-!
# Reliable responses in order

What RFC 3262 asks of a server, read off the log, and the invariant that gives it. As long as the
transaction takes responses the list holds what has not been acknowledged, and only its first is
ever sent; after that nothing is. Two things break this: a response passed after the module's own
500, and a timer that runs on after the session has ended.
-/

namespace Pjsip.SipUa.Rel100

open Pjsip.Base

variable {inv : Invite}

/-! ## What is wanted of the log -/

/-- The RSeq that comes after those in the log. -/
def nextRseq (inv : Invite) : List Event → UInt32
  | [] => inv.firstRseq
  | .passed _ (some rseq) :: _ => rseq + 1
  | _ :: before => nextRseq inv before

/-- A PRACK with the RSeq of the response and the CSeq of the INVITE came in after the response
had been passed. -/
def Acked (inv : Invite) (log : List Event) (tdata : Response) (rseq : UInt32) : Prop :=
  ∃ newer older, log = newer ++ .prack rseq inv.cseq :: older ∧ .passed tdata (some rseq) ∈ older

/-- What is wanted of an event, by the log before it. A reliable response goes out after all the
earlier ones have been acknowledged, a 2xx after those with a body; nothing that has left the
list goes out. -/
def Proper (inv : Invite) : Event → List Event → Prop
  | .passed _ (some rseq), before => rseq = nextRseq inv before
  | .sent tdata, before =>
    .left tdata.id ∉ before
    ∧ ∀ earlier rseq, .passed earlier (some rseq) ∈ before → earlier.id < tdata.id →
      tdata.code < 200 ∨ tdata.code / 100 = 2 ∧ earlier.body = true → Acked inv before earlier rseq
  | _, _ => True

def Ordered (inv : Invite) : List Event → Prop
  | [] => True
  | e :: before => Proper inv e before ∧ Ordered inv before

/-- The responses have been delivered in order, and as long as one waits the timer runs. -/
def Delivers (inv : Invite) (dd : DlgData) : Prop :=
  Ordered inv dd.log ∧ ∀ uas, dd.uasState = some uas → uas.txDataList ≠ [] → uas.timer.isSome

/-! ## What is done with the module -/

/-- Provisional responses above 100 and then at most one final one are passed, none when there is
no transaction any more: `pjsip_inv_send_msg` asks for that. -/
def Legal (dd : DlgData) : Act → Prop
  | .txResponse code _ _ => 100 < code ∧ dd.tsx ≠ .terminated
    ∧ ∀ tdata rseq, .passed tdata rseq ∈ dd.log → tdata.code < 200
  | _ => True

/-- No provisional response is passed after the module has answered with 500, and the timer does
not expire when nothing waits, unless it is the seventh time. -/
def Unhampered (dd : DlgData) : Act → Prop
  | .txResponse code _ _ => code < 200 → dd.tsx ≠ .completed
  | .timeout _ => ∀ uas, dd.uasState = some uas → uas.timer.isSome →
    uas.txDataList ≠ [] ∨ 6 ≤ uas.retransmitCount
  | _ => True

/-! ## Logs -/

section Logs

variable {log : List Event} {e : Event} {tdata : Response} {rseq : UInt32}

theorem Acked.cons (acked : Acked inv log tdata rseq) : Acked inv (e :: log) tdata rseq := by
  obtain ⟨newer, older, rfl, mem⟩ := acked
  exact ⟨e :: newer, older, rfl, mem⟩

theorem Acked.append (acked : Acked inv log tdata rseq) (more : List Event) :
    Acked inv (more ++ log) tdata rseq := by
  obtain ⟨newer, older, rfl, mem⟩ := acked
  exact ⟨more ++ newer, older, by rw [List.append_assoc], mem⟩

/-- The events of a cleared list. -/
def leaves (list : List TxDataList) : List Event :=
  (list.map fun tl => Event.left tl.tdata.id).reverse

variable {list : List TxDataList}

theorem mem_leaves : e ∈ leaves list ↔ ∃ tl ∈ list, e = .left tl.tdata.id := by
  simp [leaves, eq_comm]

theorem passed_mem_leaves {reliable : Option UInt32} :
    .passed tdata reliable ∈ leaves list ++ log ↔ .passed tdata reliable ∈ log := by
  rw [List.mem_append, or_iff_right]
  intro mem
  obtain ⟨tl, -, same⟩ := mem_leaves.1 mem
  nomatch same

theorem leaves_induction {P : List Event → Prop} (base : P log)
    (step : ∀ id events, P events → P (.left id :: events)) : P (leaves list ++ log) := by
  rw [leaves, ← List.map_reverse]
  induction list.reverse with
  | nil => exact base
  | cons tl list ih => exact step _ _ ih

theorem ordered_leaves (ordered : Ordered inv log) : Ordered inv (leaves list ++ log) :=
  leaves_induction ordered fun _ _ ih => ⟨trivial, ih⟩

end Logs

/-! ## The invariant -/

/-- The number of a response that waits, if it is to be acknowledged. -/
def TxDataList.reliable (tl : TxDataList) : Option UInt32 :=
  if tl.tdata.code < 200 then some tl.rseq else none

variable {tl : TxDataList}

theorem TxDataList.rseq_of_reliable {rseq : UInt32}
    (reliable : tl.reliable = some rseq) : tl.rseq = rseq := by
  unfold TxDataList.reliable at reliable
  split at reliable
  · exact Option.some.inj reliable
  · nomatch reliable

/-- How the list goes with the log. -/
structure Listed (inv : Invite) (nextId : Nat) (uas : UasState) (log : List Event) : Prop where
  ordered : Ordered inv log
  cseq : uas.cseq = inv.cseq
  rseq : uas.rseq = nextRseq inv log
  ids : ∀ tdata reliable, .passed tdata reliable ∈ log → tdata.id < nextId
  leftIds : ∀ id, .left id ∈ log → id < nextId
  /-- What waits has been passed, and has not left. -/
  waits : ∀ tl ∈ uas.txDataList, .passed tl.tdata tl.reliable ∈ log ∧ .left tl.tdata.id ∉ log
  /-- It waits in order; only the last may be a final response. -/
  inOrder : uas.txDataList.Pairwise fun tl later =>
    tl.tdata.id < later.tdata.id ∧ tl.tdata.code < 200
  /-- What does not wait has been acknowledged. -/
  covered : ∀ tdata rseq, .passed tdata (some rseq) ∈ log →
    (∃ tl ∈ uas.txDataList, tl.tdata = tdata ∧ tl.rseq = rseq) ∨ Acked inv log tdata rseq

/-- The timer runs while something waits, and a provisional response is first. -/
structure Armed (uas : UasState) : Prop where
  timerId : uas.timerId = uas.timer.isSome
  runs : uas.txDataList ≠ [] → uas.timer.isSome
  idle : uas.txDataList = [] → uas.timer = none
  counted : uas.timer.isSome → uas.retransmitCount ≠ 0
  first : ∀ tl, uas.txDataList.head? = some tl → tl.tdata.code < 200

/-- Before the first reliable response. -/
structure Unused (inv : Invite) (dd : DlgData) : Prop where
  ordered : Ordered inv dd.log
  ids : ∀ tdata reliable, .passed tdata reliable ∈ dd.log → tdata.id < dd.nextId
  plain : ∀ e ∈ dd.log, (∃ tdata, e = .passed tdata none) ∨ (∃ tdata, e = .sent tdata)
    ∨ ∃ rseq cseq, e = .prack rseq cseq
  tsx : dd.tsx = .completed → ∃ tdata reliable, .passed tdata reliable ∈ dd.log ∧ 200 ≤ tdata.code

/-- The transaction takes no further response, and nothing waits. A timer may be left over when the
transaction has been terminated. -/
structure Over (inv : Invite) (dd : DlgData) (uas : UasState) : Prop where
  ordered : Ordered inv dd.log
  tsx : dd.tsx ≠ .proceeding
  empty : uas.txDataList = []
  idle : dd.tsx = .completed → uas.timer = none

/-- What holds between two calls. -/
def Sound (inv : Invite) (dd : DlgData) : Prop :=
  match dd.uasState with
  | some uas =>
    dd.tsx = .proceeding ∧ Listed inv dd.nextId uas dd.log ∧ Armed uas ∨ Over inv dd uas
  | none => Unused inv dd

theorem Sound.delivers {dd : DlgData} (sound : Sound inv dd) : Delivers inv dd := by
  obtain ⟨state, tsx, nextId, log⟩ := dd
  cases state with
  | none =>
    have unused : Unused inv ⟨none, tsx, nextId, log⟩ := sound
    exact ⟨unused.ordered, fun uas same => nomatch same⟩
  | some uas =>
    rcases sound with ⟨-, listed, armed⟩ | spent
    · refine ⟨listed.ordered, fun uas' same waits => ?_⟩
      cases same
      exact armed.runs waits
    · refine ⟨spent.ordered, fun uas' same waits => ?_⟩
      cases same
      exact absurd spent.empty waits

/-! ## The list and the log -/

section Listing

variable {nextId : Nat} {uas : UasState} {log : List Event}

theorem Listed.retime (listed : Listed inv nextId uas log) (retransmitCount : Nat)
    (timerId : Bool) (timer : Option Nat) :
    Listed inv nextId { uas with retransmitCount, timerId, timer } log :=
  { listed with }

theorem Listed.leaves_lt (listed : Listed inv nextId uas log) {id : Nat}
    (mem : .left id ∈ leaves uas.txDataList ++ log) : id < nextId := by
  rcases List.mem_append.1 mem with mem | mem
  · obtain ⟨tl, there, same⟩ := mem_leaves.1 mem
    cases same
    exact listed.ids _ _ (listed.waits tl there).1
  · exact listed.leftIds id mem

theorem Listed.note (listed : Listed inv nextId uas log) {e : Event} (proper : Proper inv e log)
    (other : ∀ tdata reliable, e ≠ .passed tdata reliable) (stays : ∀ id, e ≠ .left id) :
    Listed inv nextId uas (e :: log) where
  ordered := ⟨proper, listed.ordered⟩
  cseq := listed.cseq
  rseq := by
    rw [listed.rseq]
    cases e with
    | passed tdata reliable => exact absurd rfl (other tdata reliable)
    | sent tdata => rfl
    | prack rseq cseq => rfl
    | left id => rfl
    | timedOut => rfl
  ids tdata reliable mem := by
    rcases List.mem_cons.1 mem with same | mem
    · exact absurd same.symm (other tdata reliable)
    · exact listed.ids tdata reliable mem
  leftIds id mem := by
    rcases List.mem_cons.1 mem with same | mem
    · exact absurd same.symm (stays id)
    · exact listed.leftIds id mem
  waits tl mem := by
    obtain ⟨passed, notLeft⟩ := listed.waits tl mem
    refine ⟨List.mem_cons_of_mem _ passed, fun left => ?_⟩
    rcases List.mem_cons.1 left with same | left
    · exact stays _ same.symm
    · exact notLeft left
  inOrder := listed.inOrder
  covered tdata rseq mem := by
    rcases List.mem_cons.1 mem with same | mem
    · exact absurd same.symm (other tdata (some rseq))
    · rcases listed.covered tdata rseq mem with waits | acked
      · exact .inl waits
      · exact .inr acked.cons

theorem Listed.first_proper (listed : Listed inv nextId uas log)
    {rest : List TxDataList} (list : uas.txDataList = tl :: rest) :
    Proper inv (.sent tl.tdata) log := by
  refine ⟨(listed.waits tl (list ▸ List.mem_cons_self)).2, fun earlier rseq mem before _ => ?_⟩
  rcases listed.covered earlier rseq mem with ⟨other, there, rfl, -⟩ | acked
  · -- nothing in the list is earlier than the first
    rw [list] at there
    rcases List.mem_cons.1 there with rfl | later
    · omega
    · have order := listed.inOrder
      rw [list, List.pairwise_cons] at order
      have after := (order.1 other later).1
      omega
  · exact acked

theorem Listed.add (listed : Listed inv nextId uas log) (tl : TxDataList)
    (id : tl.tdata.id = nextId)
    (provisional : ∀ tdata reliable, .passed tdata reliable ∈ log → tdata.code < 200)
    {rseq : UInt32} (proper : Proper inv (.passed tl.tdata tl.reliable) log)
    (follows : rseq = nextRseq inv (.passed tl.tdata tl.reliable :: log)) :
    Listed inv (nextId + 1) { uas with rseq, txDataList := uas.txDataList ++ [tl] }
      (.passed tl.tdata tl.reliable :: log) where
  ordered := ⟨proper, listed.ordered⟩
  cseq := listed.cseq
  rseq := follows
  ids tdata reliable mem := by
    rcases List.mem_cons.1 mem with same | mem
    · cases same
      omega
    · have old := listed.ids tdata reliable mem
      omega
  leftIds other mem := by
    have old := listed.leftIds other ((List.mem_cons.1 mem).resolve_left (by simp))
    omega
  waits other mem := by
    rcases List.mem_append.1 mem with mem | mem
    · obtain ⟨passed, notLeft⟩ := listed.waits other mem
      exact ⟨List.mem_cons_of_mem _ passed,
        fun left => notLeft ((List.mem_cons.1 left).resolve_left (by simp))⟩
    · obtain rfl := List.mem_singleton.1 mem
      refine ⟨List.mem_cons_self, fun left => ?_⟩
      have old := listed.leftIds _ ((List.mem_cons.1 left).resolve_left (by simp))
      omega
  inOrder := by
    rw [List.pairwise_append]
    refine ⟨listed.inOrder, List.pairwise_singleton _ _, fun first mem later new => ?_⟩
    obtain rfl := List.mem_singleton.1 new
    have passed := (listed.waits first mem).1
    exact ⟨id ▸ listed.ids _ _ passed, provisional _ _ passed⟩
  covered tdata rseq mem := by
    rcases List.mem_cons.1 mem with same | mem
    · injection same with own number
      exact .inl ⟨tl, List.mem_append_right _ List.mem_cons_self, own.symm,
        TxDataList.rseq_of_reliable number.symm⟩
    · rcases listed.covered tdata rseq mem with ⟨other, there, same⟩ | acked
      · exact .inl ⟨other, List.mem_append_left _ there, same⟩
      · exact .inr acked.cons

theorem Listed.pop (listed : Listed inv nextId uas log)
    {rest : List TxDataList} (list : uas.txDataList = tl :: rest)
    (acked : Acked inv log tl.tdata tl.rseq) (provisional : tl.tdata.code < 200) :
    Listed inv nextId { uas with txDataList := rest } (.left tl.tdata.id :: log) where
  ordered := ⟨trivial, listed.ordered⟩
  cseq := listed.cseq
  rseq := listed.rseq
  ids tdata reliable mem := listed.ids tdata reliable ((List.mem_cons.1 mem).resolve_left nofun)
  leftIds id mem := by
    rcases List.mem_cons.1 mem with same | mem
    · cases same
      exact listed.ids _ _ (listed.waits tl (list ▸ List.mem_cons_self)).1
    · exact listed.leftIds id mem
  waits other mem := by
    obtain ⟨passed, notLeft⟩ := listed.waits other (list ▸ List.mem_cons_of_mem _ mem)
    refine ⟨List.mem_cons_of_mem _ passed, fun left => ?_⟩
    rcases List.mem_cons.1 left with same | left
    · have order := listed.inOrder
      rw [list, List.pairwise_cons] at order
      have after := (order.1 other mem).1
      injection same with same
      omega
    · exact notLeft left
  inOrder := by
    have order := listed.inOrder
    rw [list, List.pairwise_cons] at order
    exact order.2
  covered tdata rseq mem := by
    have passed : .passed tdata (some rseq) ∈ log := (List.mem_cons.1 mem).resolve_left nofun
    rcases listed.covered tdata rseq passed with ⟨other, there, same⟩ | before
    · rw [list] at there
      rcases List.mem_cons.1 there with rfl | there
      · obtain ⟨rfl, rfl⟩ := same
        exact .inr acked.cons
      · exact .inl ⟨other, there, same⟩
    · exact .inr before.cons

end Listing

end Pjsip.SipUa.Rel100
