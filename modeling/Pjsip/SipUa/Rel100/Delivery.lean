import Pjsip.SipUa.Rel100.Order

/-!
# Runs that deliver in order

Each call keeps the invariant of the list, whatever becomes of the messages that are sent. One
transmission function is called from three places; what it leaves behind is shown once.
-/

namespace Pjsip.SipUa.Rel100

open Pjsip.Base

variable {inv : Invite}

/-! ## Transmissions -/

section Transmission

variable {state : Option UasState} {tsx : TsxState} {nextId : Nat} {uas : UasState}
  {log log' : List Event} {tdata : Response}

theorem sound_over (uas : UasState) {dd : DlgData} (spent : Over inv dd uas)
    (state : dd.uasState = some uas) : Sound inv dd := by
  unfold Sound
  rw [state]
  exact .inr spent

theorem endSession_spec (uas : UasState) (tsx : TsxState) (nextId : Nat) (log : List Event) :
    ∃ uas', pjsip100relEndSession ⟨some uas, tsx, nextId, log⟩
        = ⟨some uas', tsx, nextId, leaves uas.txDataList ++ log⟩
      ∧ uas'.txDataList = [] ∧ (uas.timerId = uas.timer.isSome → uas'.timer = none) := by
  obtain ⟨cseq, rseq, txDataList, count, timerId, timer⟩ := uas
  cases timerId with
  | true => exact ⟨⟨cseq, rseq, [], count, false, none⟩, rfl, rfl, fun _ => rfl⟩
  | false =>
    refine ⟨⟨cseq, rseq, [], count, false, timer⟩, rfl, rfl, fun same => ?_⟩
    exact Option.isNone_iff_eq_none.1 (Option.isSome_eq_false_iff.1 same.symm)

theorem cancelTimer_eq (armed : Armed uas) (tsx : TsxState) (nextId : Nat) (log : List Event) :
    cancelTimer ⟨some uas, tsx, nextId, log⟩
      = ⟨some { uas with timer := none, timerId := false }, tsx, nextId, log⟩ := by
  have same := armed.timerId
  obtain ⟨cseq, rseq, txDataList, count, timerId, timer⟩ := uas
  cases timerId with
  | true => rfl
  | false =>
    obtain rfl : timer = none := Option.isNone_iff_eq_none.1 (Option.isSome_eq_false_iff.1 same.symm)
    rfl

def Logged (tdata : Response) (log log' : List Event) : Prop := log' = log ∨ log' = .sent tdata :: log

theorem Logged.ordered (logged : Logged tdata log log') (ordered : Ordered inv log)
    (proper : Proper inv (.sent tdata) log) : Ordered inv log' := by
  rcases logged with rfl | rfl
  · exact ordered
  · exact ⟨proper, ordered⟩

theorem Listed.logged (listed : Listed inv nextId uas log) (proper : Proper inv (.sent tdata) log)
    (logged : Logged tdata log log') : Listed inv nextId uas log' := by
  rcases logged with rfl | rfl
  · exact listed
  · exact listed.note proper nofun nofun

theorem tsxSendMsg_cases (uas : UasState) (nextId : Nat) (log : List Event) (tdata : Response)
    (outcome : Outcome) :
    (∃ log', tsxSendMsg ⟨some uas, .proceeding, nextId, log⟩ tdata outcome
        = ⟨some uas, .proceeding, nextId, log'⟩ ∧ Logged tdata log log')
      ∨ ∃ uas', tsxSendMsg ⟨some uas, .proceeding, nextId, log⟩ tdata outcome
          = ⟨some uas', .terminated, nextId, leaves uas.txDataList ++ log⟩
        ∧ uas'.txDataList = [] := by
  cases outcome with
  | sent => exact .inl ⟨_, rfl, .inr rfl⟩
  | failed => exact .inl ⟨_, rfl, .inl rfl⟩
  | unresolved =>
    obtain ⟨uas', ended, empty, -⟩ := endSession_spec uas .terminated nextId log
    exact .inr ⟨uas', ended, empty⟩

theorem pjsipTsxSendMsg_final (uas : UasState) (timerId : uas.timerId = uas.timer.isSome)
    (ordered : Ordered inv log) (proper : Proper inv (.sent tdata) log)
    (final : 200 ≤ tdata.code) (nextId : Nat) (outcome : Outcome) :
    ∃ uas' tsx' log' success, pjsipTsxSendMsg ⟨some uas, .proceeding, nextId, log⟩ tdata outcome
        = (⟨some uas', tsx', nextId, log'⟩, success)
      ∧ Ordered inv log' ∧ tsx' ≠ .proceeding ∧ (tsx' = .completed → uas'.timer = none)
      ∧ (success = false ∨ uas.txDataList = [] → uas'.txDataList = []) := by
  unfold pjsipTsxSendMsg
  rw [if_neg (not_not.2 rfl)]
  rcases tsxSendMsg_cases uas nextId log tdata outcome with ⟨log', sent, logged⟩ |
      ⟨uas', ended, empty⟩
  · have ordered' := logged.ordered ordered proper
    rw [sent]
    dsimp only
    rw [if_neg nofun]
    by_cases failing : 300 ≤ tdata.code
    · rw [if_pos failing]
      obtain ⟨uas', ended, empty, off⟩ := endSession_spec uas .completed nextId log'
      rw [ended]
      exact ⟨_, _, _, _, rfl, ordered_leaves ordered', nofun, fun _ => off timerId, fun _ => empty⟩
    · rw [if_neg failing, if_pos final]
      exact ⟨_, _, _, _, rfl, ordered', nofun, nofun, fun empty => empty.resolve_left nofun⟩
  · rw [ended]
    dsimp only
    rw [if_pos rfl]
    exact ⟨_, _, _, _, rfl, ordered_leaves ordered, nofun, nofun, fun _ => empty⟩

theorem sendFinal_sound (uas : UasState) (timerId : uas.timerId = uas.timer.isSome) (empty : uas.txDataList = [])
    (ordered : Ordered inv log) (proper : Proper inv (.sent tdata) log)
    (final : 200 ≤ tdata.code) (nextId : Nat) (outcome : Outcome) :
    Sound inv (pjsipTsxSendMsg ⟨some uas, .proceeding, nextId, log⟩ tdata outcome).1 := by
  obtain ⟨uas', tsx', log', success, sent, ordered', spent, off, cleared⟩ :=
    pjsipTsxSendMsg_final uas timerId ordered proper final nextId outcome
  rw [sent]
  exact sound_over _ ⟨ordered', spent, cleared (.inr empty), off⟩ rfl

theorem giveUp_sound (listed : Listed inv nextId uas log)
    (timerId : uas.timerId = uas.timer.isSome) (outcome : Outcome) :
    Sound inv (giveUp ⟨some uas, .proceeding, nextId, log⟩ outcome) := by
  have ordered : Ordered inv (.timedOut :: (leaves uas.txDataList ++ log)) :=
    ⟨trivial, ordered_leaves listed.ordered⟩
  have emptied : Proper inv (.sent ⟨nextId, 500, false⟩)
      (.timedOut :: (leaves uas.txDataList ++ log)) →
      Sound inv (giveUp ⟨some uas, .proceeding, nextId, log⟩ outcome) := fun proper =>
    sendFinal_sound { uas with txDataList := [] } timerId rfl ordered proper
      (show 200 ≤ 500 by decide) (nextId + 1) outcome
  refine emptied ⟨fun mem => ?_, ?_⟩
  · exact Nat.lt_irrefl _ (listed.leaves_lt ((List.mem_cons.1 mem).resolve_left nofun))
  · rintro earlier rseq - - (low | ⟨ok, -⟩)
    · exact absurd low (show ¬ 500 < 200 by decide)
    · exact absurd ok (show ¬ 500 / 100 = 2 by decide)

theorem onRetransmit_spec (listed : Listed inv nextId uas log) (waits : uas.txDataList ≠ [])
    (off : uas.timer = none)
    (first : uas.retransmitCount ≠ 0 → ∀ tl, uas.txDataList.head? = some tl → tl.tdata.code < 200)
    (state : Option UasState) (outcome : Outcome) :
    ∃ dd', onRetransmit inv ⟨state, .proceeding, nextId, log⟩ uas outcome = some dd'
      ∧ Sound inv dd' := by
  obtain ⟨cseq, rseq, txDataList, count, timerId, timer⟩ := uas
  obtain ⟨tl, rest, rfl⟩ := List.exists_cons_of_ne_nil waits
  obtain rfl : timer = none := off
  have started := listed.retime (count + 1) false none
  have proper := started.first_proper rfl
  have scheduled (log' : List Event) (low : tl.tdata.code < 200)
      (logged : Logged tl.tdata log log') (delay : Nat) :
      Sound inv ⟨some ⟨cseq, rseq, tl :: rest, count + 1, true, some delay⟩, .proceeding, nextId,
        log'⟩ := by
    refine .inl ⟨rfl, (started.logged proper logged).retime _ _ _, rfl, fun _ => rfl, nofun,
      fun _ => nofun, fun first head => ?_⟩
    cases head
    exact low
  unfold onRetransmit
  dsimp only
  by_cases last : 7 ≤ count + 1
  · -- the seventh time without a PRACK
    rw [if_pos last]
    exact ⟨_, rfl, giveUp_sound started rfl outcome⟩
  rw [if_neg last]
  by_cases final : 200 ≤ tl.tdata.code
  · have zero : count = 0 := by
      by_contra more
      exact absurd (first more tl rfl) (Nat.not_lt.2 final)
    obtain ⟨uas', tsx', log', success, sent, ordered', spent, idle, cleared⟩ :=
      pjsipTsxSendMsg_final ⟨cseq, rseq, tl :: rest, count + 1, false, none⟩ rfl
        started.ordered proper final nextId outcome
    rw [if_pos (show count + 1 = 1 by omega), sent]
    cases success with
    | false => exact ⟨_, rfl, sound_over _ ⟨ordered', spent, cleared (.inl rfl), idle⟩ rfl⟩
    | true =>
      -- the transaction will send the final response again itself
      rw [if_neg nofun, if_pos final]
      exact ⟨_, rfl, sound_over { uas' with txDataList := [] }
        ⟨ordered_leaves ordered', spent, rfl, idle⟩ rfl⟩
  · have low : tl.tdata.code < 200 := Nat.not_le.1 final
    rcases tsxSendMsg_cases ⟨cseq, rseq, tl :: rest, count + 1, false, none⟩ nextId log tl.tdata
      outcome with ⟨log', sent, logged⟩ | ⟨uas', ended, empty⟩
    · have taken : (if count + 1 = 1 then pjsipTsxSendMsg
          ⟨some ⟨cseq, rseq, tl :: rest, count + 1, false, none⟩, .proceeding, nextId, log⟩ tl.tdata
            outcome
          else (tsxSendMsg ⟨some ⟨cseq, rseq, tl :: rest, count + 1, false, none⟩, .proceeding,
            nextId, log⟩ tl.tdata outcome, true))
          = (⟨some ⟨cseq, rseq, tl :: rest, count + 1, false, none⟩, .proceeding, nextId, log'⟩,
            true) := by
        unfold pjsipTsxSendMsg
        dsimp only
        rw [sent, if_neg (not_not.2 rfl), if_neg (show TsxState.proceeding ≠ .terminated by nofun),
          if_neg (show ¬ 300 ≤ tl.tdata.code by omega), if_neg final, ite_self]
      rw [taken]
      dsimp only
      rw [if_neg nofun, if_neg final]
      exact ⟨_, rfl, scheduled log' low logged _⟩
    · have spent (uas : UasState) (empty : uas.txDataList = []) : Sound inv ⟨some uas, .terminated,
          nextId, leaves (tl :: rest) ++ log⟩ :=
        sound_over _ ⟨ordered_leaves listed.ordered, nofun, empty, nofun⟩ rfl
      by_cases zero : count + 1 = 1
      · rw [if_pos zero]
        unfold pjsipTsxSendMsg
        rw [if_neg (not_not.2 rfl), ended]
        exact ⟨_, rfl, spent _ empty⟩
      · -- the result is not looked at, and the timer is scheduled for an empty list
        rw [if_neg zero, ended]
        dsimp only
        rw [if_neg nofun, if_neg final]
        exact ⟨_, rfl, spent { uas' with
          timer := some (retransmitDelay inv.t1 (count + 1)), timerId := true } empty⟩

end Transmission

/-! ## Passing responses -/

section Passing

variable {dd : DlgData} {uas : UasState} {code : Nat} {body : Bool} {outcome : Outcome}

theorem Unused.listed (unused : Unused inv dd) :
    Listed inv dd.nextId (newUasState inv) dd.log := by
  have reliable (tdata : Response) (rseq : UInt32) : .passed tdata (some rseq) ∉ dd.log := by
    intro mem
    rcases unused.plain _ mem with ⟨_, same⟩ | ⟨_, same⟩ | ⟨_, _, same⟩ <;> nomatch same
  have follows : ∀ log : List Event, (∀ tdata rseq, .passed tdata (some rseq) ∉ log) →
      nextRseq inv log = inv.firstRseq := by
    intro log never
    induction log with
    | nil => rfl
    | cons e log ih =>
      have rest := ih fun tdata rseq mem => never tdata rseq (List.mem_cons_of_mem _ mem)
      cases e with
      | passed tdata reliable =>
        cases reliable with
        | some rseq => exact absurd List.mem_cons_self (never tdata rseq)
        | none => exact rest
      | sent tdata => exact rest
      | prack rseq cseq => exact rest
      | left id => exact rest
      | timedOut => exact rest
  exact {
    ordered := unused.ordered
    cseq := rfl
    rseq := (follows _ reliable).symm
    ids := unused.ids
    leftIds := by
      intro id mem
      rcases unused.plain _ mem with ⟨_, same⟩ | ⟨_, same⟩ | ⟨_, _, same⟩ <;> nomatch same
    waits := by
      intro tl mem
      nomatch mem
    inOrder := List.Pairwise.nil
    covered := fun tdata rseq mem => absurd mem (reliable tdata rseq) }

theorem newUasState_armed : Armed (newUasState inv) :=
  ⟨rfl, fun more => absurd rfl more, fun _ => rfl, nofun, nofun⟩

theorem txProvisional_sound {log : List Event} {nextId : Nat}
    (listed : Listed inv nextId uas log) (armed : Armed uas)
    (provisional : ∀ tdata reliable, .passed tdata reliable ∈ log → tdata.code < 200)
    (low : code < 200) {state : Option UasState} (same : state.getD (newUasState inv) = uas) :
    ∃ dd', txProvisional inv ⟨state, .proceeding, nextId + 1, log⟩ ⟨nextId, code, body⟩ outcome
        = some dd' ∧ Sound inv dd' := by
  have number : TxDataList.reliable ⟨uas.rseq, ⟨nextId, code, body⟩⟩ = some uas.rseq := if_pos low
  have proper : Proper inv (.passed ⟨nextId, code, body⟩
      (TxDataList.reliable ⟨uas.rseq, ⟨nextId, code, body⟩⟩)) log := by
    rw [number]
    exact listed.rseq
  have follows : uas.rseq + 1 = nextRseq inv (.passed ⟨nextId, code, body⟩
      (TxDataList.reliable ⟨uas.rseq, ⟨nextId, code, body⟩⟩) :: log) := by
    rw [number]
    rfl
  have added := listed.add ⟨uas.rseq, ⟨nextId, code, body⟩⟩ rfl provisional proper follows
  rw [number] at added
  unfold txProvisional
  rw [same, if_neg (not_not.2 listed.cseq.symm)]
  by_cases waiting : uas.txDataList = []
  · rw [if_neg (not_not.2 waiting)]
    exact onRetransmit_spec (added.retime 0 uas.timerId uas.timer) (by simp) (armed.idle waiting)
      (fun more => absurd rfl more) _ outcome
  · rw [if_pos waiting]
    refine ⟨_, rfl, .inl ⟨rfl, added,
      ⟨armed.timerId, fun _ => armed.runs waiting, ?_, armed.counted, fun tl head => ?_⟩⟩⟩
    · intro nil
      exact absurd nil (by simp)
    · refine armed.first tl ?_
      change (uas.txDataList ++ [_]).head? = some tl at head
      rwa [List.head?_append_of_ne_nil _ waiting] at head

theorem txFinal_sound {nextId : Nat} {log : List Event} (listed : Listed inv nextId uas log)
    (uas' : UasState) (timerId : uas'.timerId = uas'.timer.isSome) (empty : uas'.txDataList = [])
    (final : 200 ≤ code)
    (acks : code / 100 = 2 → ∀ earlier rseq, .passed earlier (some rseq) ∈ log →
      earlier.body = true → Acked inv log earlier rseq) :
    Sound inv (pjsipTsxSendMsg ⟨some uas', .proceeding, nextId + 1,
      leaves uas.txDataList ++ .passed ⟨nextId, code, body⟩ none :: log⟩
        ⟨nextId, code, body⟩ outcome).1 := by
  have old {id : Nat} (mem : .left id ∈ leaves uas.txDataList
      ++ .passed ⟨nextId, code, body⟩ none :: log) : id < nextId := by
    refine listed.leaves_lt (List.mem_append.2 ((List.mem_append.1 mem).imp_right fun mem => ?_))
    exact (List.mem_cons.1 mem).resolve_left nofun
  have ordered : Ordered inv (.passed ⟨nextId, code, body⟩ none :: log) :=
    ⟨trivial, listed.ordered⟩
  refine sendFinal_sound uas' timerId empty (ordered_leaves ordered)
    ⟨fun mem => Nat.lt_irrefl _ (old mem), ?_⟩ final _ _
  rintro earlier rseq mem - (low | ⟨ok, sdp⟩)
  · change code < 200 at low
    omega
  · have passed := (List.mem_cons.1 (passed_mem_leaves.1 mem)).resolve_left nofun
    exact (acks ok earlier rseq passed sdp).cons.append _

theorem Unused.final {tsx : TsxState} {nextId : Nat} {log : List Event}
    (unused : Unused inv ⟨none, tsx, nextId, log⟩) (final : 200 ≤ code) :
    Sound inv (pjsipTsxSendMsg ⟨none, tsx, nextId + 1, .passed ⟨nextId, code, body⟩ none :: log⟩
      ⟨nextId, code, body⟩ outcome).1 := by
  have ids (other : Response) (reliable : Option UInt32)
      (mem : .passed other reliable ∈ .passed ⟨nextId, code, body⟩ none :: log) :
      other.id < nextId + 1 := by
    rcases List.mem_cons.1 mem with same | mem
    · cases same
      exact Nat.lt_succ_self _
    · exact Nat.lt_succ_of_lt (unused.ids other reliable mem)
  have plain (e : Event) (mem : e ∈ .passed ⟨nextId, code, body⟩ none :: log) :
      (∃ tdata, e = .passed tdata none) ∨ (∃ tdata, e = .sent tdata)
        ∨ ∃ rseq cseq, e = .prack rseq cseq := by
    rcases List.mem_cons.1 mem with rfl | mem
    · exact .inl ⟨_, rfl⟩
    · exact unused.plain e mem
  have ordered : Ordered inv (.passed ⟨nextId, code, body⟩ none :: log) :=
    ⟨trivial, unused.ordered⟩
  have proper : Proper inv (.sent ⟨nextId, code, body⟩)
      (.passed ⟨nextId, code, body⟩ none :: log) := by
    refine ⟨fun mem => ?_, fun earlier rseq mem => ?_⟩
    all_goals rcases plain _ mem with ⟨_, same⟩ | ⟨_, same⟩ | ⟨_, _, same⟩ <;> nomatch same
  have silent (tsx : TsxState) : Unused inv
      ⟨none, tsx, nextId + 1, .passed ⟨nextId, code, body⟩ none :: log⟩ :=
    ⟨ordered, ids, plain, fun _ => ⟨_, _, List.mem_cons_self, final⟩⟩
  have sent (tsx : TsxState) : Unused inv ⟨none, tsx, nextId + 1,
      .sent ⟨nextId, code, body⟩ :: .passed ⟨nextId, code, body⟩ none :: log⟩ := by
    refine ⟨⟨proper, ordered⟩, fun other reliable mem => ?_, fun e mem => ?_,
      fun _ => ⟨_, _, List.mem_cons_of_mem _ List.mem_cons_self, final⟩⟩
    · exact ids other reliable ((List.mem_cons.1 mem).resolve_left nofun)
    · rcases List.mem_cons.1 mem with rfl | mem
      · exact .inr (.inl ⟨_, rfl⟩)
      · exact plain e mem
  cases tsx with
  | proceeding =>
    have other (log : List Event) (unused : ∀ tsx, Unused inv ⟨none, tsx, nextId + 1, log⟩) :
        Sound inv (if 300 ≤ code
          then (pjsip100relEndSession ⟨none, .completed, nextId + 1, log⟩, true)
          else if 200 ≤ code then (⟨none, .terminated, nextId + 1, log⟩, true)
          else (⟨none, .proceeding, nextId + 1, log⟩, true)).1 := by
      by_cases failing : 300 ≤ code
      · rw [if_pos failing]
        exact unused .completed
      · rw [if_neg failing, if_pos final]
        exact unused .terminated
    cases outcome with
    | sent => exact other _ sent
    | failed => exact other _ silent
    | unresolved => exact silent .terminated
  | completed => exact silent .completed
  | terminated => exact silent .terminated

theorem not_hasSdp (bare : hasSdp uas = false) {tl : TxDataList} (mem : tl ∈ uas.txDataList) :
    tl.tdata.body ≠ true := by
  intro body
  have sdp : hasSdp uas = true := List.any_eq_true.2 ⟨tl, mem, body⟩
  rw [bare] at sdp
  cases sdp

theorem refused (closed : dd.tsx ≠ .proceeding) {tdata : Response} :
    (pjsipTsxSendMsg dd tdata outcome).1 = dd := by
  rw [pjsipTsxSendMsg, if_pos closed]

theorem Over.refuses {tsx : TsxState} {nextId : Nat} {log : List Event}
    (spent : Over inv ⟨some uas, tsx, nextId, log⟩ uas) (cleared : Bool) :
    Sound inv (pjsipTsxSendMsg
      (if cleared then clearAllResponses (cancelTimer
        ⟨some uas, tsx, nextId + 1, .passed ⟨nextId, code, body⟩ none :: log⟩)
      else ⟨some uas, tsx, nextId + 1, .passed ⟨nextId, code, body⟩ none :: log⟩)
      ⟨nextId, code, body⟩ outcome).1 := by
  have closed : tsx ≠ .proceeding := spent.tsx
  cases cleared with
  | false =>
    rw [refused (show tsx ≠ .proceeding from closed)]
    exact sound_over _ ⟨⟨trivial, spent.ordered⟩, closed, spent.empty, spent.idle⟩ rfl
  | true =>
    rw [refused (show tsx ≠ .proceeding from closed)]
    obtain ⟨cseq, rseq, txDataList, count, timerId, timer⟩ := uas
    obtain rfl : txDataList = [] := spent.empty
    have ordered : Ordered inv (.passed ⟨nextId, code, body⟩ none :: log) :=
      ⟨trivial, spent.ordered⟩
    cases timerId with
    | true =>
      exact sound_over ⟨cseq, rseq, [], count, false, none⟩ ⟨ordered, closed, rfl, fun _ => rfl⟩ rfl
    | false =>
      exact sound_over ⟨cseq, rseq, [], count, false, timer⟩ ⟨ordered, closed, rfl, spent.idle⟩ rfl

theorem txResponse_sound (sound : Sound inv dd) (legal : Legal dd (.txResponse code body outcome))
    (unhampered : Unhampered dd (.txResponse code body outcome)) :
    ∃ dd', pjsip100relTxResponse inv dd code body outcome = some dd' ∧ Sound inv dd' := by
  obtain ⟨above, alive, provisional⟩ := legal
  obtain ⟨state, tsx, nextId, log⟩ := dd
  unfold pjsip100relTxResponse
  rw [if_neg (show code ≠ 100 by omega)]
  have takes (low : code < 200) : tsx = .proceeding := by
    have more := unhampered low
    cases tsx with
    | proceeding => rfl
    | completed => exact absurd rfl more
    | terminated => exact absurd rfl alive
  cases state with
  | none =>
    have unused : Unused inv ⟨none, tsx, nextId, log⟩ := sound
    by_cases ok : code / 100 = 2
    · rw [if_pos ok]
      exact ⟨_, rfl, unused.final (by omega)⟩
    rw [if_neg ok]
    by_cases failing : 300 ≤ code
    · rw [if_pos failing]
      exact ⟨_, rfl, unused.final (by omega)⟩
    · rw [if_neg failing]
      have low : code < 200 := by omega
      obtain rfl := takes low
      exact txProvisional_sound unused.listed newUasState_armed provisional low rfl
  | some uas =>
    rcases sound with ⟨proceeding, listed, armed⟩ | spent
    · obtain rfl : tsx = .proceeding := proceeding
      by_cases ok : code / 100 = 2
      · rw [if_pos ok]
        dsimp only
        split
        · -- behind the responses that have not been acknowledged
          rename_i sdp
          obtain ⟨tl, there, -⟩ := List.any_eq_true.1 sdp
          have waits : uas.txDataList ≠ [] := List.ne_nil_of_mem there
          have number : TxDataList.reliable ⟨0xFFFFFFFF, ⟨nextId, code, body⟩⟩ = none :=
            if_neg (show ¬ code < 200 by omega)
          have follows : uas.rseq = nextRseq inv (.passed ⟨nextId, code, body⟩
              (TxDataList.reliable ⟨0xFFFFFFFF, ⟨nextId, code, body⟩⟩) :: log) := by
            rw [number]
            exact listed.rseq
          have added := listed.add ⟨0xFFFFFFFF, ⟨nextId, code, body⟩⟩ rfl provisional
            (by rw [number]; trivial) follows
          rw [number] at added
          refine ⟨_, rfl, .inl ⟨rfl, added,
            ⟨armed.timerId, fun _ => armed.runs waits, ?_, armed.counted, ?_⟩⟩⟩
          · intro nil
            exact absurd nil (by simp)
          · intro first head
            change (uas.txDataList ++ [_]).head? = some first at head
            rw [List.head?_append_of_ne_nil _ waits] at head
            exact armed.first first head
        · rename_i bare
          rw [cancelTimer_eq armed]
          refine ⟨_, rfl, txFinal_sound listed { uas with
            txDataList := [], timer := none, timerId := false } rfl rfl (by omega) ?_⟩
          intro _ earlier rseq mem sdp
          rcases listed.covered earlier rseq mem with ⟨tl, there, rfl, -⟩ | acked
          · exact absurd sdp (not_hasSdp (Bool.not_eq_true _ ▸ bare) there)
          · exact acked
      rw [if_neg ok]
      by_cases failing : 300 ≤ code
      · rw [if_pos failing]
        dsimp only
        split
        · rw [cancelTimer_eq armed]
          exact ⟨_, rfl, txFinal_sound listed { uas with
            txDataList := [], timer := none, timerId := false } rfl rfl (by omega)
            fun two => absurd two ok⟩
        · rename_i off
          have stopped : ¬ uas.timer.isSome = true := armed.timerId ▸ off
          have empty : uas.txDataList = [] := by
            by_contra waits
            exact stopped (armed.runs waits)
          have dropped : leaves uas.txDataList ++ .passed ⟨nextId, code, body⟩ none :: log
              = .passed ⟨nextId, code, body⟩ none :: log := by
            rw [empty]
            rfl
          refine ⟨_, rfl, ?_⟩
          rw [← dropped]
          exact txFinal_sound listed uas armed.timerId empty (by omega) fun two => absurd two ok
      · rw [if_neg failing]
        exact txProvisional_sound listed armed provisional (by omega) rfl
    · -- the transaction takes no further response, and the list is empty
      have bare : hasSdp uas = false := by
        rw [hasSdp, spent.empty]
        rfl
      by_cases ok : code / 100 = 2
      · rw [if_pos ok]
        dsimp only
        rw [bare, if_neg Bool.false_ne_true]
        exact ⟨_, rfl, spent.refuses true⟩
      rw [if_neg ok]
      by_cases failing : 300 ≤ code
      · rw [if_pos failing]
        exact ⟨_, rfl, spent.refuses uas.timerId⟩
      · exact absurd (takes (by omega)) spent.tsx

end Passing

/-! ## Acknowledgements and timeouts -/

section Arrivals

variable {dd : DlgData} {outcome : Outcome}

theorem rxPrack_sound (sound : Sound inv dd) (rack : Option (List UInt8)) (outcome : Outcome) :
    ∃ dd', pjsip100relOnRxPrack inv dd rack outcome = some dd' ∧ Sound inv dd' := by
  obtain ⟨state, tsx, nextId, log⟩ := dd
  unfold pjsip100relOnRxPrack
  cases rack with
  | none => exact ⟨_, rfl, sound⟩
  | some text =>
    rcases parsed : parseRack text with ⟨rseq, cseq⟩
    dsimp only
    rw [parsed]
    cases state with
    | none =>
      have unused : Unused inv ⟨none, tsx, nextId, log⟩ := sound
      refine ⟨_, rfl, ⟨⟨trivial, unused.ordered⟩, ?_, ?_, fun completed => ?_⟩⟩
      · intro tdata reliable mem
        exact unused.ids tdata reliable ((List.mem_cons.1 mem).resolve_left nofun)
      · intro e mem
        rcases List.mem_cons.1 mem with rfl | mem
        · exact .inr (.inr ⟨_, _, rfl⟩)
        · exact unused.plain e mem
      · obtain ⟨tdata, reliable, mem, final⟩ := unused.tsx completed
        exact ⟨tdata, reliable, List.mem_cons_of_mem _ mem, final⟩
    | some uas =>
      rcases sound with ⟨proceeding, listed, armed⟩ | spent
      · obtain rfl : tsx = .proceeding := proceeding
        have noted : Listed inv nextId uas (.prack rseq cseq :: log) :=
          listed.note trivial nofun nofun
        dsimp only
        cases list : uas.txDataList with
        | nil => exact ⟨_, rfl, .inl ⟨rfl, noted, armed⟩⟩
        | cons tl rest =>
          dsimp only
          split
          · rename_i isMatch
            obtain ⟨rfl, rfl⟩ := isMatch
            have low := armed.first tl (by rw [list]; rfl)
            have acked : Acked inv (.prack tl.rseq uas.cseq :: log) tl.tdata tl.rseq := by
              have passed := (listed.waits tl (list ▸ List.mem_cons_self)).1
              rw [show tl.reliable = some tl.rseq from if_pos low] at passed
              exact ⟨[], log, by rw [listed.cseq]; rfl, passed⟩
            have popped := noted.pop list acked low
            rw [cancelTimer_eq armed]
            dsimp only [DlgData.mapUas, Option.map_some]
            split
            · rename_i more
              exact onRetransmit_spec (popped.retime 0 false none) more rfl
                (fun count => absurd rfl count) _ outcome
            · rename_i nil
              rw [not_not] at nil
              refine ⟨_, rfl, .inl ⟨rfl, popped.retime 0 false none,
                ⟨rfl, fun more => absurd nil more, fun _ => rfl, nofun, ?_⟩⟩⟩
              intro first head
              change rest.head? = some first at head
              rw [nil] at head
              nomatch head
          · exact ⟨_, rfl, .inl ⟨rfl, noted, armed⟩⟩
      · dsimp only
        rw [spent.empty]
        exact ⟨_, rfl, sound_over _ ⟨⟨trivial, spent.ordered⟩, spent.tsx, spent.empty, spent.idle⟩ rfl⟩

theorem timerExpires_sound (sound : Sound inv dd) (unhampered : Unhampered dd (.timeout outcome)) :
    ∃ dd', timerExpires inv dd outcome = some dd' ∧ Sound inv dd' := by
  obtain ⟨state, tsx, nextId, log⟩ := dd
  unfold timerExpires
  cases state with
  | none => exact ⟨_, rfl, sound⟩
  | some uas =>
    dsimp only
    split
    · rename_i runs
      rcases sound with ⟨proceeding, listed, armed⟩ | spent
      · obtain rfl : tsx = .proceeding := proceeding
        have waits : uas.txDataList ≠ [] := by
          intro empty
          rw [armed.idle empty] at runs
          nomatch runs
        exact onRetransmit_spec (listed.retime uas.retransmitCount uas.timerId none) waits rfl
          (fun _ => armed.first) _ outcome
      · -- the session has ended, and the module gives up once more
        have last : 7 ≤ uas.retransmitCount + 1 :=
          Nat.succ_le_succ ((unhampered uas rfl runs).resolve_left (not_not.2 spent.empty))
        unfold onRetransmit giveUp
        dsimp only
        rw [if_pos last, refused (show tsx ≠ .proceeding from spent.tsx)]
        exact ⟨_, rfl, sound_over _
          ⟨⟨trivial, ordered_leaves spent.ordered⟩, spent.tsx, rfl, fun _ => rfl⟩ rfl⟩
    · exact ⟨_, rfl, sound⟩

theorem terminated_sound (sound : Sound inv dd) : Sound inv (terminated dd) := by
  obtain ⟨state, tsx, nextId, log⟩ := dd
  unfold terminated
  split
  · exact sound
  · cases state with
    | none =>
      have unused : Unused inv ⟨none, tsx, nextId, log⟩ := sound
      exact ⟨unused.ordered, unused.ids, unused.plain, nofun⟩
    | some uas =>
      obtain ⟨uas', ended, empty, -⟩ := endSession_spec uas .terminated nextId log
      have ordered : Ordered inv log := sound.delivers.1
      rw [ended]
      exact sound_over _ ⟨ordered_leaves ordered, nofun, empty, nofun⟩ rfl

end Arrivals

end Pjsip.SipUa.Rel100
