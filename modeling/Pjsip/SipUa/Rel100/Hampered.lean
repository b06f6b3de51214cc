import Pjsip.SipUa.Rel100.Delivery

/-!
# When reliable responses are delivered

After the seventh time the module answers with 500 and the transaction takes no other response. One
that is passed all the same is put into the list, and the refusal of the transaction returns before
the timer is scheduled. And a retransmission that ends the session leaves the timer running for an
empty list, which the next expiry asserts is not empty. A run without these two delivers throughout.
-/

namespace Pjsip.SipUa.Rel100

open Pjsip.Base

variable {inv : Invite}

/-! ## What spoils the delivery -/

section Breaks

variable {dd dd' : DlgData} {outcome : Outcome}

theorem not_delivers_idle {uas : UasState} (state : dd.uasState = some uas)
    (waits : uas.txDataList ≠ []) (off : uas.timer = none) : ¬ Delivers inv dd := by
  rintro ⟨-, runs⟩
  have scheduled := runs uas state waits
  rw [off] at scheduled
  nomatch scheduled

theorem txResponse_breaks {code : Nat} {body : Bool} (sound : Sound inv dd)
    (legal : Legal dd (.txResponse code body outcome))
    (hampered : ¬ Unhampered dd (.txResponse code body outcome))
    (taken : pjsip100relTxResponse inv dd code body outcome = some dd') : ¬ Delivers inv dd' := by
  obtain ⟨above, -, provisional⟩ := legal
  obtain ⟨low, completed⟩ := Classical.not_imp.1 hampered
  obtain ⟨state, tsx, nextId, log⟩ := dd
  obtain rfl : tsx = .completed := not_not.1 completed
  cases state with
  | none =>
    -- nobody but the application has answered
    have unused : Unused inv ⟨none, .completed, nextId, log⟩ := sound
    obtain ⟨tdata, reliable, mem, final⟩ := unused.tsx rfl
    exact absurd (provisional tdata reliable mem) (Nat.not_lt.2 final)
  | some uas =>
    rcases sound with ⟨proceeding, -, -⟩ | spent
    · nomatch proceeding
    · obtain ⟨cseq, rseq, txDataList, count, timerId, timer⟩ := uas
      obtain rfl : txDataList = [] := spent.empty
      obtain rfl : timer = none := spent.idle rfl
      unfold pjsip100relTxResponse at taken
      rw [if_neg (show code ≠ 100 by omega), if_neg (show ¬ code / 100 = 2 by omega),
        if_neg (show ¬ 300 ≤ code by omega)] at taken
      unfold txProvisional at taken
      dsimp only [Option.getD_some] at taken
      split at taken
      · nomatch taken
      · cases taken
        exact not_delivers_idle rfl nofun rfl

theorem timerExpires_breaks (inv : Invite) (hampered : ¬ Unhampered dd (.timeout outcome)) :
    timerExpires inv dd outcome = none := by
  obtain ⟨uas, state, runs, empty, early⟩ : ∃ uas, dd.uasState = some uas ∧ uas.timer.isSome
      ∧ uas.txDataList = [] ∧ ¬ 6 ≤ uas.retransmitCount := by
    simpa only [Unhampered, not_forall, not_or, not_not, exists_prop] using hampered
  unfold timerExpires
  rw [state]
  dsimp only
  rw [if_pos runs, onRetransmit]
  dsimp only
  rw [if_neg (show ¬ 7 ≤ uas.retransmitCount + 1 by omega), empty]

end Breaks

/-! ## Runs -/

theorem sound_initData : Sound inv initData := ⟨trivial, nofun, nofun, nofun⟩

/-- A final response, if it has been passed. -/
def Event.isFinal : Event → Bool
  | .passed tdata _ => 200 ≤ tdata.code
  | _ => false

theorem provisional_iff {log : List Event} : (∀ tdata rseq, .passed tdata rseq ∈ log →
    tdata.code < 200) ↔ ∀ e ∈ log, e.isFinal = false := by
  constructor
  · intro provisional e mem
    cases e with
    | passed tdata rseq => exact decide_eq_false (Nat.not_le.2 (provisional tdata rseq mem))
    | _ => rfl
  · intro unreliable tdata rseq mem
    exact Nat.not_le.1 (of_decide_eq_false (unreliable _ mem))

instance (dd : DlgData) : (act : Act) → Decidable (Legal dd act)
  | .txResponse _ _ _ =>
    decidable_of_iff _ (and_congr_right fun _ => and_congr_right fun _ => provisional_iff.symm)
  | .rxPrack _ _ | .timeout _ | .terminate => .isTrue trivial

instance (dd : DlgData) : (act : Act) → Decidable (Unhampered dd act)
  | .txResponse _ _ _ => inferInstanceAs (Decidable (_ → _))
  | .timeout _ => inferInstanceAs (Decidable (∀ uas ∈ dd.uasState, uas.timer.isSome →
      uas.txDataList ≠ [] ∨ 6 ≤ uas.retransmitCount))
  | .rxPrack _ _ | .terminate => .isTrue trivial

/-- 180, which fails to go out, its timer, 183, a PRACK with `RAck: 1 1 INVITE` and 200, which waits
for a PRACK with `RAck: 2 1 INVITE`. -/
def acknowledged : List Act :=
  [.txResponse 180 true .failed, .timeout .sent, .txResponse 183 true .sent,
    .rxPrack (some [49, 32, 49, 32, 73, 78, 86, 73, 84, 69]) .sent, .txResponse 200 true .sent,
    .rxPrack (some [50, 32, 49, 32, 73, 78, 86, 73, 84, 69]) .sent]

/-- 180 is never acknowledged; 183 is passed after the module has answered with 500. -/
def unacknowledged : List Act :=
  .txResponse 180 false .sent :: (List.replicate 6 (.timeout .sent) ++ [.txResponse 183 false .sent])

end Pjsip.SipUa.Rel100
