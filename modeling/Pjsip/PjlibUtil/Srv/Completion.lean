import Pjsip.PjlibUtil.Srv.Counting

/-!
# A resolution completes once

Whatever the SRV answer is and in whichever order the queries for addresses are started and
completed, the user's callback is called once, and by the time when nothing is outstanding. What
this needs of the starts that fail is told apart for each of them.
-/

namespace Pjsip.PjlibUtil.Srv

open Pjsip.Base Pjsip.Pjlib Pjsip.PjlibUtil.Dns

/-! ## The SRV answer -/

variable {job : SrvQuery}

theorem Known.looping (known : Known job) (answered : job.qSrv ≠ .query)
    (option : job.option.resolveAaaaOnly = true → job.option.resolveAaaa = true)
    (missing : job.hostResolved ≠ job.srv.length) :
    Inv 0 { job := { job with dnsState := .a }, loop := some ⟨0, 0, none, .head⟩ } := by
  have count := known.counted
  have waits : ∀ k, stage (some ⟨0, 0, none, .head⟩) k = .waiting := by
    intro k
    show (if k < 0 then Stage.done else if k = 0 then .waiting else .waiting) = _
    rw [if_neg (Nat.not_lt_zero k), ite_self]
  refine ⟨option, fun query => absurd query answered, ⟨known.few, ?_, ?_⟩, ?_, ?_⟩
  · intro k t at_
    show (stage _ k).Slots _ t
    rw [waits]
    exact known.idle t (List.mem_of_getElem? at_)
  · show job.hostResolved + tally _ job.srv = _
    rw [← known.counted, ← tally_countP]
    congr 1
    refine tally_congr rfl fun k t u at_ at' => ?_
    cases at_.symm.trans at'
    show (stage _ k).unsettled t = _
    rw [waits]
    rfl
  · intro l same
    cases same
    refine ⟨?_, Nat.zero_le _, Nat.zero_le _, nofun⟩
    show 0 < job.srv.length
    omega
  · intro _
    exact (if_neg fun both => missing both.1).symm

theorem Known.settled (known : Known job) (answered : job.qSrv ≠ .query)
    (option : job.option.resolveAaaaOnly = true → job.option.resolveAaaa = true)
    (resolved : job.hostResolved = job.srv.length) : Inv 1 { job, loop := none } := by
  refine ⟨option, fun query => absurd query answered, ⟨known.few, ?_, ?_⟩, nofun, ?_⟩
  · intro k t at_
    obtain ⟨qA, qAaaa⟩ := known.idle t (List.mem_of_getElem? at_)
    simp [Stage.Slots, stage, qA]
  · have nothing : tally (fun k => (stage none k).unsettled) job.srv = 0 := by
      refine tally_eq_zero.2 fun k t at_ => ?_
      obtain ⟨qA, qAaaa⟩ := known.idle t (List.mem_of_getElem? at_)
      simp [Stage.unsettled, stage, SrvTarget.outstanding, qA, qAaaa]
    show job.hostResolved + _ = _
    rw [nothing]
    exact resolved
  · intro _
    exact (if_pos ⟨resolved, rfl⟩).symm

theorem Known.proceed (known : Known job) (answered : job.qSrv ≠ .query)
    (option : job.option.resolveAaaaOnly = true → job.option.resolveAaaa = true) :
    Inv (proceed job).2.length (proceed job).1 := by
  have either : ∀ job : SrvQuery, Known job → job.qSrv ≠ .query →
      (job.option.resolveAaaaOnly = true → job.option.resolveAaaa = true) →
      ∀ after : Resolution × List Callback,
      after = (if job.hostResolved ≠ job.srv.length then
        ({ job := { job with dnsState := .a }, loop := some ⟨0, 0, none, .head⟩ }, [])
        else ({ job, loop := none }, checkResolved job)) →
      Inv after.2.length after.1 := by
    rintro job known answered option after rfl
    split
    · next missing => exact known.looping answered option missing
    · next resolved =>
      have resolved := Decidable.not_not.1 resolved
      show Inv (checkResolved job).length _
      rw [checkResolved_length, if_pos resolved]
      exact known.settled answered option resolved
  by_cases empty : job.srv.length = 0 ∧ 0 < job.domainPart.length
  · have fallen : Known (fallback job) := by
      have count := known.counted
      have resolved : ({ job with option := (fallback job).option } : SrvQuery).hostResolved = 0 := by
        show job.hostResolved = 0
        omega
      refine known_entries resolved ?_
      intro t mem
      cases List.mem_singleton.1 mem
      exact ⟨rfl, rfl, rfl⟩
    refine either (fallback job) fallen answered ?_ _ ?_
    · intro only
      exact (Bool.and_eq_true_iff.1 only).1
    · unfold Srv.proceed
      rw [if_pos empty]
  · refine either job known answered option _ ?_
    unfold Srv.proceed
    rw [if_neg empty]

variable {s : Resolution}

theorem Inv.answer {calls : Nat} (inv : Inv calls s)
    (query : s.job.qSrv = .query) (pton : InetPton) (rand : Nat → Nat) (answer : Answer) :
    Inv (calls + (srvAnswered pton rand s.job answer).2.length)
      (srvAnswered pton rand s.job answer).1 := by
  obtain ⟨srv, resolved, -, rfl⟩ := inv.waiting query
  rw [Nat.zero_add]
  have nothing : s.job.hostResolved = s.job.srv.length := by rw [srv, resolved]; rfl
  -- before the answer there are no targets
  have ends : ∀ error, Inv 1
      { job := cancelQuery { s.job with qSrv := .null, lastError := error }, loop := none } :=
    fun error => inv_cancelled inv.option inv.counted.few nothing
  have known : ∀ error, Known { s.job with qSrv := .null, lastError := error } := by
    intro error
    have idleTargets : ∀ t ∈ s.job.srv, t.qA = .null ∧ t.qAaaa = .null ∧ t.addr = [] := by
      rw [srv]
      nofun
    have empty : ({ s.job with qSrv := .null, lastError := error } : SrvQuery).hostResolved = 0 :=
      resolved
    exact known_entries empty idleTargets
  cases answer with
  | error status =>
    by_cases final : s.job.option.fallbackA = false ∧ s.job.option.fallbackAaaa = false
    · have ended : srvAnswered pton rand s.job (.error status)
          = ({ job := _, loop := none }, [_]) := if_pos final
      rw [ended]
      exact ends (some status)
    · have goes : srvAnswered pton rand s.job (.error status) = proceed _ := if_neg final
      rw [goes]
      exact (known (some status)).proceed nofun inv.option
  | ok pkt =>
    by_cases truncated : getTc pkt.hdr.flags = true
    · have ended : srvAnswered pton rand s.job (.ok pkt)
          = ({ job := _, loop := none }, [_]) := if_pos truncated
      rw [ended]
      exact ends (some .eignored)
    · have goes : srvAnswered pton rand s.job (.ok pkt) = proceed (if _ then _ else _) :=
        if_neg truncated
      rw [goes]
      split
      · have empty : ({ s.job with qSrv := .null } : SrvQuery).hostResolved = 0 := resolved
        obtain ⟨built, option, qSrv⟩ := buildServerEntries_known pton rand empty pkt
        refine built.proceed ?_ ?_
        · rw [qSrv]
          nofun
        · rw [option]
          exact inv.option
      · exact (known s.job.lastError).proceed nofun inv.option

/-! ## Runs -/

variable {pton : InetPton}

theorem Inv.step {calls : Nat} {s s' : Resolution} {act : Action} {out : List Callback}
    (inv : Inv calls s) (well : StartsWell s act) (taken : step pton s act = some (s', out)) :
    Inv (calls + out.length) s' := by
  have done_ : ∀ result : Resolution × List Callback, Inv (calls + result.2.length) result.1 →
      some result = some (s', out) → Inv (calls + out.length) s' := by
    intro result holds same
    cases same
    exact holds
  cases act with
  | answer rand answer =>
    rw [Srv.step] at taken
    split at taken
    · next query => exact done_ _ (inv.answer query pton rand answer) taken
    · cases taken
  | turn =>
    rw [Srv.step] at taken
    split at taken
    · next l looping =>
      split at taken
      · next head => exact done_ _ (inv.turn looping head) taken
      · cases taken
    · cases taken
  | start outcome =>
    rw [Srv.step] at taken
    split at taken
    · next l looping =>
      split at taken
      · next t at_ next => exact done_ _ (inv.startA looping at_ next outcome well) taken
      · next t at_ next => exact done_ _ (inv.startAaaa looping at_ next outcome well) taken
      · cases taken
    · cases taken
  | complete i type answer =>
    rw [Srv.step] at taken
    split at taken
    · next t at_ =>
      split at taken
      · next awaits => exact done_ _ (inv.complete at_ type awaits answer) taken
      · cases taken
    · cases taken

theorem inv_init (domainName : List UInt8) (defPort : UInt16) (option : SrvOption) :
    Inv 0 (Resolution.init domainName defPort option) := by
  refine ⟨?_, fun _ => ⟨rfl, rfl, rfl, rfl⟩, ⟨nofun, nofun, rfl⟩, nofun, fun answered => ?_⟩
  · intro only
    show (option.resolveAaaa || option.resolveAaaaOnly) = true
    rw [show option.resolveAaaaOnly = true from only, Bool.or_true]
  · exact absurd rfl answered

def callCount (tr : List (Action × List Callback)) : Nat := (tr.flatMap Prod.snd).length

/-- The SRV query is answered, the loop is over, and no query for addresses is outstanding. -/
def Quiet (s : Resolution) : Prop :=
  s.job.qSrv ≠ .query ∧ s.loop = none ∧ ∀ t ∈ s.job.srv, t.outstanding = false

/-- What a user of the resolver relies on, after `calls` calls of the callback. -/
structure Completes (calls : Nat) (s : Resolution) : Prop where
  resolved : s.job.hostResolved ≤ s.job.srv.length
  few : ∀ t ∈ s.job.srv, t.addr.length ≤ addrMaxCount
  atMostOnce : calls ≤ 1
  once : Quiet s → calls = 1

theorem Inv.completes {calls : Nat} (inv : Inv calls s) : Completes calls s := by
  have count := inv.counted.count
  refine ⟨by omega, inv.counted.few, ?_, ?_⟩
  · by_cases query : s.job.qSrv = .query
    · rw [(inv.waiting query).2.2.2]
      exact Nat.zero_le 1
    · rw [inv.called query]
      split
      · exact Nat.le_refl 1
      · exact Nat.zero_le 1
  · rintro ⟨answered, left_, free⟩
    rw [left_] at count
    have settled : tally (fun k => (stage none k).unsettled) s.job.srv = 0 :=
      tally_eq_zero.2 fun k t at_ => free t (List.mem_of_getElem? at_)
    rw [inv.called answered, left_]
    exact if_pos ⟨by omega, rfl⟩

/-- In every run in which no start fails that leaves a query of its target outstanding, or whose
count nobody tests, the callback is called exactly once by the time when nothing is outstanding. -/
theorem srvResolve_completes {domainName : List UInt8} {defPort : UInt16} {option : SrvOption}
    {tr : List (Action × List Callback)}
    (run : Run (step pton) (Resolution.init domainName defPort option) tr s)
    (well : Along (step pton) StartsWell (Resolution.init domainName defPort option)
      (tr.map Prod.fst)) :
    Completes (callCount tr) s := by
  have inv : Inv (callCount tr) s := by
    have keeps : ∀ before s act s' out, Inv (callCount before) s → StartsWell s act →
        step pton s act = some (s', out) → Inv (callCount (before ++ [(act, out)])) s' := by
      intro before s act s' out inv here taken
      have more : callCount (before ++ [(act, out)]) = callCount before + out.length := by
        simp [callCount]
      exact more ▸ inv.step here taken
    exact run.traced_along keeps well (inv_init domainName defPort option)
  exact inv.completes

/-! ## An answer with one known address -/

/-- A reader of addresses for targets that are names. -/
def namesOnly : InetPton := ⟨fun _ => none, fun _ => none⟩

/-- Only addresses of version 4 are asked for. -/
def plainOption : SrvOption := ⟨false, false, false, false⟩

/-- An SRV answer with the targets `a` and `b`, and the address of `a`. -/
def twoTargets : ParsedPacket :=
  { hdr := ⟨1, 0x8000, 0, 2, 0, 1⟩
    q := []
    ans := [⟨[115], typeSrv, 1, 60, 8, .srv 0 0 5060 [97]⟩,
      ⟨[115], typeSrv, 1, 60, 8, .srv 0 0 5060 [98]⟩]
    ns := []
    arr := [⟨[97], typeA, 1, 60, 4, .a ⟨[192, 0, 2, 1], rfl⟩⟩] }

/-- The start for `b` is outstanding at the end of the loop, and its completion calls. -/
theorem srvResolve_completes_later : ∃ tr s,
    Run (step namesOnly) (Resolution.init [100] 5060 plainOption) tr s
      ∧ callCount tr = 1 ∧ Completes (callCount tr) s := by
  have run : ∃ s, Run (step namesOnly) (Resolution.init [100] 5060 plainOption)
      [(.answer (fun _ => 0) (.ok twoTargets), []), (.turn, []), (.turn, []), (.start .pending, []),
        (.turn, []), (.complete 1 .a (.error (.rcode 3)),
          [⟨none, some [⟨0, 0, 5060, [97], [], [.v4 ⟨[192, 0, 2, 1], rfl⟩]⟩]⟩])] s :=
    ⟨_, .cons rfl (.cons rfl (.cons rfl (.cons rfl (.cons rfl (.cons rfl (.nil _))))))⟩
  obtain ⟨s, run⟩ := run
  refine ⟨_, s, run, rfl, srvResolve_completes run ?_⟩
  exact ⟨trivial, fun _ _ _ => ⟨trivial, fun _ _ _ => ⟨trivial, fun _ _ _ => ⟨trivial, fun _ _ _ =>
    ⟨trivial, fun _ _ _ => ⟨trivial, fun _ _ _ => trivial⟩⟩⟩⟩⟩⟩

/-- The start for `b` fails: both targets are counted, and nobody tests that. -/
theorem srvResolve_lost : ¬ ∀ (pton : InetPton) (domainName : List UInt8) (defPort : UInt16)
    (option : SrvOption) (tr : List (Action × List Callback)) (s : Resolution),
    Run (step pton) (Resolution.init domainName defPort option) tr s →
    Completes (callCount tr) s := by
  intro all
  have run : ∃ s, Run (step namesOnly) (Resolution.init [100] 5060 plainOption)
      [(.answer (fun _ => 0) (.ok twoTargets), []), (.turn, []), (.turn, []),
        (.start (.failed (.other 120065)), []), (.turn, [])] s
      ∧ s.job.qSrv = .null ∧ s.loop = none
      ∧ (s.job.srv.all fun t => !t.outstanding) = true :=
    ⟨_, .cons rfl (.cons rfl (.cons rfl (.cons rfl (.cons rfl (.nil _))))), rfl, rfl, rfl⟩
  obtain ⟨s, run, answered, left_, free⟩ := run
  have quiet : Quiet s := by
    refine ⟨by rw [answered]; nofun, left_, fun t mem => ?_⟩
    simpa using List.all_eq_true.1 free t mem
  exact absurd ((all _ _ _ _ _ _ run).once quiet) (by decide)

end Pjsip.PjlibUtil.Srv
