import Pjsip.PjlibUtil.Srv.Resolver

/-!
# Counting the targets of a resolution

Targets are settled one by one: when their addresses come with the SRV answer, when the
queries for them are completed, or when a start fails. `host_resolved` is the number of
settled targets as long as no start fails whose target is counted again, or whose count nobody
tests.
-/

namespace Pjsip.PjlibUtil.Srv

open Pjsip.Base Pjsip.Pjlib Pjsip.PjlibUtil.Dns

/-! ## Settled targets -/

def SrvTarget.outstanding (t : SrvTarget) : Bool := t.qA = .query || t.qAaaa = .query

/-- Where the loop is with a target. -/
inductive Stage where
  | waiting | startA | startAaaa | done

def LoopNext.stage : LoopNext → Stage
  | .head => .waiting
  | .startA => .startA
  | .startAaaa => .startAaaa

/-- The stage of target `k`. -/
def stage (loop : Option ResolveLoop) (k : Nat) : Stage :=
  match loop with
  | none => .done
  | some l => if k < l.i then .done else if k = l.i then l.next.stage else .waiting

/-- The target will be counted. -/
def Stage.unsettled : Stage → SrvTarget → Bool
  | .waiting, t => t.addr.length = 0
  | .startA, _ => true
  | .startAaaa, _ => true
  | .done, t => t.outstanding

/-- The places for queries: one that is reserved is there only until its query is started, or the
start before it has failed. -/
def Stage.Slots (option : SrvOption) : Stage → SrvTarget → Prop
  | .waiting, t => t.qA = .null ∧ t.qAaaa = .null
  | .startA, t => t.qA = .null ∧ t.qAaaa = if option.resolveAaaa then .dummy else .null
  | .startAaaa, t => t.qA ≠ .dummy ∧ t.qAaaa ≠ .query ∧ (t.qA = .query → t.qAaaa = .dummy)
  | .done, t => t.qA ≠ .dummy ∧ (t.qA = .query → t.qAaaa ≠ .dummy)

/-- Each target is counted, or will be. -/
structure Counted (job : SrvQuery) (loop : Option ResolveLoop) : Prop where
  few : ∀ t ∈ job.srv, t.addr.length ≤ addrMaxCount
  slots : ∀ k t, job.srv[k]? = some t → (stage loop k).Slots job.option t
  count : job.hostResolved + tally (fun k => (stage loop k).unsettled) job.srv = job.srv.length

variable {job : SrvQuery} {k i calls : Nat} {t t' : SrvTarget}

theorem Counted.move {job' : SrvQuery} {loop loop' : Option ResolveLoop}
    (counted : Counted job loop) (at_ : job.srv[k]? = some t)
    (srv : job'.srv = job.srv.set k t') (option : job'.option = job.option)
    (others : ∀ i, i ≠ k → stage loop' i = stage loop i)
    (few : t'.addr.length ≤ addrMaxCount) (slots : (stage loop' k).Slots job.option t')
    (balance : job'.hostResolved + ((stage loop' k).unsettled t').toNat
      = job.hostResolved + ((stage loop k).unsettled t).toNat) : Counted job' loop' := by
  have inside : k < job.srv.length := (List.getElem?_eq_some_iff.1 at_).1
  have here : (job.srv.set k t')[k]? = some t' := List.getElem?_set_self inside
  refine ⟨?_, ?_, ?_⟩
  · intro u mem
    rw [srv] at mem
    rcases List.mem_or_eq_of_mem_set mem with old | rfl
    · exact counted.few u old
    · exact few
  · intro i u at'
    rw [srv] at at'
    rw [option]
    by_cases own : i = k
    · subst own
      cases here.symm.trans at'
      exact slots
    · rw [List.getElem?_set_ne (Ne.symm own)] at at'
      rw [others i own]
      exact counted.slots i u at'
  · have moved : tally (fun k => (stage loop k).unsettled) job.srv
        + ((stage loop' k).unsettled t').toNat
        = tally (fun k => (stage loop' k).unsettled) (job.srv.set k t')
        + ((stage loop k).unsettled t).toNat := by
      refine tally_change (p := fun k => (stage loop k).unsettled)
        (q := fun k => (stage loop' k).unsettled) (List.length_set ..).symm at_ here ?_
      intro i c d apart before after
      rw [List.getElem?_set_ne (Ne.symm apart), before] at after
      cases after
      rw [others i apart]
    have count := counted.count
    rw [srv, List.length_set]
    omega

theorem stage_next (l : ResolveLoop) (errCnt : Nat) (err : Option DnsStatus) (apart : i ≠ l.i) :
    stage (some { i := l.i + 1, errCnt, err, next := .head }) i = stage (some l) i := by
  show (if i < l.i + 1 then Stage.done else if i = l.i + 1 then Stage.waiting else Stage.waiting)
    = if i < l.i then Stage.done else if i = l.i then l.next.stage else Stage.waiting
  by_cases before : i < l.i
  · rw [if_pos (show i < l.i + 1 by omega), if_pos before]
  · rw [if_neg (show ¬ i < l.i + 1 by omega), if_neg before, if_neg apart]
    exact ite_self _

theorem stage_here (l : ResolveLoop) (next : LoopNext) (apart : i ≠ l.i) :
    stage (some { l with next }) i = stage (some l) i := by
  simp only [stage, if_neg apart]

theorem stage_own (l : ResolveLoop) : stage (some l) l.i = l.next.stage := by
  simp [stage]

theorem stage_passed (l : ResolveLoop) (errCnt : Nat) (err : Option DnsStatus) :
    stage (some { i := l.i + 1, errCnt, err, next := .head }) l.i = .done := by
  simp [stage]

/-! ## The user's callback -/

/-- All targets have been counted as errors; this is left to the end of the loop. -/
def allFailed (loop : Option ResolveLoop) (n : Nat) : Bool := loop.any fun l => l.errCnt = n

/-- The counters of the loop. -/
structure LoopFits (job : SrvQuery) (l : ResolveLoop) : Prop where
  targets : 0 < job.srv.length
  inside : l.i ≤ job.srv.length
  errors : l.errCnt ≤ job.hostResolved
  status : 0 < l.errCnt → l.err ≠ none

structure Inv (calls : Nat) (s : Resolution) : Prop where
  option : s.job.option.resolveAaaaOnly = true → s.job.option.resolveAaaa = true
  waiting : s.job.qSrv = .query →
    s.job.srv = [] ∧ s.job.hostResolved = 0 ∧ s.loop = none ∧ calls = 0
  counted : Counted s.job s.loop
  fits : ∀ l, s.loop = some l → LoopFits s.job l
  called : s.job.qSrv ≠ .query → calls =
    if s.job.hostResolved = s.job.srv.length ∧ allFailed s.loop s.job.srv.length = false then 1
    else 0

theorem Counted.unfinished {loop : Option ResolveLoop} (counted : Counted job loop)
    (at_ : job.srv[k]? = some t)
    (unsettled : (stage loop k).unsettled t = true) : job.hostResolved < job.srv.length := by
  have count := counted.count
  have positive : 0 < tally (fun k => (stage loop k).unsettled) job.srv := tally_pos at_ unsettled
  omega

variable {s : Resolution}

theorem Inv.answered (inv : Inv calls s) (at_ : s.job.srv[k]? = some t) : s.job.qSrv ≠ .query := by
  intro query
  rw [(inv.waiting query).1] at at_
  nomatch at_

theorem Inv.uncalled (inv : Inv calls s)
    (at_ : s.job.srv[k]? = some t) (unsettled : (stage s.loop k).unsettled t = true) :
    calls = 0 := by
  have unfinished := inv.counted.unfinished at_ unsettled
  rw [inv.called (inv.answered at_), if_neg fun both => by omega]

theorem checkResolved_length (job : SrvQuery) :
    (checkResolved job).length = if job.hostResolved = job.srv.length then 1 else 0 := by
  unfold checkResolved
  split
  · rfl
  · rfl

/-- While a target is not settled nothing has been called, and a change that leaves it unsettled
calls nothing. -/
theorem Inv.move {s' : Resolution} (inv : Inv calls s)
    (at_ : s.job.srv[k]? = some t) (unsettled : (stage s.loop k).unsettled t = true)
    (srv : s'.job.srv = s.job.srv.set k t') (option : s'.job.option = s.job.option)
    (query : s'.job.qSrv = s.job.qSrv) (resolved : s'.job.hostResolved = s.job.hostResolved)
    (others : ∀ i, i ≠ k → stage s'.loop i = stage s.loop i)
    (few : t'.addr.length ≤ addrMaxCount) (slots : (stage s'.loop k).Slots s.job.option t')
    (unsettled' : (stage s'.loop k).unsettled t' = true)
    (fits : ∀ l, s'.loop = some l → LoopFits s'.job l) : Inv calls s' := by
  have answered := inv.answered at_
  have unfinished := inv.counted.unfinished at_ unsettled
  refine ⟨?_, ?_, ?_, fits, ?_⟩
  · rw [option]
    exact inv.option
  · intro waits
    exact absurd (query ▸ waits) answered
  · exact inv.counted.move at_ srv option others few slots (by rw [unsettled, unsettled', resolved])
  · intro _
    rw [inv.uncalled at_ unsettled, resolved, srv, List.length_set, if_neg fun both => by omega]

/-! ## Answers with addresses -/

theorem addAddrs_few (type : QueryType) (found : List IpAddr) : ∀ addr : List IpAddr,
    addr.length ≤ addrMaxCount → (addAddrs type found addr).length ≤ addrMaxCount := by
  induction found with
  | nil => exact fun _ few => few
  | cons ip found ih =>
    intro addr few
    unfold addAddrs
    split
    · next room =>
      -- the addresses of the other family are passed over
      split
      · exact ih _ (by rw [List.length_append, List.length_singleton]; exact room)
      · exact ih _ (by rw [List.length_append, List.length_singleton]; exact room)
      · exact ih _ few
    · exact few

theorem takeAnswer_keeps (type : QueryType) (answer : Answer) (t : SrvTarget) :
    (takeAnswer type answer t).1.qA = t.qA ∧ (takeAnswer type answer t).1.qAaaa = t.qAaaa
      ∧ (t.addr.length ≤ addrMaxCount →
        (takeAnswer type answer t).1.addr.length ≤ addrMaxCount) := by
  cases answer with
  | error status => exact ⟨rfl, rfl, id⟩
  | ok pkt =>
    unfold takeAnswer
    split
    · next answered => exact ⟨rfl, rfl, id⟩
    · next answered =>
      split
      · exact ⟨rfl, rfl, id⟩
      · split
        · exact ⟨rfl, rfl, id⟩
        · exact ⟨rfl, rfl, addAddrs_few type _ _⟩

/-- An answer for target `k`, which is not settled. Either the target is counted now, and whoever
brings the count to the number of targets calls; or it stays as it is. -/
theorem Inv.counts (inv : Inv calls s)
    {u : SrvTarget} (at_ : s.job.srv[k]? = some t) (addr : u.addr = t.addr)
    (unsettled : (stage s.loop k).unsettled t = true) {loop' : Option ResolveLoop}
    (others : ∀ i, i ≠ k → stage loop' i = stage s.loop i) (type : QueryType) (answer : Answer)
    (after : ∀ t', t'.qA = (u.clear type).qA → t'.qAaaa = (u.clear type).qAaaa →
      (stage loop' k).Slots s.job.option t'
        ∧ (u.completedBy type).toNat + ((stage loop' k).unsettled t').toNat = 1)
    (fits : ∀ job' : SrvQuery, job'.srv.length = s.job.srv.length →
      s.job.hostResolved ≤ job'.hostResolved → ∀ l, loop' = some l →
      LoopFits job' l ∧ l.errCnt ≤ s.job.hostResolved) :
    Inv (calls + (addrAnswered s.job k u type answer).2.length)
      { job := (addrAnswered s.job k u type answer).1, loop := loop' } := by
  obtain ⟨qA, qAaaa, few⟩ := takeAnswer_keeps type answer (u.clear type)
  obtain ⟨slots, balance⟩ := after _ qA qAaaa
  have answered := inv.answered at_
  have unfinished := inv.counted.unfinished at_ unsettled
  have cleared : (u.clear type).addr = t.addr := by
    rw [← addr]
    cases type <;> rfl
  have few' := few (by rw [cleared]; exact inv.counted.few t (List.mem_of_getElem? at_))
  have srv : (addrAnswered s.job k u type answer).1.srv
      = s.job.srv.set k (takeAnswer type answer (u.clear type)).1 := rfl
  have length : (addrAnswered s.job k u type answer).1.srv.length = s.job.srv.length :=
    List.length_set ..
  have resolved : (addrAnswered s.job k u type answer).1.hostResolved
      = s.job.hostResolved + (u.completedBy type).toNat := rfl
  refine ⟨inv.option, ?_, ?_, ?_, ?_⟩
  · intro waits
    exact absurd waits answered
  · refine inv.counted.move at_ srv rfl others few' slots ?_
    rw [resolved, unsettled, Nat.add_assoc, balance]
    rfl
  · intro l same
    exact (fits _ length (by rw [resolved]; omega) l same).1
  · intro _
    rw [inv.uncalled at_ unsettled, Nat.zero_add]
    show (checkResolved (addrAnswered s.job k u type answer).1).length = if _ ∧ _ then 1 else 0
    rw [checkResolved_length]
    by_cases last : (addrAnswered s.job k u type answer).1.hostResolved
        = (addrAnswered s.job k u type answer).1.srv.length
    · -- not all targets were counted as errors: this one was not
      have mixed : allFailed loop' (addrAnswered s.job k u type answer).1.srv.length = false := by
        cases same : loop' with
        | none => rfl
        | some l =>
          have few := (fits _ length (by rw [resolved]; omega) l same).2
          rw [allFailed, Option.any_some, decide_eq_false_iff_not, length]
          omega
      rw [if_pos last]
      exact (if_pos ⟨last, mixed⟩).symm
    · rw [if_neg last, if_neg fun both => last both.1]

theorem Inv.complete (inv : Inv calls s)
    (at_ : s.job.srv[k]? = some t) (type : QueryType) (awaits : t.awaits type = true)
    (answer : Answer) :
    Inv (calls + (addrAnswered s.job k t type answer).2.length)
      { s with job := (addrAnswered s.job k t type answer).1 } := by
  have slots := inv.counted.slots k t at_
  have fits : ∀ job' : SrvQuery, job'.srv.length = s.job.srv.length →
      s.job.hostResolved ≤ job'.hostResolved → ∀ l, s.loop = some l →
      LoopFits job' l ∧ l.errCnt ≤ s.job.hostResolved := by
    intro job' length more l same
    obtain ⟨targets, inside, errors, status⟩ := inv.fits l same
    exact ⟨⟨length ▸ targets, length ▸ inside, Nat.le_trans errors more, status⟩, errors⟩
  have known : (stage s.loop k).unsettled t = true
      ∧ ∀ t', t'.qA = (t.clear type).qA → t'.qAaaa = (t.clear type).qAaaa →
        (stage s.loop k).Slots s.job.option t'
          ∧ (t.completedBy type).toNat + ((stage s.loop k).unsettled t').toNat = 1 := by
    generalize stage s.loop k = place at slots ⊢
    cases type with
    | a =>
      have query : t.qA = .query := by simpa [SrvTarget.awaits] using awaits
      cases place with
      | waiting => exact absurd (query.symm.trans slots.1) (by decide)
      | startA => exact absurd (query.symm.trans slots.1) (by decide)
      | startAaaa =>
        -- the place of the other query is reserved: this one does not complete the target
        have reserved := slots.2.2 query
        refine ⟨rfl, fun t' qA qAaaa => ?_⟩
        have qA : t'.qA = .null := qA
        have qAaaa : t'.qAaaa = .dummy := qAaaa.trans reserved
        simp [Stage.Slots, Stage.unsettled, SrvTarget.completedBy, qA, qAaaa, reserved]
      | done =>
        have free := slots.2 query
        refine ⟨by simp [Stage.unsettled, SrvTarget.outstanding, query], fun t' qA qAaaa => ?_⟩
        have qA : t'.qA = .null := qA
        have qAaaa : t'.qAaaa = t.qAaaa := qAaaa
        cases other : t.qAaaa with
        | null =>
          simp [Stage.Slots, Stage.unsettled, SrvTarget.completedBy, SrvTarget.outstanding, qA,
            qAaaa, other]
        | dummy => exact absurd other free
        | query =>
          simp [Stage.Slots, Stage.unsettled, SrvTarget.completedBy, SrvTarget.outstanding, qA,
            qAaaa, other]
    | aaaa =>
      have query : t.qAaaa = .query := by simpa [SrvTarget.awaits] using awaits
      cases place with
      | waiting => exact absurd (query.symm.trans slots.2) (by decide)
      | startA =>
        have reserved := query.symm.trans slots.2
        split at reserved
        · cases reserved
        · cases reserved
      | startAaaa => exact absurd query slots.2.1
      | done =>
        refine ⟨by simp [Stage.unsettled, SrvTarget.outstanding, query], fun t' qA qAaaa => ?_⟩
        have qA : t'.qA = t.qA := qA
        have qAaaa : t'.qAaaa = .null := qAaaa
        cases other : t.qA with
        | null =>
          simp [Stage.Slots, Stage.unsettled, SrvTarget.completedBy, SrvTarget.outstanding, qA,
            qAaaa, other]
        | dummy => exact absurd other slots.1
        | query =>
          simp [Stage.Slots, Stage.unsettled, SrvTarget.completedBy, SrvTarget.outstanding, qA,
            qAaaa, other]
  exact inv.counts at_ rfl known.1 (fun _ _ => rfl) type answer known.2 fits

/-! ## Starts -/

variable {l : ResolveLoop}

/-- A start that fails settles its target, unless a query for it is outstanding. Its count is
tested later on: there is another target to come, or the end of the loop finds only errors. -/
theorem Inv.fails (inv : Inv calls s) (looping : s.loop = some l) (at_ : s.job.srv[l.i]? = some t)
    (unsettled : (stage s.loop l.i).unsettled t = true) (addr : t'.addr = t.addr)
    (free : t'.qA = .null ∧ t'.qAaaa ≠ .query)
    (tested : s.job.hostResolved + 1 < s.job.srv.length ∨ l.errCnt + 1 = s.job.srv.length)
    (status : DnsStatus) :
    Inv calls (startFailed { s.job with srv := s.job.srv.set l.i t' } l status) := by
  have answered := inv.answered at_
  have fits := inv.fits l looping
  have length : (s.job.srv.set l.i t').length = s.job.srv.length := List.length_set ..
  have settled : t'.outstanding = false := by simp [SrvTarget.outstanding, free.1, free.2]
  refine ⟨inv.option, ?_, ?_, ?_, ?_⟩
  · intro waits
    exact absurd waits answered
  · have others : ∀ i, i ≠ l.i →
        stage (startFailed { s.job with srv := s.job.srv.set l.i t' } l status).loop i
          = stage s.loop i := by
      intro i apart
      rw [looping]
      exact stage_next l _ _ apart
    refine inv.counted.move at_ rfl rfl others ?_ ?_ ?_
    · rw [addr]
      exact inv.counted.few t (List.mem_of_getElem? at_)
    · show (stage (some _) l.i).Slots _ t'
      rw [stage_passed]
      simp [Stage.Slots, free.1]
    · show s.job.hostResolved + 1 + ((stage (some _) l.i).unsettled t').toNat = _
      rw [stage_passed, unsettled, Stage.unsettled, settled]
      rfl
  · intro l' same
    cases same
    refine ⟨length ▸ fits.targets, ?_, Nat.succ_le_succ fits.errors, nofun⟩
    show l.i + 1 ≤ (s.job.srv.set l.i t').length
    rw [length]
    exact (List.getElem?_eq_some_iff.1 at_).1
  · intro _
    rw [inv.uncalled at_ unsettled]
    refine (if_neg ?_).symm
    rintro ⟨last, mixed⟩
    change s.job.hostResolved + 1 = (s.job.srv.set l.i t').length at last
    change decide (l.errCnt + 1 = (s.job.srv.set l.i t').length) = false at mixed
    rw [length] at last mixed
    rw [decide_eq_false_iff_not] at mixed
    omega

theorem afterA_stage (option : SrvOption) (l : ResolveLoop) :
    stage (some (afterA option l)) l.i = (if option.resolveAaaa then .startAaaa else .done)
      ∧ ∀ i, i ≠ l.i → stage (some (afterA option l)) i = stage (some l) i := by
  unfold afterA
  split
  · exact ⟨stage_own _, fun i apart => stage_here l .startAaaa apart⟩
  · exact ⟨stage_passed l _ _, fun i apart => stage_next l _ _ apart⟩

theorem afterA_fits {job' : SrvQuery} (fits : LoopFits job l)
    (inside : l.i < job.srv.length) (length : job'.srv.length = job.srv.length)
    (more : job.hostResolved ≤ job'.hostResolved) (option : SrvOption) :
    LoopFits job' (afterA option l) ∧ (afterA option l).errCnt ≤ job.hostResolved := by
  have errors := fits.errors
  have inside' := fits.inside
  unfold afterA
  split
  · exact ⟨⟨length ▸ fits.targets, length ▸ inside', Nat.le_trans errors more, fits.status⟩, errors⟩
  · refine ⟨⟨length ▸ fits.targets, ?_, Nat.le_trans errors more, fits.status⟩, errors⟩
    rw [length]
    exact inside

/-- A start that may fail: the query of the target that was started before is not outstanding, and
the count is tested later on. -/
def StartsWell (s : Resolution) : Action → Prop
  | .start (.failed _) => ∀ l t, s.loop = some l → s.job.srv[l.i]? = some t →
      (l.next = .startAaaa → t.qA ≠ .query)
      ∧ (s.job.hostResolved + 1 < s.job.srv.length ∨ l.errCnt + 1 = s.job.srv.length)
  | _ => True

theorem Inv.startA (inv : Inv calls s) (looping : s.loop = some l) (at_ : s.job.srv[l.i]? = some t)
    (next : l.next = .startA) (outcome : Started) (well : StartsWell s (.start outcome)) :
    Inv (calls + (startA s.job l t outcome).2.length) (startA s.job l t outcome).1 := by
  have own : stage s.loop l.i = .startA := by rw [looping, stage_own, next]; rfl
  have slots := inv.counted.slots l.i t at_
  rw [own] at slots
  have fits := inv.fits l looping
  have inside := (List.getElem?_eq_some_iff.1 at_).1
  obtain ⟨own', others⟩ := afterA_stage s.job.option l
  rw [← looping] at others
  have unsettled : (stage s.loop l.i).unsettled t = true := by rw [own]; rfl
  have few := inv.counted.few t (List.mem_of_getElem? at_)
  cases outcome with
  | failed status =>
    have tested := (well l t looping at_).2
    have same : ({ t with qA := .null } : SrvTarget).addr = t.addr := rfl
    refine inv.fails looping at_ unsettled same ⟨rfl, ?_⟩ tested status
    show t.qAaaa ≠ .query
    rw [slots.2]
    split
    · nofun
    · nofun
  | pending =>
    refine inv.move at_ unsettled rfl rfl rfl rfl others few ?_ ?_ ?_
    · rw [show stage (Srv.startA s.job l t .pending).1.loop l.i = _ from own']
      split
      · next both => exact ⟨nofun, by simp [slots.2, both], fun _ => by simp [slots.2, both]⟩
      · next single => exact ⟨nofun, fun _ => by simp [slots.2, single]⟩
    · rw [show stage (Srv.startA s.job l t .pending).1.loop l.i = _ from own']
      split
      · rfl
      · rfl
    · intro l' same
      cases same
      have length : (Srv.startA s.job l t .pending).1.job.srv.length = s.job.srv.length :=
        List.length_set ..
      exact (afterA_fits fits inside length (Nat.le_refl _) _).1
  | cached answer =>
    have same : ({ t with qA := .null } : SrvTarget).addr = t.addr := rfl
    refine inv.counts at_ same unsettled others .a answer ?_ ?_
    · intro t' qA qAaaa
      have qA : t'.qA = .null := qA
      have qAaaa : t'.qAaaa = t.qAaaa := qAaaa
      have completed : (({ t with qA := .null } : SrvTarget).completedBy .a)
          = decide (t.qAaaa = .null) := rfl
      rw [own', completed]
      split
      · next both =>
        simp [Stage.Slots, Stage.unsettled, qA, qAaaa, slots.2, both]
      · next single =>
        simp [Stage.Slots, Stage.unsettled, SrvTarget.outstanding, qA, qAaaa, slots.2, single]
    · intro job' length more l' same
      cases same
      exact afterA_fits fits inside length more _

theorem Inv.startAaaa (inv : Inv calls s)
    (looping : s.loop = some l) (at_ : s.job.srv[l.i]? = some t)
    (next : l.next = .startAaaa) (outcome : Started) (well : StartsWell s (.start outcome)) :
    Inv (calls + (startAaaa s.job l t outcome).2.length) (startAaaa s.job l t outcome).1 := by
  have own : stage s.loop l.i = .startAaaa := by rw [looping, stage_own, next]; rfl
  have slots := inv.counted.slots l.i t at_
  rw [own] at slots
  have fits := inv.fits l looping
  have inside := (List.getElem?_eq_some_iff.1 at_).1
  have unsettled : (stage s.loop l.i).unsettled t = true := by rw [own]; rfl
  have few := inv.counted.few t (List.mem_of_getElem? at_)
  have own' : stage (some { l with i := l.i + 1, next := .head }) l.i = .done :=
    stage_passed l l.errCnt l.err
  have others : ∀ i, i ≠ l.i →
      stage (some { l with i := l.i + 1, next := .head }) i = stage s.loop i := by
    intro i apart
    rw [looping]
    exact stage_next l l.errCnt l.err apart
  have fits' : ∀ job' : SrvQuery, job'.srv.length = s.job.srv.length →
      s.job.hostResolved ≤ job'.hostResolved →
      ∀ l', some { l with i := l.i + 1, next := .head } = some l' →
      LoopFits job' l' ∧ l'.errCnt ≤ s.job.hostResolved := by
    intro job' length more l' same
    cases same
    exact ⟨⟨length ▸ fits.targets, length ▸ inside, Nat.le_trans fits.errors more, fits.status⟩,
      fits.errors⟩
  cases outcome with
  | failed status =>
    obtain ⟨single, tested⟩ := well l t looping at_
    have same : ({ t with qAaaa := .null } : SrvTarget).addr = t.addr := rfl
    refine inv.fails looping at_ unsettled same ⟨?_, nofun⟩ tested status
    show t.qA = .null
    cases place : t.qA with
    | null => rfl
    | dummy => exact absurd place slots.1
    | query => exact absurd place (single next)
  | pending =>
    refine inv.move at_ unsettled rfl rfl rfl rfl others few ?_ ?_ ?_
    · rw [show stage (Srv.startAaaa s.job l t .pending).1.loop l.i = _ from own']
      exact ⟨slots.1, fun _ => nofun⟩
    · rw [show stage (Srv.startAaaa s.job l t .pending).1.loop l.i = _ from own']
      simp [Stage.unsettled, SrvTarget.outstanding]
    · intro l' same
      have length : (Srv.startAaaa s.job l t .pending).1.job.srv.length = s.job.srv.length :=
        List.length_set ..
      exact (fits' _ length (Nat.le_refl _) l' same).1
  | cached answer =>
    have same : ({ t with qAaaa := .null } : SrvTarget).addr = t.addr := rfl
    refine inv.counts at_ same unsettled others .aaaa answer ?_ fits'
    intro t' qA qAaaa
    have qA : t'.qA = t.qA := qA
    have qAaaa : t'.qAaaa = .null := qAaaa
    have completed : (({ t with qAaaa := .null } : SrvTarget).completedBy .aaaa)
        = decide (t.qA = .null) := rfl
    rw [own', completed]
    -- the other query is done, or it will complete the target
    cases place : t.qA with
    | null => simp [Stage.Slots, Stage.unsettled, SrvTarget.outstanding, qA, qAaaa, place]
    | dummy => exact absurd place slots.1
    | query => simp [Stage.Slots, Stage.unsettled, SrvTarget.outstanding, qA, qAaaa, place]

/-! ## Turns of the loop -/

/-- After an error that ends the resolution nothing is outstanding; if all targets were counted the
callback was the only one. -/
theorem inv_cancelled (option : job.option.resolveAaaaOnly = true → job.option.resolveAaaa = true)
    (few : ∀ t ∈ job.srv, t.addr.length ≤ addrMaxCount)
    (resolved : job.hostResolved = job.srv.length) :
    Inv 1 { job := cancelQuery job, loop := none } := by
  have length : (cancelQuery job).srv.length = job.srv.length := List.length_map ..
  have free : ∀ t ∈ (cancelQuery job).srv, t.qA = .null ∧ t.qAaaa = .null := by
    intro t mem
    obtain ⟨t', -, rfl⟩ := List.mem_map.1 mem
    exact ⟨rfl, rfl⟩
  refine ⟨option, nofun, ⟨?_, ?_, ?_⟩, nofun, ?_⟩
  · intro t mem
    obtain ⟨t', there, rfl⟩ := List.mem_map.1 mem
    exact few t' there
  · intro k t at_
    obtain ⟨qA, qAaaa⟩ := free t (List.mem_of_getElem? at_)
    simp [Stage.Slots, stage, qA, qAaaa]
  · have settled : tally (fun k => (stage none k).unsettled) (cancelQuery job).srv = 0 := by
      refine tally_eq_zero.2 fun k t at_ => ?_
      obtain ⟨qA, qAaaa⟩ := free t (List.mem_of_getElem? at_)
      simp [Stage.unsettled, stage, SrvTarget.outstanding, qA, qAaaa]
    show job.hostResolved + _ = _
    rw [settled, length, resolved]
    rfl
  · intro _
    exact (if_pos ⟨length ▸ resolved, rfl⟩).symm

theorem Inv.answered_loop (inv : Inv calls { job, loop := some l }) : job.qSrv ≠ .query :=
  fun query => nomatch (inv.waiting query).2.2.1

theorem Inv.skip {errCnt : Nat} {err : Option DnsStatus}
    (inv : Inv calls { job, loop := some ⟨i, errCnt, err, .head⟩ })
    (at_ : job.srv[i]? = some t) (known : t.addr.length ≠ 0) :
    Inv calls { job, loop := some ⟨i + 1, errCnt, err, .head⟩ } := by
  have own : stage (some ⟨i, errCnt, err, .head⟩) i = .waiting := stage_own ⟨i, errCnt, err, .head⟩
  have passed : stage (some ⟨i + 1, errCnt, err, .head⟩) i = .done :=
    stage_passed ⟨i, errCnt, err, .head⟩ errCnt err
  have slots : Stage.Slots job.option (stage (some _) i) t := inv.counted.slots i t at_
  rw [own] at slots
  obtain ⟨inside, here⟩ := List.getElem?_eq_some_iff.1 at_
  have fits := inv.fits _ rfl
  refine ⟨inv.option, fun query => absurd query inv.answered_loop, ?_, ?_, inv.called⟩
  · have same : job.srv = job.srv.set i t := by rw [← here, List.set_getElem_self]
    refine inv.counted.move at_ same rfl (fun k apart => ?_)
      (inv.counted.few t (List.mem_of_getElem? at_)) ?_ ?_
    · exact stage_next ⟨i, errCnt, err, .head⟩ errCnt err apart
    · rw [passed]
      simp [Stage.Slots, slots.1]
    · show _ + ((stage (some _) i).unsettled t).toNat = _ + ((stage (some _) i).unsettled t).toNat
      rw [passed, own]
      simp [Stage.unsettled, SrvTarget.outstanding, slots.1, slots.2, known]
  · intro l same
    cases same
    exact ⟨fits.targets, inside, fits.errors, fits.status⟩

theorem Inv.enter {errCnt : Nat} {err : Option DnsStatus}
    (inv : Inv calls { job, loop := some ⟨i, errCnt, err, .head⟩ })
    (at_ : job.srv[i]? = some t) (unknown : t.addr.length = 0) (next : LoopNext)
    (waits : next.stage.unsettled (t.init job.option) = true)
    (slots : next.stage.Slots job.option (t.init job.option)) :
    Inv calls { job := { job with srv := job.srv.set i (t.init job.option) }
                loop := some ⟨i, errCnt, err, next⟩ } := by
  have own : stage (some ⟨i, errCnt, err, .head⟩) i = .waiting := stage_own ⟨i, errCnt, err, .head⟩
  have own' : stage (some ⟨i, errCnt, err, next⟩) i = next.stage := stage_own ⟨i, errCnt, err, next⟩
  have fits := inv.fits _ rfl
  have length : (job.srv.set i (t.init job.option)).length = job.srv.length := List.length_set ..
  have few := inv.counted.few t (List.mem_of_getElem? at_)
  refine inv.move at_ ?_ rfl rfl rfl rfl (fun k apart => ?_) few ?_ ?_ ?_
  · show (stage (some _) i).unsettled t = true
    rw [own]
    simp [Stage.unsettled, unknown]
  · exact stage_here ⟨i, errCnt, err, .head⟩ next apart
  · exact own' ▸ slots
  · exact own' ▸ waits
  · intro l same
    cases same
    exact ⟨length ▸ fits.targets, length ▸ fits.inside, fits.errors, fits.status⟩

theorem Inv.leave (inv : Inv calls { job, loop := some l }) (past : job.srv[l.i]? = none)
    (mixed : l.errCnt ≠ job.srv.length) : Inv calls { job, loop := none } := by
  have last : job.srv.length ≤ l.i := List.getElem?_eq_none_iff.1 past
  have done_ : ∀ k t, job.srv[k]? = some t → stage (some l) k = .done := by
    intro k t at_
    have inside := (List.getElem?_eq_some_iff.1 at_).1
    exact if_pos (by omega)
  refine ⟨inv.option, fun query => absurd query inv.answered_loop, ⟨inv.counted.few, ?_, ?_⟩,
    nofun, ?_⟩
  · intro k t at_
    have slots : Stage.Slots job.option (stage (some l) k) t := inv.counted.slots k t at_
    rw [done_ k t at_] at slots
    exact slots
  · have same : tally (fun k => (stage (some l) k).unsettled) job.srv
        = tally (fun k => (stage none k).unsettled) job.srv := by
      refine tally_congr rfl fun k t u at_ at' => ?_
      cases at_.symm.trans at'
      rw [done_ k t at_]
      rfl
    exact same ▸ inv.counted.count
  · intro answered
    rw [inv.called answered]
    have mixed' : allFailed (some l) job.srv.length = false := by
      rw [allFailed, Option.any_some, decide_eq_false_iff_not]
      exact mixed
    show (if _ ∧ allFailed (some l) job.srv.length = false then 1 else 0) = if _ ∧ _ then 1 else 0
    rw [mixed']
    rfl

theorem turn_enter {loop : ResolveLoop}
    (at_ : job.srv[loop.i]? = some t) (unknown : t.addr.length = 0)
    (option : job.option.resolveAaaaOnly = true → job.option.resolveAaaa = true) :
    turn job loop =
      ({ job := { job with srv := job.srv.set loop.i (t.init job.option) }
         loop := some { loop with
           next := if job.option.resolveAaaaOnly then .startAaaa else .startA } }, []) := by
  unfold turn
  rw [at_]
  cases only : job.option.resolveAaaaOnly with
  | false => simp [unknown, only]
  | true => simp [unknown, only, option only]

theorem Inv.turn (inv : Inv calls s) (looping : s.loop = some l) (head : l.next = .head) :
    Inv (calls + (turn s.job l).2.length) (turn s.job l).1 := by
  obtain ⟨job, loop⟩ := s
  cases looping
  obtain ⟨i, errCnt, err, next⟩ := l
  cases head
  have fits := inv.fits _ rfl
  show Inv (calls + (Srv.turn job _).2.length) (Srv.turn job _).1
  cases at_ : job.srv[i]? with
  | some t =>
    by_cases unknown : t.addr.length = 0
    · have entered : Srv.turn job ⟨i, errCnt, err, .head⟩ = _ :=
        turn_enter at_ unknown inv.option
      rw [entered]
      refine inv.enter at_ unknown _ ?_ ?_
      · cases job.option.resolveAaaaOnly with
        | false => rfl
        | true => rfl
      · cases only : job.option.resolveAaaaOnly with
        | false => exact ⟨rfl, by simp [SrvTarget.init, only]⟩
        | true =>
          refine ⟨nofun, ?_, nofun⟩
          simp [SrvTarget.init, only]
    · have skipped : Srv.turn job ⟨i, errCnt, err, .head⟩
          = ({ job, loop := some ⟨i + 1, errCnt, err, .head⟩ }, []) := by
        unfold Srv.turn
        rw [at_]
        exact if_pos unknown
      rw [skipped]
      exact inv.skip at_ unknown
  | none =>
    by_cases all_ : errCnt = job.srv.length
    · have nonempty := fits.targets
      have errors : errCnt ≤ job.hostResolved := fits.errors
      cases error : err with
      | none => exact absurd error (fits.status (by rw [all_]; exact nonempty))
      | some status =>
        -- all targets are counted, and nobody has tested that
        have answered := inv.answered_loop
        have count : job.hostResolved + _ = job.srv.length := inv.counted.count
        have resolved : job.hostResolved = job.srv.length := by omega
        have uncalled : calls = 0 := by
          have failed : allFailed (some ⟨i, errCnt, err, .head⟩) job.srv.length = true :=
            decide_eq_true all_
          rw [inv.called answered, failed]
          exact if_neg fun both => nomatch both.2
        have failed : Srv.turn job ⟨i, errCnt, some status, .head⟩
            = ({ job := cancelQuery job, loop := none }, [⟨some status, none⟩]) := by
          unfold Srv.turn
          rw [at_]
          simp [all_, onError]
        rw [failed, uncalled]
        exact inv_cancelled inv.option inv.counted.few resolved
    · have left_ : Srv.turn job ⟨i, errCnt, err, .head⟩ = ({ job, loop := none }, []) := by
        unfold Srv.turn
        rw [at_]
        simp [all_]
      rw [left_]
      exact inv.leave at_ all_

end Pjsip.PjlibUtil.Srv
