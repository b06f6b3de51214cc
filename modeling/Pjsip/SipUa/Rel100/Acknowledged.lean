import Pjsip.Errno
import Pjsip.Pjlib.Bytes
import Pjsip.SipUa.Rel100.Model
import Mathlib.Tactic.IntervalCases

/-!
# Acknowledging reliable provisional responses (`pjsip_100rel_create_prack`)

The client side of RFC 3262. For each call leg, told from the others by the To tag, the number of
the last acknowledged response is kept; a response whose number is the next one gets a PRACK. Not in
the code is the log of the responses passed so far, the earliest first, each with whether a PRACK
was returned for it.
-/

namespace Pjsip.SipUa.Rel100

open Pjsip.Base Pjsip.Pjlib Pjsip.Sip

/-- `uac_state_t` -/
structure UacState where
  tag : List UInt8
  cseq : UInt32
  rseq : UInt32
  deriving DecidableEq, Repr

/-- What is read of a provisional response, its transaction and the dialog. `rseq` is the value
of the RSeq header, `contact` the URI of the first Contact header, `method` the name of the
method of the transaction, `remoteTag` the remote tag of the dialog. `created` is what
`pjsip_dlg_create_request` returns and `target` the URI of the request that it makes. -/
structure Provisional where
  rseq : Option (List UInt8)
  toTag : List UInt8
  cseq : UInt32
  method : List UInt8
  contact : Option (List UInt8)
  remoteTag : List UInt8
  created : SipStatus
  target : List UInt8
  deriving DecidableEq, Repr

/-- What is put into the PRACK request. -/
structure Prack where
  uri : List UInt8
  rack : List UInt8
  deriving DecidableEq, Repr

/-! ## The states of the call legs -/

def findUac (states : List UacState) (tag : List UInt8) : Option UacState :=
  states.find? fun uac => sameTag uac.tag tag

/-- The first state of the leg is overwritten. -/
def overwriteUac (uac : UacState) : List UacState → List UacState
  | [] => []
  | other :: rest =>
    if sameTag other.tag uac.tag then uac :: rest else other :: overwriteUac uac rest

/-- The state of the leg is written; a new one heads the list. -/
def writeUac (states : List UacState) (uac : UacState) : List UacState :=
  if (findUac states uac.tag).isSome then overwriteUac uac states else uac :: states

/-- The state of the leg, made when there is none and reset for a new INVITE transaction. -/
def legState (states : List UacState) (tag : List UInt8) (cseq rseq : UInt32) : UacState :=
  let uac := (findUac states tag).getD ⟨tag, cseq, rseq - 1⟩
  if cseq ≠ uac.cseq then { uac with cseq := cseq, rseq := rseq - 1 } else uac

/-! ## The request -/

def etoosmall : SipStatus := .other 70019

/-- `%u` -/
def decimal (n : Nat) : List UInt8 := (Nat.toDigits 10 n).map fun c => UInt8.ofNat c.toNat

/-- The text that `pj_ansi_snprintf` writes; `%.*s` ends at a NUL character. -/
def rackText (rseq cseq : UInt32) (method : List UInt8) : List UInt8 :=
  decimal rseq.toNat ++ 32 :: (decimal cseq.toNat ++ 32 :: method.takeWhile (· ≠ 0))

/-- A response of another call leg names the target in its Contact header. -/
def prackUri (r : Provisional) (tag : List UInt8) : Option (List UInt8) :=
  if sameTag tag r.remoteTag then some r.target else r.contact

/-- The end of `pjsip_100rel_create_prack`. -/
def buildPrack (r : Provisional) (tag : List UInt8) (rseq : UInt32) : Except SipStatus Prack :=
  if r.created ≠ .success then .error r.created
  else
    match prackUri r tag with
    | none => .error .eignored
    | some uri =>
      let rack := rackText rseq r.cseq r.method
      if 80 ≤ rack.length then .error etoosmall else .ok ⟨uri, rack⟩

/-- The value of the RSeq header. -/
def Provisional.number (r : Provisional) : Option UInt32 :=
  r.rseq.map fun text => strtoul (text.takeWhile isDigit)

/-- `pjsip_100rel_create_prack` -/
def createPrack (states : List UacState) (r : Provisional) :
    List UacState × Except SipStatus Prack :=
  match r.number with
  | none => (states, .error .emissinghdr)
  | some rseq =>
    let uac := legState states r.toTag r.cseq rseq
    let states := writeUac states uac
    if rseq ≤ uac.rseq then (states, .error .eignored)
    else if rseq ≠ uac.rseq + 1 then (states, .error .eignored)
    else
      -- written before it is known whether there will be a request
      (writeUac states { uac with rseq := rseq }, buildPrack r uac.tag rseq)

/-- The method in a RAck header, which `parse_rack` returns beside the two numbers. -/
def parseRackMethod (rack : List UInt8) : List UInt8 :=
  (((rack.dropWhile isDigit).drop 1).dropWhile isDigit).drop 1

/-! ## Runs -/

/-- `dlg_data` of the client, with the log. -/
structure Legs where
  uacStates : List UacState
  log : List (Provisional × Bool)
  deriving DecidableEq, Repr

def initLegs : Legs := ⟨[], []⟩

def isPrack : Except SipStatus Prack → Bool
  | .ok _ => true
  | .error _ => false

def prackStep (legs : Legs) (r : Provisional) : Option (Legs × Except SipStatus Prack) :=
  let (states, answer) := createPrack legs.uacStates r
  some (⟨states, legs.log ++ [(r, isPrack answer)]⟩, answer)

end Pjsip.SipUa.Rel100

/-!
# Every reliable response is acknowledged once

The number kept for a call leg is the last of those acknowledged, and these begin with the first
number seen on the leg. Two things break this. The state of a leg is opened with the number
before that of the response, and for the response with number zero this is the greatest number
there is; and the state is written before it is known whether the PRACK can be made.
-/

namespace Pjsip.SipUa.Rel100

open Pjsip.Base Pjsip.Pjlib Pjsip.Sip

/-! ## The RAck header -/

section Rack

theorem digit_eq {d : Nat} (small : d < 10) :
    UInt8.ofNat (Nat.digitChar d).toNat = UInt8.ofNat (48 + d) := by
  interval_cases d <;> rfl

theorem decimal_eq (n : Nat) :
    decimal n = (if n < 10 then [] else decimal (n / 10)) ++ [UInt8.ofNat (48 + n % 10)] := by
  unfold decimal
  rw [Nat.toDigits_eq_if (by decide)]
  split
  · rename_i small
    simp [digit_eq small, Nat.mod_eq_of_lt small]
  · simp [digit_eq (Nat.mod_lt n (by decide : 0 < 10))]

theorem isDigit_last (n : Nat) : isDigit (UInt8.ofNat (48 + n % 10)) = true := by
  have small : n % 10 < 10 := Nat.mod_lt n (by decide)
  generalize n % 10 = d at small
  interval_cases d <;> rfl

theorem isDigit_of_mem_decimal {n : Nat} {c : UInt8} (mem : c ∈ decimal n) : isDigit c = true := by
  induction n using Nat.strongRecOn with
  | ind n ih =>
    rw [decimal_eq, List.mem_append, List.mem_singleton] at mem
    rcases mem with mem | rfl
    · split at mem
      · nomatch mem
      · exact ih (n / 10) (by omega) mem
    · exact isDigit_last n

theorem strtoul_snoc (digits : List UInt8) (d : Nat) (small : d < 10) :
    strtoul (digits ++ [UInt8.ofNat (48 + d)]) = strtoul digits * 10 + UInt32.ofNat d := by
  have last : (UInt8.ofNat (48 + d) - 48).toUInt32 = UInt32.ofNat d := by
    interval_cases d <;> rfl
  simp only [strtoul, List.foldl_append, List.foldl_cons, List.foldl_nil, last]

theorem strtoul_decimal (n : Nat) : strtoul (decimal n) = UInt32.ofNat n := by
  induction n using Nat.strongRecOn with
  | ind n ih =>
    rw [decimal_eq, strtoul_snoc _ _ (Nat.mod_lt n (by decide))]
    split
    · rename_i small
      rw [Nat.mod_eq_of_lt small]
      simp [strtoul]
    · rename_i big
      rw [ih (n / 10) (by omega)]
      calc UInt32.ofNat (n / 10) * 10 + UInt32.ofNat (n % 10)
          = UInt32.ofNat (n / 10 * 10 + n % 10) := by
            rw [UInt32.ofNat_add, UInt32.ofNat_mul]
            rfl
        _ = UInt32.ofNat n := by rw [Nat.div_add_mod']

theorem takeWhile_decimal (n : Nat) (rest : List UInt8) :
    (decimal n ++ 32 :: rest).takeWhile isDigit = decimal n := by
  rw [List.takeWhile_append_of_pos fun c mem => isDigit_of_mem_decimal mem,
    List.takeWhile_cons_of_neg (by decide), List.append_nil]

theorem dropWhile_decimal (n : Nat) (rest : List UInt8) :
    (decimal n ++ 32 :: rest).dropWhile isDigit = 32 :: rest := by
  rw [List.dropWhile_append_of_pos fun c mem => isDigit_of_mem_decimal mem,
    List.dropWhile_cons_of_neg (by decide)]

theorem parseRack_rackText (rseq cseq : UInt32) (method : List UInt8) :
    parseRack (rackText rseq cseq method) = (rseq, cseq) := by
  unfold parseRack rackText
  rw [takeWhile_decimal, dropWhile_decimal]
  show (strtoul (decimal rseq.toNat), strtoul (List.takeWhile isDigit (_ ++ 32 :: _))) = _
  rw [takeWhile_decimal, strtoul_decimal, strtoul_decimal, UInt32.ofNat_toNat, UInt32.ofNat_toNat]

theorem parseRackMethod_rackText (rseq cseq : UInt32) {method : List UInt8}
    (text : 0 ∉ method) : parseRackMethod (rackText rseq cseq method) = method := by
  unfold parseRackMethod rackText
  rw [dropWhile_decimal, List.drop_succ_cons, List.drop_zero, dropWhile_decimal,
    List.drop_succ_cons, List.drop_zero, List.takeWhile_eq_self_iff]
  intro c mem
  rw [decide_eq_true_eq]
  rintro rfl
  exact text mem

theorem decimal_length_le {n k : Nat} (positive : 0 < k) (small : n < 10 ^ k) :
    (decimal n).length ≤ k := by
  induction k generalizing n with
  | zero => nomatch positive
  | succ k ih =>
    rw [decimal_eq, List.length_append, List.length_singleton]
    split
    · exact Nat.succ_le_succ (Nat.zero_le k)
    · rename_i big
      have more : 0 < k := by
        rcases k with - | k
        · simp at small; omega
        · exact k.succ_pos
      have tenth : n / 10 < 10 ^ k := by rw [Nat.pow_succ] at small; omega
      have := ih more tenth
      omega

theorem decimal_length (n : UInt32) : (decimal n.toNat).length ≤ 10 :=
  decimal_length_le (by decide) (by have := n.toNat_lt; omega)

theorem rackText_length (rseq cseq : UInt32) (method : List UInt8) :
    (rackText rseq cseq method).length ≤ 22 + method.length := by
  have first := decimal_length rseq
  have second := decimal_length cseq
  have third := (List.takeWhile_sublist (l := method) (· ≠ 0)).length_le
  simp only [rackText, List.length_append, List.length_cons]
  omega

end Rack

/-! ## What is to be acknowledged -/

section Spec

/-- The number of the response, if it is of the call leg and the INVITE transaction. -/
def legNumber (tag : List UInt8) (cseq : UInt32) (r : Provisional) : Option UInt32 :=
  if sameTag r.toTag tag ∧ r.cseq = cseq then r.number else none

/-- The first number other than zero that was seen. -/
def firstSeen (log : List (Provisional × Bool)) (tag : List UInt8) (cseq : UInt32) :
    Option UInt32 :=
  log.findSome? fun entry => (legNumber tag cseq entry.1).filter (· ≠ 0)

/-- The numbers for which a PRACK was returned. -/
def pracked (log : List (Provisional × Bool)) (tag : List UInt8) (cseq : UInt32) : List Nat :=
  log.filterMap fun entry =>
    if entry.2 then (legNumber tag cseq entry.1).map UInt32.toNat else none

/-- The response is the first with a number, or the one after those acknowledged. -/
def Due (log : List (Provisional × Bool)) (r : Provisional) (rseq : UInt32) : Prop :=
  rseq ≠ 0 ∧ rseq.toNat = ((firstSeen log r.toTag r.cseq).getD rseq).toNat
    + (pracked log r.toTag r.cseq).length

instance (log : List (Provisional × Bool)) (r : Provisional) (rseq : UInt32) :
    Decidable (Due log r rseq) :=
  inferInstanceAs (Decidable (_ ∧ _))

/-- The numbers acknowledged follow each other, each once, from the first that was seen. -/
def Consecutive (log : List (Provisional × Bool)) (tag : List UInt8) (cseq : UInt32) : Prop :=
  pracked log tag cseq = List.range' ((firstSeen log tag cseq).getD 0).toNat
    (pracked log tag cseq).length

/-- The request cannot be made, or it is not known where to send it. -/
def Provisional.Failing (r : Provisional) : Prop :=
  r.created ≠ .success ∨ sameTag r.toTag r.remoteTag = false ∧ r.contact = none

instance (r : Provisional) : Decidable r.Failing :=
  inferInstanceAs (Decidable (_ ∨ _))

/-- What one call is to do. -/
structure Acknowledges (before : Legs) (r : Provisional) (after : Legs)
    (answer : Except SipStatus Prack) : Prop where
  onlyDue : ∀ prack, answer = .ok prack → ∃ rseq, r.number = some rseq ∧ Due before.log r rseq
  due : ∀ rseq, r.number = some rseq → Due before.log r rseq → ¬ r.Failing →
    ∃ prack, answer = .ok prack
  unchanged : (∀ prack, answer ≠ .ok prack) → after.uacStates = before.uacStates
  consecutive : ∀ tag cseq, Consecutive after.log tag cseq
  rack : ∀ prack, answer = .ok prack → ∃ rseq, r.number = some rseq
    ∧ parseRack prack.rack = (rseq, r.cseq) ∧ parseRackMethod prack.rack = r.method

def inviteMethod : List UInt8 := [73, 78, 86, 73, 84, 69]

/-- A response to an INVITE with a To tag; the CSeq of a call leg does not decrease. -/
structure Arrives (legs : Legs) (r : Provisional) : Prop where
  invite : r.method = inviteMethod
  tagged : r.toTag ≠ []
  later : ∀ entry ∈ legs.log, sameTag entry.1.toTag r.toTag = true → entry.1.cseq ≤ r.cseq

instance (legs : Legs) (r : Provisional) : Decidable (Arrives legs r) :=
  decidable_of_iff (r.method = inviteMethod ∧ r.toTag ≠ [] ∧
      ∀ entry ∈ legs.log, sameTag entry.1.toTag r.toTag = true → entry.1.cseq ≤ r.cseq)
    ⟨fun ⟨invite, tagged, later⟩ => ⟨invite, tagged, later⟩,
      fun ⟨invite, tagged, later⟩ => ⟨invite, tagged, later⟩⟩

/-- The leg has a state for the INVITE transaction of the response. -/
def Known (states : List UacState) (r : Provisional) : Prop :=
  ∃ uac ∈ findUac states r.toTag, uac.cseq = r.cseq

instance (states : List UacState) (r : Provisional) : Decidable (Known states r) :=
  inferInstanceAs (Decidable (∃ uac ∈ findUac states r.toTag, uac.cseq = r.cseq))

/-- No leg is opened with number zero, and the PRACK for a response that is due can be made. -/
def Feasible (legs : Legs) (r : Provisional) : Prop :=
  ∀ rseq ∈ r.number, (Known legs.uacStates r ∨ rseq ≠ 0) ∧ (Due legs.log r rseq → ¬ r.Failing)

instance (legs : Legs) (r : Provisional) : Decidable (Feasible legs r) :=
  decidable_of_iff
    (r.number.all fun rseq => (Known legs.uacStates r ∨ rseq ≠ 0) ∧ (Due legs.log r rseq → ¬ r.Failing))
    (by simp only [Feasible, Option.all_eq_true, decide_eq_true_eq, Option.mem_def])

end Spec

/-! ## The states of the call legs -/

section States

variable {states : List UacState} {uac : UacState} {tag tag' : List UInt8}

theorem findUac_cons (uac : UacState) (states : List UacState) (tag : List UInt8) :
    findUac (uac :: states) tag = if sameTag uac.tag tag then some uac else findUac states tag := by
  unfold findUac
  split <;> simp_all

theorem findUac_congr (same : sameTag tag tag' = true) :
    findUac states tag = findUac states tag' := by
  unfold findUac
  congr 1
  funext uac
  rw [sameTag_comm, sameTag_congr same, sameTag_comm]

theorem sameTag_of_findUac (found : findUac states tag = some uac) : sameTag uac.tag tag = true :=
  List.find?_some (p := fun uac : UacState => sameTag uac.tag tag) found

theorem findUac_overwriteUac (known : (findUac states uac.tag).isSome) :
    findUac (overwriteUac uac states) tag
      = if sameTag uac.tag tag then some uac else findUac states tag := by
  induction states with
  | nil => nomatch known
  | cons other rest ih =>
    rw [findUac_cons] at known
    unfold overwriteUac
    by_cases here : sameTag other.tag uac.tag = true
    · rw [if_pos here, findUac_cons, findUac_cons, sameTag_congr here]
      split <;> rfl
    · rw [if_neg here] at known
      rw [if_neg here, findUac_cons, findUac_cons, ih known]
      by_cases wanted : sameTag other.tag tag = true
      · have apart : sameTag uac.tag tag ≠ true := by
          intro same
          rw [sameTag_comm, sameTag_congr same, sameTag_comm] at here
          exact here wanted
        rw [if_pos wanted, if_pos wanted, if_neg apart]
      · rw [if_neg wanted, if_neg wanted]

theorem findUac_writeUac (states : List UacState) (uac : UacState) (tag : List UInt8) :
    findUac (writeUac states uac) tag
      = if sameTag uac.tag tag then some uac else findUac states tag := by
  unfold writeUac
  split
  · rename_i known
    exact findUac_overwriteUac known
  · exact findUac_cons uac states tag

theorem overwriteUac_self (found : findUac states uac.tag = some uac) :
    overwriteUac uac states = states := by
  induction states with
  | nil => rfl
  | cons other rest ih =>
    rw [findUac_cons] at found
    unfold overwriteUac
    split
    · rename_i here
      rw [if_pos here] at found
      cases found
      rfl
    · rename_i here
      rw [if_neg here] at found
      rw [ih found]

theorem writeUac_self (found : findUac states tag = some uac) : writeUac states uac = states := by
  rw [← findUac_congr (sameTag_of_findUac found)] at found
  unfold writeUac
  rw [found]
  exact overwriteUac_self found

end States

section LegState

variable {states : List UacState} {r : Provisional} {uac : UacState} {rseq : UInt32}

theorem legState_known (found : findUac states r.toTag = some uac) (same : uac.cseq = r.cseq) :
    legState states r.toTag r.cseq rseq = uac := by
  unfold legState
  rw [found, Option.getD_some, if_neg (not_not_intro same.symm)]

theorem legState_unknown (unknown : ¬ Known states r) :
    (legState states r.toTag r.cseq rseq).rseq = rseq - 1 := by
  unfold legState
  cases found : findUac states r.toTag with
  | none => simp
  | some uac =>
    have other : r.cseq ≠ uac.cseq := fun same => unknown ⟨uac, found, same.symm⟩
    rw [Option.getD_some, if_pos other]

theorem legState_cseq : (legState states r.toTag r.cseq rseq).cseq = r.cseq := by
  unfold legState
  dsimp only
  split
  · rfl
  · rename_i same
    exact (not_not.1 same).symm

theorem legState_tag : sameTag (legState states r.toTag r.cseq rseq).tag r.toTag = true := by
  have made : sameTag ((findUac states r.toTag).getD ⟨r.toTag, r.cseq, rseq - 1⟩).tag r.toTag
      = true := by
    cases found : findUac states r.toTag with
    | none => exact sameTag_refl _
    | some uac => exact sameTag_of_findUac found
  unfold legState
  dsimp only
  split <;> exact made

end LegState

/-! ## One call -/

section Call

variable {states : List UacState} {r : Provisional} {rseq last : UInt32}

theorem next_iff : ¬ rseq ≤ last ∧ rseq = last + 1 ↔ rseq.toNat = last.toNat + 1 := by
  rw [UInt32.not_le, UInt32.lt_iff_toNat_lt, ← UInt32.toNat_inj, UInt32.toNat_add]
  have := rseq.toNat_lt
  show _ ∧ _ = (last.toNat + 1) % 2 ^ 32 ↔ _
  omega

theorem pred_succ (nonzero : rseq ≠ 0) : (rseq - 1).toNat + 1 = rseq.toNat := by
  have positive : rseq.toNat ≠ 0 := fun zero => nonzero (UInt32.toNat_inj.1 zero)
  have := rseq.toNat_lt
  show (2 ^ 32 - 1 + rseq.toNat) % 2 ^ 32 + 1 = _
  omega

theorem createPrack_next (number : r.number = some rseq)
    (next : rseq.toNat = (legState states r.toTag r.cseq rseq).rseq.toNat + 1) :
    createPrack states r = (writeUac (writeUac states (legState states r.toTag r.cseq rseq))
          { legState states r.toTag r.cseq rseq with rseq := rseq },
        buildPrack r (legState states r.toTag r.cseq rseq).tag rseq) := by
  obtain ⟨above, exactly⟩ := next_iff.2 next
  unfold createPrack
  rw [number]
  dsimp only
  rw [if_neg above, if_neg (not_not_intro exactly)]

theorem createPrack_ignored (number : r.number = some rseq)
    (other : rseq.toNat ≠ (legState states r.toTag r.cseq rseq).rseq.toNat + 1) :
    createPrack states r =
      (writeUac states (legState states r.toTag r.cseq rseq), .error .eignored) := by
  unfold createPrack
  rw [number]
  dsimp only
  split
  · rfl
  · rename_i above
    rw [if_pos fun exactly => other (next_iff.1 ⟨above, exactly⟩)]

theorem createPrack_none (number : r.number = none) :
    createPrack states r = (states, .error .emissinghdr) := by
  unfold createPrack
  rw [number]

theorem buildPrack_eq {tag : List UInt8} (rseq : UInt32) (invite : r.method = inviteMethod)
    (same : sameTag tag r.toTag = true) :
    (r.Failing ∧ ∃ status, buildPrack r tag rseq = .error status) ∨
      ¬ r.Failing ∧ ∃ uri, buildPrack r tag rseq = .ok ⟨uri, rackText rseq r.cseq r.method⟩ := by
  have short : ¬ 80 ≤ (rackText rseq r.cseq r.method).length := by
    have := rackText_length rseq r.cseq r.method
    rw [invite] at this ⊢
    have six : inviteMethod.length = 6 := rfl
    omega
  unfold buildPrack prackUri Provisional.Failing
  rw [sameTag_congr same]
  by_cases made : r.created ≠ .success
  · rw [if_pos made]
    exact .inl ⟨.inl made, _, rfl⟩
  · rw [if_neg made]
    cases leg : sameTag r.toTag r.remoteTag with
    | true =>
      refine .inr ⟨?_, r.target, ?_⟩
      · rintro (failed | ⟨other, -⟩)
        · exact made failed
        · nomatch other
      · simp only [if_true, if_neg short]
    | false =>
      cases contact : r.contact with
      | none => exact .inl ⟨.inr ⟨rfl, rfl⟩, _, rfl⟩
      | some uri =>
        refine .inr ⟨?_, uri, ?_⟩
        · rintro (failed | ⟨-, missing⟩)
          · exact made failed
          · nomatch missing
        · simp only [Bool.false_eq_true, if_false, if_neg short]

end Call

/-! ## The log -/

section Log

variable {log : List (Provisional × Bool)} {r : Provisional} {tag tag' : List UInt8}
  {cseq rseq : UInt32} {ok : Bool}

theorem legNumber_congr (same : sameTag tag tag' = true) :
    legNumber tag cseq = legNumber tag' cseq := by
  funext r
  unfold legNumber
  rw [sameTag_comm, sameTag_congr same, sameTag_comm]

theorem legNumber_self (r : Provisional) : legNumber r.toTag r.cseq r = r.number := by
  unfold legNumber
  rw [if_pos ⟨sameTag_refl _, rfl⟩]

theorem firstSeen_congr (same : sameTag tag tag' = true) :
    firstSeen log tag cseq = firstSeen log tag' cseq := by
  unfold firstSeen
  rw [legNumber_congr same]

theorem pracked_congr (same : sameTag tag tag' = true) :
    pracked log tag cseq = pracked log tag' cseq := by
  unfold pracked
  rw [legNumber_congr same]

theorem firstSeen_snoc : firstSeen (log ++ [(r, ok)]) tag cseq
    = (firstSeen log tag cseq).or ((legNumber tag cseq r).filter (· ≠ 0)) := by
  unfold firstSeen
  rw [List.findSome?_append, List.findSome?_singleton]

theorem pracked_snoc : pracked (log ++ [(r, ok)]) tag cseq = pracked log tag cseq
      ++ (if ok then (legNumber tag cseq r).map UInt32.toNat else none).toList := by
  unfold pracked
  rw [List.filterMap_append]
  congr 1

theorem snoc_other (log : List (Provisional × Bool)) (ok : Bool)
    (other : legNumber tag cseq r = none) :
    firstSeen (log ++ [(r, ok)]) tag cseq = firstSeen log tag cseq ∧
      pracked (log ++ [(r, ok)]) tag cseq = pracked log tag cseq := by
  rw [firstSeen_snoc, pracked_snoc, other]
  cases ok <;> simp

theorem fresh_log (fresh : ∀ entry ∈ log, legNumber tag cseq entry.1 = none) :
    firstSeen log tag cseq = none ∧ pracked log tag cseq = [] := by
  constructor
  · unfold firstSeen
    rw [List.findSome?_eq_none_iff]
    intro entry mem
    rw [fresh entry mem]
    rfl
  · unfold pracked
    rw [List.filterMap_eq_nil_iff]
    intro entry mem
    rw [fresh entry mem]
    split <;> rfl

theorem exists_of_firstSeen {first : UInt32} (seen : firstSeen log tag cseq = some first) :
    ∃ entry ∈ log, sameTag entry.1.toTag tag = true ∧ entry.1.cseq = cseq := by
  obtain ⟨entry, mem, found⟩ := List.exists_of_findSome?_eq_some seen
  refine ⟨entry, mem, ?_⟩
  unfold legNumber at found
  split at found
  · rename_i leg
    exact leg
  · nomatch found

theorem Consecutive.snoc (holds : Consecutive log tag cseq) (rseq : UInt32)
    (seen : (firstSeen log tag cseq).getD rseq = (firstSeen (log ++ [(r, true)]) tag cseq).getD 0)
    (number : legNumber tag cseq r = some rseq)
    (next : rseq.toNat = ((firstSeen log tag cseq).getD rseq).toNat
      + (pracked log tag cseq).length) :
    Consecutive (log ++ [(r, true)]) tag cseq := by
  unfold Consecutive at holds ⊢
  have grown : pracked (log ++ [(r, true)]) tag cseq = pracked log tag cseq ++ [rseq.toNat] := by
    rw [pracked_snoc, number]
    rfl
  rw [← seen, grown, List.length_append, List.length_singleton, List.range'_concat, Nat.one_mul,
    ← next]
  congr 1
  cases first : firstSeen log tag cseq with
  | some number =>
    rw [first] at holds
    exact holds
  | none =>
    rw [first, Option.getD_none] at next
    have empty : (pracked log tag cseq).length = 0 := by omega
    rw [empty, List.length_eq_zero_iff.1 empty]
    rfl

end Log

/-! ## Runs -/

section Runs

/-- The number kept for a leg is the last that was acknowledged; a response that has a number
left a state for its leg, and this is not for an earlier INVITE transaction. -/
structure Tracked (legs : Legs) : Prop where
  last : ∀ tag, ∀ uac ∈ findUac legs.uacStates tag, ∃ first,
    firstSeen legs.log tag uac.cseq = some first
      ∧ uac.rseq.toNat + 1 = first.toNat + (pracked legs.log tag uac.cseq).length
  left : ∀ entry ∈ legs.log, entry.1.number.isSome →
    ∃ uac ∈ findUac legs.uacStates entry.1.toTag, entry.1.cseq ≤ uac.cseq
  consecutive : ∀ tag cseq, Consecutive legs.log tag cseq

variable {legs : Legs} {r : Provisional} {rseq : UInt32}

theorem Tracked.fresh (tracked : Tracked legs) (arrives : Arrives legs r)
    (unknown : ¬ Known legs.uacStates r) :
    ∀ entry ∈ legs.log, legNumber r.toTag r.cseq entry.1 = none := by
  intro entry mem
  unfold legNumber
  split
  · rename_i leg
    by_contra numbered
    obtain ⟨uac, found, below⟩ := tracked.left entry mem (Option.isSome_iff_ne_none.2 numbered)
    rw [findUac_congr leg.1] at found
    obtain ⟨first, seen, -⟩ := tracked.last r.toTag uac found
    obtain ⟨earlier, mem', leg', cseq'⟩ := exists_of_firstSeen seen
    have above := arrives.later earlier mem' leg'
    rw [cseq'] at above
    rw [leg.2] at below
    exact unknown ⟨uac, found, UInt32.le_antisymm above below⟩
  · rfl

theorem Tracked.legState (tracked : Tracked legs) (arrives : Arrives legs r)
    (feasible : Known legs.uacStates r ∨ rseq ≠ 0) :
    (legState legs.uacStates r.toTag r.cseq rseq).rseq.toNat + 1
      = ((firstSeen legs.log r.toTag r.cseq).getD rseq).toNat
        + (pracked legs.log r.toTag r.cseq).length := by
  by_cases known : Known legs.uacStates r
  · obtain ⟨uac, found, same⟩ := known
    obtain ⟨first, seen, number⟩ := tracked.last r.toTag uac found
    rw [legState_known found same, ← same, seen]
    exact number
  · obtain ⟨unseen, empty⟩ := fresh_log (tracked.fresh arrives known)
    rw [legState_unknown known, unseen, empty]
    exact pred_succ (feasible.resolve_left known)

theorem Tracked.due_iff (tracked : Tracked legs) (arrives : Arrives legs r)
    (feasible : Known legs.uacStates r ∨ rseq ≠ 0) :
    Due legs.log r rseq ↔
      rseq.toNat = (Rel100.legState legs.uacStates r.toTag r.cseq rseq).rseq.toNat + 1 := by
  rw [tracked.legState arrives feasible]
  refine ⟨And.right, fun number => ⟨?_, number⟩⟩
  rintro rfl
  rw [← tracked.legState arrives feasible] at number
  nomatch number

theorem Tracked.passed (tracked : Tracked legs) (seen : ∀ tag cseq,
      firstSeen (legs.log ++ [(r, false)]) tag cseq = firstSeen legs.log tag cseq)
    (left : r.number.isSome → ∃ uac ∈ findUac legs.uacStates r.toTag, r.cseq ≤ uac.cseq) :
    Tracked ⟨legs.uacStates, legs.log ++ [(r, false)]⟩ := by
  have same (tag : List UInt8) (cseq : UInt32) :
      pracked (legs.log ++ [(r, false)]) tag cseq = pracked legs.log tag cseq := by
    rw [pracked_snoc]
    exact List.append_nil _
  refine ⟨?_, ?_, ?_⟩
  · intro tag uac found
    rw [seen, same]
    exact tracked.last tag uac found
  · intro entry mem numbered
    rcases List.mem_append.1 mem with earlier | now
    · exact tracked.left entry earlier numbered
    · rw [List.mem_singleton] at now
      subst now
      exact left numbered
  · intro tag cseq
    unfold Consecutive
    rw [seen, same]
    exact tracked.consecutive tag cseq

/-- The state of the leg after the response with this number was acknowledged. -/
def advanced (states : List UacState) (r : Provisional) (rseq : UInt32) : List UacState :=
  writeUac (writeUac states (legState states r.toTag r.cseq rseq))
    { legState states r.toTag r.cseq rseq with rseq := rseq }

theorem findUac_advanced (states : List UacState) (tag : List UInt8) :
    findUac (advanced states r rseq) tag = if sameTag r.toTag tag then
      some { legState states r.toTag r.cseq rseq with rseq := rseq } else findUac states tag := by
  unfold advanced
  rw [findUac_writeUac, findUac_writeUac]
  rw [sameTag_congr legState_tag]
  split <;> rfl

theorem Tracked.acknowledged (tracked : Tracked legs) (arrives : Arrives legs r)
    (number : r.number = some rseq) (due : Due legs.log r rseq) :
    Tracked ⟨advanced legs.uacStates r rseq, legs.log ++ [(r, true)]⟩ := by
  obtain ⟨nonzero, next⟩ := due
  -- the leg of the response, and the others
  have first (tag : List UInt8) (same : sameTag r.toTag tag = true) :
      firstSeen (legs.log ++ [(r, true)]) tag r.cseq
        = some ((firstSeen legs.log tag r.cseq).getD rseq) := by
    rw [← firstSeen_congr same, ← firstSeen_congr same, firstSeen_snoc, legNumber_self, number]
    have kept : (some rseq).filter (· ≠ 0) = some rseq := by simp [nonzero]
    rw [kept]
    cases firstSeen legs.log r.toTag r.cseq <;> rfl
  have other (tag : List UInt8) (cseq : UInt32)
      (apart : ¬ (sameTag r.toTag tag = true ∧ r.cseq = cseq)) :
      legNumber tag cseq r = none := by
    unfold legNumber
    rw [if_neg apart]
  refine ⟨?_, ?_, ?_⟩
  · intro tag uac found
    rw [Option.mem_def, findUac_advanced] at found
    by_cases same : sameTag r.toTag tag = true
    · rw [if_pos same] at found
      cases found
      rw [legState_cseq]
      refine ⟨_, first tag same, ?_⟩
      rw [← firstSeen_congr same, ← pracked_congr same, pracked_snoc, legNumber_self, number]
      have one : (pracked legs.log r.toTag r.cseq ++ [rseq.toNat]).length
          = (pracked legs.log r.toTag r.cseq).length + 1 := List.length_append
      show rseq.toNat + 1 = _ + (pracked legs.log r.toTag r.cseq ++ [rseq.toNat]).length
      omega
    · rw [if_neg same] at found
      obtain ⟨seen, kept⟩ := snoc_other legs.log true (other tag uac.cseq fun leg => same leg.1)
      rw [seen, kept]
      exact tracked.last tag uac found
  · intro entry mem known
    rw [findUac_advanced]
    by_cases same : sameTag r.toTag entry.1.toTag = true
    · rw [if_pos same]
      refine ⟨_, rfl, ?_⟩
      rw [legState_cseq]
      rcases List.mem_append.1 mem with earlier | now
      · exact arrives.later entry earlier (by rwa [sameTag_comm])
      · rw [List.mem_singleton] at now
        subst now
        exact UInt32.le_refl _
    · rw [if_neg same]
      rcases List.mem_append.1 mem with earlier | now
      · exact tracked.left entry earlier known
      · rw [List.mem_singleton] at now
        subst now
        exact absurd (sameTag_refl _) same
  · intro tag cseq
    by_cases leg : sameTag r.toTag tag = true ∧ r.cseq = cseq
    · obtain ⟨same, rfl⟩ := leg
      refine (tracked.consecutive tag r.cseq).snoc rseq ?_ ?_ ?_
      · rw [first tag same]
        rfl
      · rw [← legNumber_congr same, legNumber_self, number]
      · rw [← firstSeen_congr same, ← pracked_congr same]
        exact next
    · obtain ⟨seen, kept⟩ := snoc_other legs.log true (other tag cseq leg)
      unfold Consecutive
      rw [seen, kept]
      exact tracked.consecutive tag cseq

theorem Tracked.init : Tracked initLegs where
  last := by
    intro tag uac found
    nomatch found
  left := by
    intro entry mem
    nomatch mem
  consecutive := by
    intro tag cseq
    rfl

theorem prackStep_keeps (tracked : Tracked legs) (arrives : Arrives legs r)
    (feasible : Feasible legs r) : ∃ legs' answer,
      prackStep legs r = some (legs', answer) ∧ Acknowledges legs r legs' answer
        ∧ Tracked legs' := by
  cases number : r.number with
  | none =>
    have unseen (tag : List UInt8) (cseq : UInt32) : legNumber tag cseq r = none := by
      unfold legNumber
      rw [number, ite_self]
    have kept : Tracked ⟨legs.uacStates, legs.log ++ [(r, false)]⟩ := by
      refine tracked.passed (fun tag cseq => (snoc_other _ _ (unseen tag cseq)).1) ?_
      rw [number]
      nofun
    refine ⟨⟨legs.uacStates, legs.log ++ [(r, false)]⟩, .error .emissinghdr, ?_,
      ⟨nofun, ?_, fun _ => rfl, kept.consecutive, nofun⟩, kept⟩
    · unfold prackStep
      rw [createPrack_none number]
      rfl
    · rw [number]
      nofun
  | some rseq =>
    obtain ⟨nonzero, possible⟩ := feasible rseq number
    have due_iff := tracked.due_iff arrives nonzero
    by_cases due : Due legs.log r rseq
    · -- the PRACK is made and the state says so
      rcases buildPrack_eq rseq arrives.invite legState_tag with
        ⟨failing, -⟩ | ⟨-, uri, made⟩
      · exact absurd failing (possible due)
      have kept := tracked.acknowledged arrives number due
      refine ⟨_, .ok ⟨uri, rackText rseq r.cseq r.method⟩, ?_,
        ⟨?_, ?_, ?_, kept.consecutive, ?_⟩, kept⟩
      · unfold prackStep
        rw [createPrack_next number (due_iff.1 due), made]
        rfl
      · intro prack _
        exact ⟨rseq, number, due⟩
      · intro _ _ _ _
        exact ⟨_, rfl⟩
      · intro unlogged
        exact absurd rfl (unlogged _)
      · rintro _ ⟨⟩
        refine ⟨rseq, number, parseRack_rackText .., parseRackMethod_rackText _ _ ?_⟩
        rw [arrives.invite]
        decide
    · -- the leg is known, and its state is written back
      have known : Known legs.uacStates r := by
        by_contra unknown
        obtain ⟨unlogged, empty⟩ := fresh_log (tracked.fresh arrives unknown)
        refine due ⟨nonzero.resolve_left unknown, ?_⟩
        rw [unlogged, empty]
        rfl
      obtain ⟨uac, found, same⟩ := known
      obtain ⟨first, seen, -⟩ := tracked.last r.toTag uac found
      have kept : Tracked ⟨legs.uacStates, legs.log ++ [(r, false)]⟩ := by
        refine tracked.passed ?_ fun _ => ⟨uac, found, same ▸ UInt32.le_refl _⟩
        intro tag cseq
        by_cases leg : sameTag r.toTag tag = true ∧ r.cseq = cseq
        · obtain ⟨alike, rfl⟩ := leg
          rw [firstSeen_snoc, ← firstSeen_congr alike, ← same, seen]
          rfl
        · refine (snoc_other _ _ ?_).1
          unfold legNumber
          rw [if_neg leg]
      refine ⟨⟨legs.uacStates, legs.log ++ [(r, false)]⟩, .error .eignored, ?_,
        ⟨nofun, ?_, fun _ => rfl, kept.consecutive, nofun⟩, kept⟩
      · unfold prackStep
        rw [createPrack_ignored number fun next => due (due_iff.2 next),
          legState_known found same, writeUac_self found]
        rfl
      · intro other number' due'
        rw [number] at number'
        cases number'
        exact absurd due' due

theorem prackStep_breaks {legs' : Legs} {answer : Except SipStatus Prack}
    (tracked : Tracked legs) (arrives : Arrives legs r) (infeasible : ¬ Feasible legs r)
    (taken : prackStep legs r = some (legs', answer)) : ¬ Acknowledges legs r legs' answer := by
  intro acknowledges
  refine infeasible fun rseq number => ?_
  have step : (⟨(createPrack legs.uacStates r).1,
      legs.log ++ [(r, isPrack (createPrack legs.uacStates r).2)]⟩,
      (createPrack legs.uacStates r).2) = (legs', answer) := Option.some.inj taken
  cases step
  have silent := acknowledges.unchanged
  have feasible : Known legs.uacStates r ∨ rseq ≠ 0 := by
    by_contra neither
    obtain ⟨unknown, zero⟩ := not_or.1 neither
    rw [not_not] at zero
    subst zero
    have other : (0 : UInt32).toNat
        ≠ (legState legs.uacStates r.toTag r.cseq 0).rseq.toNat + 1 := by
      intro impossible
      nomatch impossible
    rw [createPrack_ignored number other] at silent
    have same := congrArg (findUac · r.toTag) (silent nofun)
    rw [findUac_writeUac, if_pos legState_tag] at same
    exact unknown ⟨_, same.symm, legState_cseq⟩
  refine ⟨feasible, fun due failing => ?_⟩
  have next := (tracked.due_iff arrives feasible).1 due
  rcases buildPrack_eq rseq arrives.invite legState_tag with
    ⟨-, status, failed⟩ | ⟨fine, -⟩
  · rw [createPrack_next number next, failed] at silent
    have same := congrArg (findUac · r.toTag) (silent nofun)
    rw [← advanced] at same
    rw [findUac_advanced, if_pos (sameTag_refl _)] at same
    have known : legState legs.uacStates r.toTag r.cseq rseq = _ :=
      legState_known same.symm legState_cseq
    rw [known] at next
    exact Nat.succ_ne_self rseq.toNat next.symm
  · exact fine failing

/-- The responses of a client INVITE dialog are acknowledged as they should be in all runs in
which no call leg is opened with the number zero and each PRACK that is due can be made, and in
no others. -/
theorem acknowledged_once {responses : List Provisional}
    (arrive : Along prackStep Arrives initLegs responses) :
    Stepwise prackStep Acknowledges initLegs responses ↔
      Along prackStep Feasible initLegs responses :=
  arrive.stepwise_iff_breaks (fun _ _ => prackStep_keeps)
    (fun _ _ _ _ => prackStep_breaks) Tracked.init

/-- Tags "a" and "b"; the dialog is with "a". -/
def ringing (tag rseq : UInt8) (contact : Option (List UInt8)) : Provisional :=
  ⟨some [rseq], [tag], 1, inviteMethod, contact, [97], .success, [115]⟩

/-- A response, sent again, and the first two of a fork: three are acknowledged. -/
theorem acknowledged_once_forked :
    let responses := [ringing 97 49 none, ringing 97 49 none, ringing 98 55 (some [98]),
      ringing 98 56 (some [98])]
    Stepwise prackStep Acknowledges initLegs responses := by
  intro responses
  exact (acknowledged_once (by decide +kernel)).mpr (by decide +kernel)

/-- The fork has sent no Contact header the first time; when it sends the response again, with
one, this is ignored. -/
theorem repeated_not_acknowledged : let responses := [ringing 98 49 none, ringing 98 49 (some [98])]
    Along prackStep Arrives initLegs responses
      ∧ (trace prackStep initLegs responses).map (·.map Prod.snd)
        = some [.error .eignored, .error .eignored]
      ∧ ¬ Stepwise prackStep Acknowledges initLegs responses := by
  refine ⟨by decide +kernel, by decide +kernel, ?_⟩
  rintro ⟨legs, answer, taken, first, -⟩
  cases taken
  have unchanged := first.unchanged nofun
  nomatch unchanged

end Runs

end Pjsip.SipUa.Rel100
