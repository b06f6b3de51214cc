import Pjsip.Base.SelectionSort
import Pjsip.Pjnath.Ice.Role
import Pjsip.Pjnath.Stun.Msg

/-!
# Candidates and check lists

Candidates are known by their place in `ice->lcand` or `ice->rcand`, which is what the pointers
of a check compare. The slots of a check list that are not in use keep what was in them last:
erasing a check leaves a copy of the last one behind, and what is added does not fill all of
the slot.
-/

namespace Pjsip.Pjnath.Ice

open Pjsip.Base Pjsip.Pjnath.Stun

/-! ## Candidates -/

/-- `pj_ice_cand_type` -/
inductive CandType where
  | host | srflx | prflx | relayed
  deriving DecidableEq, Repr

/-- `pj_ice_sess_cand`; the values are those of a slot that was never filled. -/
structure Cand where
  type : CandType := .host
  compId : Nat := 0
  transportId : Nat := 0
  foundation : List UInt8 := []
  prio : Nat := 0
  addr : SockAddr := .unspec
  baseAddr : SockAddr := .unspec
  deriving DecidableEq

def maxCand : Nat := 16

/-- Whether two addresses have the same `sa_family`. -/
def sameFamily : SockAddr → SockAddr → Bool
  | .inet .., .inet .. => true
  | .inet6 .., .inet6 .. => true
  | .unspec, .unspec => true
  | _, _ => false

def Cand.reflexive (cand : Cand) : Bool := cand.type = .srflx || cand.type = .prflx

def CandType.prefix_ : CandType → Char
  | .host => 'H'
  | .srflx => 'S'
  | .prflx => 'P'
  | .relayed => 'R'

/-- `pj_hash_calc` of the octets of an address. -/
def hashCalc (octets : List UInt8) : Nat :=
  octets.foldl (fun hash octet => (hash * 33 + octet.toNat) % 2 ^ 32) 0

/-- `pj_ice_calc_foundation` -/
def calcFoundation (type : CandType) (baseAddr : SockAddr) : List UInt8 :=
  let val :=
    match baseAddr with
    | .inet _ addr => (value32 addr.1).toNat
    | .inet6 _ addr => hashCalc addr.1
    | .unspec => hashCalc []
  ((type.prefix_ :: Nat.toDigits 16 val).map fun c => UInt8.ofNat c.toNat)

/-- `CALC_CAND_PRIO`, for the preference of the type. -/
def calcCandPrio (pref localPref compId : Nat) : Nat :=
  pref % 256 * 2 ^ 24 + localPref % 65536 * 2 ^ 8 + (2 ^ 32 + 256 - compId) % 256

/-- `CALC_CHECK_PRIO`: the low half loses what is shifted out of it. -/
def calcCheckPrio (role : Role) (lcand rcand : Cand) : Nat :=
  let o := if role = .controlling then lcand.prio else rcand.prio
  let a := if role = .controlling then rcand.prio else lcand.prio
  min o a * 2 ^ 32 + (max o a * 2 + if o > a then 1 else 0) % 2 ^ 32

/-! ## Checks -/

/-- `pj_ice_sess_check_state` -/
inductive CheckState where
  | frozen | waiting | inProgress | succeeded | failed
  deriving DecidableEq, Repr

def CheckState.value : CheckState → Int
  | .frozen => 0
  | .waiting => 1
  | .inProgress => 2
  | .succeeded => 3
  | .failed => 4

def CheckState.toDo (state : CheckState) : Bool := state = .frozen || state = .waiting

/-- `pj_ice_sess_check`; `tdata` is the address of the request that was sent last. -/
structure Check where
  lcand : Nat := 0
  rcand : Nat := 0
  foundationIdx : Int := 0
  prio : Nat := 0
  state : CheckState := .frozen
  tdata : Option Nat := none
  nominated : Bool := false
  errCode : IceStatus := .success
  deriving DecidableEq

def Check.pair (check : Check) : Nat × Nat := (check.lcand, check.rcand)

/-- `check_set_state` -/
def Check.setState (state : CheckState) (errCode : IceStatus) (check : Check) : Check :=
  { check with state, errCode }

/-- `CMP_CHECK_STATE` -/
def cmpCheckState (c1 c2 : Check) : Int :=
  if c1.state = .succeeded ∧ c2.state = .failed then 1
  else if c2.state = .succeeded ∧ c1.state = .failed then -1
  else c1.state.value - c2.state.value

/-- Whether `sort_checklist` puts the first before the second. -/
def higherCheck (c1 c2 : Check) : Bool :=
  cmpCheckState c1 c2 > 0 || (cmpCheckState c1 c2 = 0 && c1.prio > c2.prio)

def maxChecks : Nat := 32

/-- `pj_ice_sess_checklist_state` -/
inductive ChecklistState where
  | idle | running | completed
  deriving DecidableEq, Repr

/-- `pj_ice_sess_checklist` -/
structure Checklist where
  state : ChecklistState
  checks : List Check
  /-- The slots behind those of the checks. -/
  stale : List Check
  size : checks.length + stale.length = maxChecks
  foundation : List (List UInt8)

namespace Checklist

/-- What is in slot `i`, whether or not it is in use. -/
def slot (clist : Checklist) (i : Nat) : Check := (clist.checks ++ clist.stale).getD i {}

def modifySlot (clist : Checklist) (i : Nat) (f : Check → Check) : Checklist :=
  { clist with
    checks := clist.checks.modify i f
    stale :=
      if i < clist.checks.length then clist.stale else clist.stale.modify (i - clist.checks.length) f
    size := by
      rw [apply_ite List.length, List.length_modify, List.length_modify, ite_self]
      exact clist.size }

/-- Other checks in the same places. -/
def setChecks (clist : Checklist) (checks : List Check)
    (length : checks.length = clist.checks.length) : Checklist :=
  { clist with checks, size := length ▸ clist.size }

def mapChecks (clist : Checklist) (f : Check → Check) : Checklist :=
  clist.setChecks (clist.checks.map f) (List.length_map _)

/-- `sort_checklist` -/
def sort (clist : Checklist) : Checklist :=
  clist.setChecks (selectionSort higherCheck clist.checks).1 (selectionSort_perm _ _).length_eq

/-- `remove_check` -/
def remove (clist : Checklist) (i : Nat) : Checklist :=
  if inside : i < clist.checks.length then
    { clist with
      checks := clist.checks.eraseIdx i
      -- what is moved down leaves the last check where it was
      stale := clist.checks.getLast (List.ne_nil_of_length_pos (by omega)) :: clist.stale
      size := by
        have := clist.size
        rw [List.length_eraseIdx_of_lt inside, List.length_cons]
        omega }
  else clist

/-- `clist->count = 0` -/
def clear (clist : Checklist) : Checklist :=
  { clist with
    checks := []
    stale := clist.checks ++ clist.stale
    size := by simpa using clist.size }

/-- `get_check_foundation_idx`, of a foundation that is to be added. -/
def foundationIdx (foundation : List (List UInt8)) (lcand rcand : Cand) : Int × List (List UInt8) :=
  -- the buffer has room for 64 octets
  let fndStr := (lcand.foundation ++ [0x7C] ++ rcand.foundation).take 64
  match foundation.findIdx? (· = fndStr) with
  | some i => (i, foundation)
  | none =>
    if foundation.length < maxChecks then (foundation.length, foundation ++ [fndStr])
    else (-1, foundation)

/-- `discard_check` -/
def discard (clist : Checklist) (prioLowerThan : Nat) : Checklist × Bool :=
  match clist.checks.findIdx? (·.state = .failed) with
  | some k => (clist.remove k, true)
  | none =>
    let clist := clist.sort
    let last := clist.checks.length - 1
    if (clist.slot last).prio < prioLowerThan then (clist.remove last, true) else (clist, false)

end Checklist

/-! ## Pruning -/

/-- The first host candidate at the base of `srflx`. -/
def findBase (lcands : List Cand) (srflx : Cand) : Option Nat :=
  lcands.findIdx? fun host => host.type = .host && srflx.baseAddr = host.addr

/-- Reflexive candidates are replaced by their bases, up to the first that has none. -/
def replaceBases (lcands : List Cand) : List Check → List Check × Bool
  | [] => ([], true)
  | check :: rest =>
    let srflx := lcands.getD check.lcand {}
    if srflx.reflexive then
      match findBase lcands srflx with
      | some host =>
        let replaced := replaceBases lcands rest
        ({ check with lcand := host } :: replaced.1, replaced.2)
      | none => (check :: rest, false)
    else
      let replaced := replaceBases lcands rest
      (check :: replaced.1, replaced.2)

/-- Whether a pair is removed because of one that is higher up. -/
def prunedBy (lcands : List Cand) (ci cj : Check) : Bool :=
  cj.state.toDo
    && ((ci.lcand = cj.lcand && ci.rcand = cj.rcand)
      || (cj.rcand = ci.rcand
        && (lcands.getD cj.lcand {}).baseAddr = (lcands.getD ci.lcand {}).baseAddr))

/-- The checks behind `ci` that stay, and the slots that are no longer in use. -/
def pruneRest (lcands : List Cand) (ci : Check) : List Check → List Check → List Check × List Check
  | [], stale => ([], stale)
  | cj :: rest, stale =>
    if prunedBy lcands ci cj then
      pruneRest lcands ci rest ((cj :: rest).getLast (List.cons_ne_nil _ _) :: stale)
    else
      let pruned := pruneRest lcands ci rest stale
      (cj :: pruned.1, pruned.2)

theorem pruneRest_length (lcands : List Cand) (ci : Check) (checks stale : List Check) :
    (pruneRest lcands ci checks stale).1.length + (pruneRest lcands ci checks stale).2.length
      = checks.length + stale.length := by
  induction checks generalizing stale with
  | nil => rfl
  | cons cj rest ih =>
    rw [pruneRest]
    split
    · rw [ih, List.length_cons, List.length_cons]
      omega
    · simp only [List.length_cons]
      have := ih stale
      omega

namespace Checklist

/-- The round of `prune_checklist` for the check at `i`. -/
def pruneAt (lcands : List Cand) (clist : Checklist) (i : Nat) : Checklist :=
  if inside : i < clist.checks.length then
    let pruned := pruneRest lcands clist.checks[i] (clist.checks.drop (i + 1)) clist.stale
    { clist with
      checks := clist.checks.take (i + 1) ++ pruned.1
      stale := pruned.2
      size := by
        have := pruneRest_length lcands clist.checks[i] (clist.checks.drop (i + 1)) clist.stale
        have := clist.size
        rw [List.length_append, List.length_take]
        simp only [pruned, List.length_drop] at *
        omega }
  else clist

theorem replaceBases_length (lcands : List Cand) (checks : List Check) :
    (replaceBases lcands checks).1.length = checks.length := by
  induction checks with
  | nil => rfl
  | cons check rest ih =>
    rw [replaceBases]
    split
    · split
      · exact congrArg (· + 1) ih
      · rfl
    · exact congrArg (· + 1) ih

/-- `prune_checklist` -/
def prune (lcands : List Cand) (clist : Checklist) : Checklist × IceStatus :=
  let replaced := replaceBases lcands clist.checks
  let clist := clist.setChecks replaced.1 (replaceBases_length lcands clist.checks)
  if replaced.2 then
    ((List.range clist.checks.length).foldl (pruneAt lcands) clist, .success)
  else (clist, .eicenohostcand)

end Checklist

end Pjsip.Pjnath.Ice
