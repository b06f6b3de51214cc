import Pjsip.PjlibUtil.Srv.Entries

/-!
# The targets are ordered in place (`build_server_entries`)

The two passes exchange entries of an array, and an entry has a pointer to its own buffer of the
target's name. In place they do what they do with a list, and every entry ends up with the name that
it began with.
-/

namespace Pjsip.PjlibUtil.Srv

open Pjsip.Base Pjsip.Pjlib Pjsip.PjlibUtil.Dns

/-! ## The array -/

/-- An entry of `srv`, with what is in its `target_buf`, and the place of the entry whose
`target_buf` its `target_name.ptr` points to. -/
structure Cell where
  entry : SrvTarget
  ptr : Nat

/-- Entries from place `i` on, each with a pointer to its own buffer. -/
def placedFrom : (i : Nat) → List SrvTarget → List Cell
  | _, [] => []
  | i, t :: rest => ⟨t, i⟩ :: placedFrom (i + 1) rest

def priorityAt (srv : List Cell) (j : Nat) : Nat := (srv[j]?).elim 0 (·.entry.priority)

def weightAt (srv : List Cell) (j : Nat) : Nat := (srv[j]?).elim 0 (·.entry.weight)

def sumAt (srv : List Cell) (j : Nat) : Nat := (srv[j]?).elim 0 (·.entry.sum)

/-- `SWAP`, which sets both pointers. -/
def swap (srv : List Cell) (i j : Nat) : List Cell :=
  if i = j then srv
  else
    match srv[i]?, srv[j]? with
    | some a, some b => (srv.set i { b with ptr := i }).set j { a with ptr := j }
    | _, _ => srv

/-- The inner loop of the first pass. -/
def minLoop (srv : List Cell) : (turns j min : Nat) → Nat
  | 0, _, min => min
  | n + 1, j, min =>
    minLoop srv n (j + 1) (if priorityAt srv j < priorityAt srv min then j else min)

/-- The first pass -/
def firstPass : (turns i : Nat) → List Cell → List Cell
  | 0, _, srv => srv
  | n + 1, i, srv => firstPass n (i + 1) (swap srv i (minLoop srv (srv.length - (i + 1)) (i + 1) i))

def setSum (srv : List Cell) (j sum : Nat) : List Cell :=
  srv.modify j fun c => { c with entry := { c.entry with sum } }

/-- The loop over the servers with the same priority: the array, the sum and their number. -/
def sumLoop (priority : Nat) : (turns j sum count : Nat) → List Cell → List Cell × Nat × Nat
  | 0, _, sum, count, srv => (srv, sum, count)
  | n + 1, j, sum, count, srv =>
    if priorityAt srv j = priority then
      sumLoop priority n (j + 1) (sum + weightAt srv j) (count + 1)
        (setSum srv j (sum + weightAt srv j))
    else (srv, sum, count)

/-- The first server whose running sum is greater than or equal to the random number. -/
def pickLoop (srv : List Cell) (r : Nat) : (turns j : Nat) → Nat
  | 0, j => j
  | n + 1, j => if r ≤ sumAt srv j then j else pickLoop srv r n (j + 1)

/-- One turn of the second pass; `rand` is what `pj_rand` returns. There is nothing if the assertion
fails that a server has been selected. -/
def secondTurn (rand i : Nat) (srv : List Cell) : Option (List Cell) :=
  let sums := sumLoop (priorityAt srv i) (srv.length - (i + 1)) (i + 1) (weightAt srv i) 1
    (setSum srv i (weightAt srv i))
  if 1 < sums.2.2 then
    let j := pickLoop sums.1 (rand % (sums.2.1 + 1)) sums.2.2 i
    if j ≠ i + sums.2.2 then some (swap sums.1 i j) else none
  else some sums.1

/-- The second pass -/
def secondPass (rand : Nat → Nat) : (turns i : Nat) → List Cell → Option (List Cell)
  | 0, _, srv => some srv
  | n + 1, i, srv => (secondTurn (rand n) i srv).bind (secondPass rand n (i + 1))

/-- Both passes, and the loop that updates the pointers. -/
def orderInPlace (rand : Nat → Nat) (srv : List Cell) : Option (List Cell) :=
  (secondPass rand srv.length 0 (firstPass (srv.length - 1) 0 srv)).map fun srv =>
    srv.mapIdx fun i c => { c with ptr := i }

/-- The entries with their `target_name`, read through the pointers. -/
def named (srv : List Cell) : List SrvTarget :=
  srv.map fun c =>
    { c.entry with
      targetName := ((srv[c.ptr]?).elim [] (·.entry.targetName)).take c.entry.targetName.length }

/-- `build_server_entries` with the array. -/
def buildServerEntriesInPlace (pton : InetPton) (rand : Nat → Nat) (job : SrvQuery)
    (response : ParsedPacket) : Option SrvQuery :=
  let srv := placedFrom 0 (srvEntries response.ans)
  if srv.length = 0 then some { job with srv := [] }
  else
    (orderInPlace rand srv).map fun srv =>
      addNames pton (response.arr.foldl addRecord { job with srv := named srv })

/-! ## The list -/

section List

theorem placedFrom_getElem? (i : Nat) (l : List SrvTarget) (k : Nat) :
    (placedFrom i l)[k]? = (l[k]?).map (⟨·, i + k⟩) := by
  induction l generalizing i k with
  | nil => rfl
  | cons t rest ih =>
    cases k with
    | zero => rfl
    | succ k =>
      show (placedFrom (i + 1) rest)[k]? = _
      rw [ih, Nat.add_right_comm, Nat.add_assoc]
      rfl

@[simp] theorem placedFrom_length (i : Nat) (l : List SrvTarget) :
    (placedFrom i l).length = l.length := by
  induction l generalizing i with
  | nil => rfl
  | cons t rest ih => exact congrArg Nat.succ (ih (i + 1))

@[simp] theorem priorityAt_placed (l : List SrvTarget) (j : Nat) :
    priorityAt (placedFrom 0 l) j = (l[j]?).elim 0 (·.priority) := by
  rw [priorityAt, placedFrom_getElem?]
  cases l[j]? <;> rfl

@[simp] theorem weightAt_placed (l : List SrvTarget) (j : Nat) :
    weightAt (placedFrom 0 l) j = (l[j]?).elim 0 (·.weight) := by
  rw [weightAt, placedFrom_getElem?]
  cases l[j]? <;> rfl

@[simp] theorem sumAt_placed (l : List SrvTarget) (j : Nat) :
    sumAt (placedFrom 0 l) j = (l[j]?).elim 0 (·.sum) := by
  rw [sumAt, placedFrom_getElem?]
  cases l[j]? <;> rfl

theorem placed_ext {srv : List Cell} {l : List SrvTarget}
    (same : ∀ k : Nat, srv[k]? = (l[k]?).map fun t => Cell.mk t k) : srv = placedFrom 0 l := by
  refine List.ext_getElem? fun k => ?_
  rw [same, placedFrom_getElem?, Nat.zero_add]

theorem swap_placed {l : List SrvTarget} {i j : Nat} {a b : SrvTarget} (first : l[i]? = some a)
    (second : l[j]? = some b) :
    swap (placedFrom 0 l) i j = placedFrom 0 ((l.set i b).set j a) := by
  obtain ⟨insideI, hereI⟩ := List.getElem?_eq_some_iff.1 first
  obtain ⟨insideJ, hereJ⟩ := List.getElem?_eq_some_iff.1 second
  unfold swap
  by_cases same : i = j
  · subst same
    rw [if_pos rfl, List.set_set, ← hereI, List.set_getElem_self]
  · rw [if_neg same, placedFrom_getElem?, placedFrom_getElem?, first, second]
    refine placed_ext fun k => ?_
    simp only [Option.map_some, Nat.zero_add]
    rw [List.getElem?_set, List.getElem?_set, List.length_set, placedFrom_length,
      placedFrom_getElem?, List.getElem?_set, List.getElem?_set, List.length_set, Nat.zero_add]
    by_cases atJ : j = k
    · subst atJ
      rw [if_pos rfl, if_pos insideJ, if_pos rfl, if_pos insideJ]
      rfl
    · rw [if_neg atJ, if_neg atJ]
      by_cases atI : i = k
      · subst atI
        rw [if_pos rfl, if_pos insideI, if_pos rfl, if_pos insideI]
        rfl
      · rw [if_neg atI, if_neg atI]

theorem swap_first {before rest : List SrvTarget} {t b : SrvTarget} {k : Nat}
    (at_ : rest[k]? = some b) :
    swap (placedFrom 0 (before ++ t :: rest)) before.length (before.length + 1 + k)
      = placedFrom 0 (before ++ b :: rest.set k t) := by
  have first : (before ++ t :: rest)[before.length]? = some t := by simp
  have second : (before ++ t :: rest)[before.length + 1 + k]? = some b := by
    rw [List.getElem?_append_right (by omega), Nat.add_assoc, Nat.add_sub_cancel_left, Nat.add_comm,
      List.getElem?_cons_succ]
    exact at_
  rw [swap_placed first second]
  congr 1
  rw [List.set_append_right _ _ (Nat.le_refl _), Nat.sub_self, List.set_cons_zero,
    List.set_append_right _ _ (by omega), Nat.add_assoc, Nat.add_sub_cancel_left, Nat.add_comm,
    List.set_cons_succ]

theorem swap_self (srv : List Cell) (i : Nat) : swap srv i i = srv := if_pos rfl

end List

/-! ## The first pass -/

section FirstPass

abbrev earlier : SrvTarget → SrvTarget → Bool := fun a b => a.priority < b.priority

/-- The place of what is found behind place `i`. -/
def placeOf (i : Nat) : Option Nat → Nat
  | none => i
  | some k => i + 1 + k

theorem minLoop_placed {l rest : List SrvTarget} {i j : Nat} {b : Option Nat × SrvTarget}
    (left : l.drop (i + 1 + j) = rest) (at_ : l[placeOf i b.1]? = some b.2) :
    minLoop (placedFrom 0 l) rest.length (i + 1 + j) (placeOf i b.1)
      = placeOf i (findHighest earlier j b rest).1 := by
  -- by induction on the entries that are left to look at
  induction rest generalizing j b with
  | nil => rfl
  | cons t rest ih =>
    have here : l[i + 1 + j]? = some t := by
      rw [← List.head?_drop, left]
      rfl
    have left' : l.drop (i + 1 + (j + 1)) = rest := by
      rw [← Nat.add_assoc, ← List.drop_drop, left]
      rfl
    rw [List.length_cons, minLoop, findHighest, priorityAt_placed, priorityAt_placed, here, at_]
    show minLoop _ _ _ (if t.priority < b.2.priority then _ else _) = _
    by_cases less : t.priority < b.2.priority
    · rw [if_pos less, if_pos (decide_eq_true less)]
      exact ih (b := (some j, t)) left' here
    · rw [if_neg less, if_neg (by simpa using less)]
      exact ih left' at_

theorem firstPass_placed (n : Nat) (before l : List SrvTarget) (size : l.length = n) :
    firstPass (n - 1) before.length (placedFrom 0 (before ++ l)) = placedFrom 0 (before
        ++ (sortRounds earlier n before.length l).1) := by
  induction n generalizing before l with
  | zero =>
    rfl
  | succ n ih =>
    match l, n with
    | [t], 0 => rfl
    | _ :: _ :: _, 0 => simp at size
    | t :: rest, n + 1 =>
      have count : (placedFrom 0 (before ++ t :: rest)).length - (before.length + 1)
          = rest.length := by
        rw [placedFrom_length, List.length_append, List.length_cons]
        omega
      have left : (before ++ t :: rest).drop (before.length + 1 + 0) = rest := by simp
      have found := minLoop_placed (b := (none, t)) left (by simp [placeOf])
      have size' : rest.length = n + 1 := Nat.succ.inj size
      show firstPass n (before.length + 1) (swap _ before.length (minLoop _ _ _ _)) = _
      rw [count]
      rcases findHighest_place earlier rest 0 (none, t)
        with same | ⟨k, b, at_, later⟩
      · rw [same] at found
        rw [sortRounds, same]
        change minLoop _ _ _ before.length = before.length at found
        rw [found, swap_self]
        have next := ih (before ++ [t]) rest size'
        rw [List.length_append, List.append_assoc, List.append_assoc] at next
        exact next
      · rw [later] at found
        rw [sortRounds, later]
        change minLoop _ _ _ before.length = before.length + 1 + (0 + k) at found
        rw [Nat.zero_add] at found ⊢
        rw [found, swap_first at_]
        have next := ih (before ++ [b]) (rest.set k t) (by rw [List.length_set]; exact size')
        rw [List.length_append, List.append_assoc, List.append_assoc] at next
        exact next

end FirstPass

/-! ## The second pass -/

section SecondPass

theorem setSum_placed (before rest : List SrvTarget) (t : SrvTarget) (sum : Nat) :
    setSum (placedFrom 0 (before ++ t :: rest)) before.length sum
      = placedFrom 0 (before ++ { t with sum } :: rest) := by
  refine placed_ext fun k => ?_
  rw [setSum, List.getElem?_modify, placedFrom_getElem?]
  by_cases here : before.length = k
  · subst here
    simp
  · simp only [if_neg here, Option.map_eq_map, Option.map_map]
    have apart (u v : SrvTarget) : (before ++ u :: rest)[k]? = (before ++ v :: rest)[k]? := by
      rcases Nat.lt_or_gt_of_ne here with behind | front
      · rw [List.getElem?_append_right (by omega), List.getElem?_append_right (by omega)]
        obtain ⟨n, n_⟩ : ∃ n, k - before.length = n + 1 := ⟨k - before.length - 1, by omega⟩
        rw [n_, List.getElem?_cons_succ, List.getElem?_cons_succ]
      · rw [List.getElem?_append_left front, List.getElem?_append_left front]
    rw [apart t { t with sum }]
    cases (before ++ { t with sum } :: rest)[k]? with
    | none => rfl
    | some u =>
      rw [Option.map_some, Option.map_some, Function.comp_apply, Nat.zero_add]

theorem placed_behind (before rest : List SrvTarget) (t : SrvTarget) :
    priorityAt (placedFrom 0 (before ++ t :: rest)) before.length = t.priority
      ∧ weightAt (placedFrom 0 (before ++ t :: rest)) before.length = t.weight := by
  have at_ : (before ++ t :: rest)[before.length]? = some t := by simp
  rw [priorityAt_placed, weightAt_placed, at_]
  exact ⟨rfl, rfl⟩

theorem sumLoop_placed (priority : Nat) (before rest : List SrvTarget) (sum count : Nat) :
    sumLoop priority rest.length before.length sum count (placedFrom 0 (before ++ rest))
      = (placedFrom 0 (before ++ (runningSums priority sum rest).1),
          (runningSums priority sum rest).2.1, count + (runningSums priority sum rest).2.2) := by
  -- by induction on the entries that are left
  induction rest generalizing before sum count with
  | nil => rfl
  | cons t rest ih =>
    obtain ⟨prio, weight⟩ := placed_behind before rest t
    rw [List.length_cons, sumLoop, runningSums, prio, weight]
    by_cases same : t.priority = priority
    · rw [if_pos same, if_pos same, setSum_placed]
      have next := ih (before ++ [{ t with sum := sum + t.weight }]) (sum + t.weight) (count + 1)
      rw [List.length_append, List.append_assoc, List.append_assoc] at next
      refine next.trans ?_
      rw [Nat.add_right_comm]
      rfl
    · rw [if_neg same, if_neg same]
      rfl

theorem pickLoop_placed (n r : Nat) (before l : List SrvTarget)
    (reached : l.findIdx (fun t => decide (r ≤ t.sum)) < n) (enough : n ≤ l.length) :
    pickLoop (placedFrom 0 (before ++ l)) r n before.length
      = before.length + l.findIdx (fun t => decide (r ≤ t.sum)) := by
  -- by induction on the turns: where the first sum that reaches the number is among them
  induction n generalizing before l with
  | zero => exact absurd reached (Nat.not_lt_zero _)
  | succ n ih =>
    cases l with
    | nil => exact absurd enough (Nat.not_succ_le_zero n)
    | cons t rest =>
      have at_ : (before ++ t :: rest)[before.length]? = some t := by simp
      have sum : sumAt (placedFrom 0 (before ++ t :: rest)) before.length = t.sum := by
        rw [sumAt_placed, at_]
        rfl
      rw [pickLoop, sum, List.findIdx_cons]
      rw [List.findIdx_cons] at reached
      by_cases here : r ≤ t.sum
      · rw [if_pos here, decide_eq_true here]
        rfl
      · rw [decide_eq_false here, cond_false] at reached ⊢
        rw [if_neg here]
        have next := ih (before ++ [t]) rest (Nat.lt_of_succ_lt_succ reached)
          (Nat.le_of_succ_le_succ enough)
        rw [List.length_append, List.append_assoc] at next
        refine next.trans ?_
        rw [List.length_singleton]
        omega

/-- The entries at the front that have this priority. -/
abbrev group (priority : Nat) (l : List SrvTarget) : List SrvTarget :=
  l.takeWhile fun t => t.priority = priority

theorem runningSums_group (priority sum : Nat) (rest : List SrvTarget) :
    (runningSums priority sum rest).1.length = rest.length
      ∧ (runningSums priority sum rest).2.2 = (group priority rest).length
      ∧ (runningSums priority sum rest).2.1 = sum + ((group priority rest).map (·.weight)).sum
      ∧ ∀ k < (group priority rest).length, ∃ t, rest[k]? = some t
        ∧ (runningSums priority sum rest).1[k]? = some
          { t with sum := sum + (((group priority rest).take (k + 1)).map (·.weight)).sum } := by
  induction rest generalizing sum with
  | nil => exact ⟨rfl, rfl, rfl, fun k inside => absurd inside (Nat.not_lt_zero k)⟩
  | cons t rest ih =>
    unfold runningSums
    by_cases same : t.priority = priority
    · have front : group priority (t :: rest) = t :: group priority rest :=
        List.takeWhile_cons_of_pos (by simpa using same)
      obtain ⟨size, count, total, each⟩ := ih (sum + t.weight)
      rw [if_pos same, front]
      refine ⟨congrArg Nat.succ size, congrArg Nat.succ count, ?_, fun k inside => ?_⟩
      · show (runningSums priority (sum + t.weight) rest).2.1 = _
        rw [total, List.map_cons, List.sum_cons, Nat.add_assoc]
      · cases k with
        | zero => exact ⟨t, rfl, by simp⟩
        | succ k =>
          obtain ⟨u, at_, summed⟩ := each k (Nat.lt_of_succ_lt_succ inside)
          refine ⟨u, at_, summed.trans ?_⟩
          rw [List.take_succ_cons, List.map_cons, List.sum_cons, Nat.add_assoc]
    · have front : group priority (t :: rest) = [] :=
        List.takeWhile_cons_of_neg (by simpa using same)
      rw [if_neg same, front]
      exact ⟨rfl, rfl, rfl, fun k inside => absurd inside (Nat.not_lt_zero k)⟩

/-- The running sums of all entries that the lot is drawn among: of the first one, and of those
behind it. -/
theorem sums_getElem? {t : SrvTarget} {rest : List SrvTarget} {j : Nat}
    (inside : j < (group t.priority (t :: rest)).length) :
    ∃ u, (t :: rest)[j]? = some u
      ∧ ({ t with sum := t.weight } :: (runningSums t.priority t.weight rest).1)[j]? = some { u with
          sum := (((group t.priority (t :: rest)).take (j + 1)).map (·.weight)).sum } := by
  have front : group t.priority (t :: rest) = t :: group t.priority rest :=
    List.takeWhile_cons_of_pos (by simp)
  obtain ⟨-, -, -, each⟩ := runningSums_group t.priority t.weight rest
  rw [front] at inside ⊢
  cases j with
  | zero => exact ⟨t, rfl, by simp⟩
  | succ k =>
    obtain ⟨u, at_, summed⟩ := each k (Nat.lt_of_succ_lt_succ inside)
    refine ⟨u, at_, ?_⟩
    rw [List.getElem?_cons_succ, summed, List.take_succ_cons, List.map_cons, List.sum_cons]

theorem picked_inside (r : Nat) (t : SrvTarget) (rest : List SrvTarget) :
    ({ t with sum := t.weight } :: (runningSums t.priority t.weight rest).1).findIdx
        (fun u => decide (r % ((runningSums t.priority t.weight rest).2.1 + 1) ≤ u.sum))
      < (group t.priority (t :: rest)).length := by
  obtain ⟨-, -, total, -⟩ := runningSums_group t.priority t.weight rest
  have front : group t.priority (t :: rest) = t :: group t.priority rest :=
    List.takeWhile_cons_of_pos (by simp)
  have last : (group t.priority rest).length < (group t.priority (t :: rest)).length := by
    rw [front]
    exact Nat.lt_succ_self _
  obtain ⟨u, -, summed⟩ := sums_getElem? last
  obtain ⟨inside, here⟩ := List.getElem?_eq_some_iff.1 summed
  by_contra beyond
  have missed := List.not_of_lt_findIdx (Nat.lt_of_lt_of_le last (Nat.le_of_not_lt beyond))
  rw [here] at missed
  have whole : (t :: group t.priority rest).take ((group t.priority rest).length + 1)
      = t :: group t.priority rest := List.take_of_length_le (Nat.le_refl _)
  have reached : r % ((runningSums t.priority t.weight rest).2.1 + 1)
      ≤ (((group t.priority (t :: rest)).take ((group t.priority rest).length + 1)).map
        (·.weight)).sum := by
    rw [front, total, whole, List.map_cons, List.sum_cons]
    exact Nat.le_of_lt_succ (Nat.mod_lt _ (Nat.succ_pos _))
  exact absurd (decide_eq_true reached) (ne_true_of_eq_false missed)

theorem secondTurn_placed (rand : Nat) (before rest : List SrvTarget) (t : SrvTarget) :
    secondTurn rand before.length (placedFrom 0 (before ++ t :: rest))
      = some (placedFrom 0 (before ++ (electFirst rand t rest).1 :: (electFirst rand t rest).2)) := by
  obtain ⟨prio, weight⟩ := placed_behind before rest t
  have turns : (placedFrom 0 (before ++ t :: rest)).length - (before.length + 1) = rest.length := by
    rw [placedFrom_length, List.length_append, List.length_cons]
    omega
  have summed := sumLoop_placed t.priority (before ++ [{ t with sum := t.weight }]) rest t.weight 1
  rw [List.length_append, List.append_assoc, List.append_assoc] at summed
  change sumLoop t.priority rest.length (before.length + 1) t.weight 1
    (placedFrom 0 (before ++ { t with sum := t.weight } :: rest))
      = (placedFrom 0 (before ++ { t with sum := t.weight }
        :: (runningSums t.priority t.weight rest).1), _) at summed
  have picked := picked_inside rand t rest
  obtain ⟨size, count, -, -⟩ := runningSums_group t.priority t.weight rest
  have front : (group t.priority (t :: rest)).length = 1 + (group t.priority rest).length := by
    have one : group t.priority (t :: rest) = t :: group t.priority rest :=
      List.takeWhile_cons_of_pos (by simp)
    rw [one, List.length_cons, Nat.add_comm]
  rw [front, ← count] at picked
  unfold secondTurn electFirst
  rw [prio, weight, turns, setSum_placed, summed]
  dsimp only
  by_cases alone : (runningSums t.priority t.weight rest).2.2 = 0
  · rw [if_neg (by omega), if_pos alone]
  · have few : (group t.priority rest).length ≤ rest.length :=
      (List.takeWhile_sublist _).length_le
    rw [if_pos (by omega), if_neg alone, pickLoop_placed _ _ _ _ picked (by
      rw [List.length_cons, size, count]
      omega)]
    generalize List.findIdx _ _ = j at picked ⊢
    rw [if_pos (by omega)]
    congr 1
    cases j with
    | zero => exact swap_self _ _
    | succ k =>
      have inside : k < (runningSums t.priority t.weight rest).1.length := by
        omega
      rw [swapFirst, List.getElem?_eq_getElem inside, Nat.add_comm k 1, ← Nat.add_assoc]
      exact swap_first (List.getElem?_eq_getElem inside)

theorem secondPass_placed (rand : Nat → Nat) (n : Nat) (before l : List SrvTarget)
    (size : l.length = n) :
    secondPass rand n before.length (placedFrom 0 (before ++ l))
      = some (placedFrom 0 (before ++ electRounds rand n l)) := by
  -- by induction on the turns
  induction n generalizing before l with
  | zero =>
    rfl
  | succ n ih =>
    match l with
    | t :: rest =>
      have left := (electFirst_perm (rand n) t rest).length_eq
      simp only [List.length_map, List.length_cons] at left size
      rw [secondPass, secondTurn_placed, electRounds, Option.bind_some]
      have next := ih (before ++ [(electFirst (rand n) t rest).1])
        (electFirst (rand n) t rest).2 (by omega)
      rw [List.length_append, List.append_assoc, List.append_assoc] at next
      exact next

end SecondPass

/-! ## Both of them -/

theorem orderInPlace_placed (rand : Nat → Nat) (l : List SrvTarget) :
    orderInPlace rand (placedFrom 0 l) = some (placedFrom 0 (orderEntries rand l)) := by
  have first := firstPass_placed l.length [] l rfl
  have second := secondPass_placed rand l.length [] (selectionSort earlier l).1
    (selectionSort_perm _ l).length_eq
  change firstPass (l.length - 1) 0 (placedFrom 0 l)
    = placedFrom 0 (selectionSort earlier l).1 at first
  change secondPass rand l.length 0 (placedFrom 0 (selectionSort earlier l).1)
    = some (placedFrom 0 (orderEntries rand l)) at second
  unfold orderInPlace
  rw [placedFrom_length, first, second, Option.map_some]
  congr 1
  refine placed_ext fun k => ?_
  rw [List.getElem?_mapIdx, placedFrom_getElem?]
  cases (orderEntries rand l)[k]? <;> rfl

theorem named_placed (l : List SrvTarget) : named (placedFrom 0 l) = l := by
  refine List.ext_getElem? fun k => ?_
  rw [named, List.getElem?_map, placedFrom_getElem?]
  cases here : l[k]? with
  | none => rfl
  | some t =>
    rw [Option.map_some, Option.map_some, placedFrom_getElem?, Nat.zero_add, Nat.zero_add, here]
    simp

theorem buildServerEntriesInPlace_eq (pton : InetPton) (rand : Nat → Nat) (job : SrvQuery)
    (response : ParsedPacket) :
    buildServerEntriesInPlace pton rand job response
      = some (buildServerEntries pton rand job response) := by
  unfold buildServerEntriesInPlace buildServerEntries
  dsimp only
  rw [placedFrom_length, orderInPlace_placed, Option.map_some, named_placed]
  by_cases empty : (srvEntries response.ans).length = 0
  · rw [if_pos empty, if_pos empty, List.eq_nil_of_length_eq_zero empty]
  · rw [if_neg empty, if_neg empty]

/-! ## What is meant -/

/-- What an SRV record says. -/
structure SrvRecord where
  target : List UInt8
  port : UInt16
  priority : Nat
  weight : Nat
  deriving DecidableEq

def SrvTarget.record (t : SrvTarget) : SrvRecord := ⟨t.targetName, t.port, t.priority, t.weight⟩

/-- A record of type SRV with a target of 1 to `PJ_MAX_HOSTNAME` - 1 octets. -/
def usableRecord (rr : ParsedRr) : Option SrvRecord :=
  match rr.rdata with
  | .srv prio weight port target =>
    if rr.type = typeSrv ∧ 1 ≤ target.length ∧ target.length ≤ maxHostname - 1 then
      some ⟨target, port, prio.toNat, weight.toNat⟩
    else none
  | _ => none

/-- The records that are used. -/
def usedRecords (response : ParsedPacket) : List SrvRecord :=
  (response.ans.filterMap usableRecord).take srvMaxAddr

def Ascending (l : List SrvRecord) : Prop := (l.map (·.priority)).Pairwise (· ≤ ·)

/-- The sum of the first `j + 1` weights. -/
def runningSum (l : List SrvRecord) (j : Nat) : Nat := ((l.take (j + 1)).map (·.weight)).sum

/-- Records are put in order one by one. Among those at the front of the remaining ones, which have
one priority, it is the first whose running sum reaches the number drawn, and it changes places with
the front one. -/
inductive Elected (rand : Nat → Nat) : List SrvRecord → List SrvRecord → Prop
  | nil : Elected rand [] []
  | cons {t c : SrvRecord} {rest l : List SrvRecord} (j : Nat) (draw : Nat)
      (drawn : draw = rand rest.length
        % ((((t :: rest).takeWhile (·.priority = t.priority)).map (·.weight)).sum + 1))
      (among : j < ((t :: rest).takeWhile (·.priority = t.priority)).length)
      (reaches : draw ≤ runningSum ((t :: rest).takeWhile (·.priority = t.priority)) j)
      (first : ∀ k < j, runningSum ((t :: rest).takeWhile (·.priority = t.priority)) k < draw)
      (chosen : (t :: rest)[j]? = some c)
      (later : Elected rand ((t :: rest).set j t).tail l) : Elected rand (t :: rest) (c :: l)

/-- The servers are those of the first records that can be used, in order; and the servers that have
an address are counted. -/
structure Arranged (rand : Nat → Nat) (response : ParsedPacket) (job : SrvQuery) : Prop where
  kept : (job.srv.map SrvTarget.record).Perm (usedRecords response)
  ascending : Ascending (job.srv.map SrvTarget.record)
  elected : ∃ byPriority, byPriority.Perm (usedRecords response) ∧ Ascending byPriority
    ∧ Elected rand byPriority (job.srv.map SrvTarget.record)
  resolved : job.hostResolved = job.srv.countP fun t => t.addr ≠ []

/-! ## The election -/

section Election

variable {rand : Nat → Nat}

theorem group_record (priority : Nat) (l : List SrvTarget) :
    (l.map SrvTarget.record).takeWhile (·.priority = priority)
      = (group priority l).map SrvTarget.record := List.takeWhile_map ..

theorem runningSum_record (l : List SrvTarget) (j : Nat) :
    runningSum (l.map SrvTarget.record) j = ((l.take (j + 1)).map (·.weight)).sum := by
  rw [runningSum, ← List.map_take, List.map_map]
  rfl

theorem electFirst_elects (draw : Nat) (t : SrvTarget) (rest : List SrvTarget) :
    ∃ j, j < (group t.priority (t :: rest)).length
      ∧ draw % (((group t.priority (t :: rest)).map (·.weight)).sum + 1)
        ≤ runningSum ((group t.priority (t :: rest)).map SrvTarget.record) j
      ∧ (∀ k < j, runningSum ((group t.priority (t :: rest)).map SrvTarget.record) k
        < draw % (((group t.priority (t :: rest)).map (·.weight)).sum + 1))
      ∧ ((t :: rest).map SrvTarget.record)[j]? = some (electFirst draw t rest).1.record
      ∧ (electFirst draw t rest).2.map SrvTarget.record
        = (((t :: rest).map SrvTarget.record).set j t.record).tail := by
  have front : group t.priority (t :: rest) = t :: group t.priority rest :=
    List.takeWhile_cons_of_pos (by simp)
  have forgotten := congrArg (List.map SrvTarget.record)
    (runningSums_forget t.priority t.weight rest)
  simp only [List.map_map] at forgotten
  change (runningSums t.priority t.weight rest).1.map SrvTarget.record
    = rest.map SrvTarget.record at forgotten
  obtain ⟨size, count, total, -⟩ := runningSums_group t.priority t.weight rest
  by_cases alone : (runningSums t.priority t.weight rest).2.2 = 0
  · -- there is nothing to draw
    have elected : electFirst draw t rest
        = ({ t with sum := t.weight }, (runningSums t.priority t.weight rest).1) := if_pos alone
    have lone : group t.priority (t :: rest) = [t] := by
      rw [front, List.eq_nil_of_length_eq_zero (count.symm.trans alone)]
    rw [elected, lone]
    refine ⟨0, Nat.one_pos, ?_, fun k inside => absurd inside (Nat.not_lt_zero k), rfl, forgotten⟩
    exact Nat.le_of_lt_succ (Nat.mod_lt _ (Nat.succ_pos _))
  · have sums : ((group t.priority (t :: rest)).map (·.weight)).sum
        = (runningSums t.priority t.weight rest).2.1 := by
      rw [front, List.map_cons, List.sum_cons, total]
    have elected : electFirst draw t rest = swapFirst { t with sum := t.weight }
        (runningSums t.priority t.weight rest).1 _ := if_neg alone
    have picked := picked_inside draw t rest
    rw [elected, sums]
    obtain ⟨j, j_⟩ : ∃ j, ({ t with sum := t.weight }
        :: (runningSums t.priority t.weight rest).1).findIdx
          (fun u => decide (draw % ((runningSums t.priority t.weight rest).2.1 + 1) ≤ u.sum)) = j :=
      ⟨_, rfl⟩
    rw [j_] at picked ⊢
    refine ⟨j, picked, ?_, fun k before => ?_, ?_⟩
    · obtain ⟨u, -, summed⟩ := sums_getElem? picked
      obtain ⟨inside, here⟩ := List.getElem?_eq_some_iff.1 summed
      have reached := ((List.findIdx_eq inside).mp j_).1
      rw [here] at reached
      rw [runningSum_record]
      exact of_decide_eq_true reached
    · obtain ⟨u, -, summed⟩ := sums_getElem? (Nat.lt_trans before picked)
      obtain ⟨inside, here⟩ := List.getElem?_eq_some_iff.1 summed
      rw [← j_] at before
      have missed := List.not_of_lt_findIdx before
      rw [here] at missed
      rw [runningSum_record]
      exact Nat.lt_of_not_le (of_decide_eq_false missed)
    · cases j with
      | zero => exact ⟨rfl, forgotten⟩
      | succ k =>
        have inside : k < (runningSums t.priority t.weight rest).1.length := by
          have few : (group t.priority rest).length ≤ rest.length :=
            (List.takeWhile_sublist _).length_le
          rw [front, List.length_cons] at picked
          omega
        rw [swapFirst, List.getElem?_eq_getElem inside]
        refine ⟨?_, ?_⟩
        · have here := congrArg (·[k]?) forgotten
          simp only [List.getElem?_map] at here
          rw [List.getElem?_eq_getElem inside] at here
          rw [List.map_cons, List.getElem?_cons_succ, List.getElem?_map, ← here]
          rfl
        · show ((runningSums t.priority t.weight rest).1.set k _).map SrvTarget.record = _
          rw [List.map_set, forgotten]
          rfl

theorem electRounds_elected (rand : Nat → Nat) (n : Nat) (l : List SrvTarget) (size : l.length = n) :
    Elected rand (l.map SrvTarget.record) ((electRounds rand n l).map SrvTarget.record) := by
  induction n generalizing l with
  | zero =>
    rw [List.eq_nil_of_length_eq_zero size]
    exact .nil
  | succ n ih =>
    match l with
    | t :: rest =>
      have left := (electFirst_perm (rand n) t rest).length_eq
      simp only [List.length_map, List.length_cons] at left size
      obtain ⟨j, among, reaches, first, chosen, same⟩ := electFirst_elects (rand n) t rest
      have later := ih (electFirst (rand n) t rest).2 (by omega)
      rw [same] at later
      have records := group_record t.priority (t :: rest)
      have number : (rest.map SrvTarget.record).length = n := by
        rw [List.length_map]
        omega
      have weights : (((group t.priority (t :: rest)).map SrvTarget.record).map
          (·.weight)).sum = ((group t.priority (t :: rest)).map (·.weight)).sum := by
        rw [List.map_map]
        rfl
      have draw : rand (rest.map SrvTarget.record).length
          % (((((t :: rest).map SrvTarget.record).takeWhile (·.priority = t.priority)).map
            (·.weight)).sum + 1)
          = rand n % (((group t.priority (t :: rest)).map (·.weight)).sum + 1) := by
        rw [number, records, weights]
      refine .cons j _ draw.symm ?_ ?_ ?_ chosen later
      · show j < (((t :: rest).map SrvTarget.record).takeWhile (·.priority = t.priority)).length
        rw [records, List.length_map]
        exact among
      · show _ ≤ runningSum
          (((t :: rest).map SrvTarget.record).takeWhile (·.priority = t.priority)) j
        rw [records]
        exact reaches
      · intro k before
        show runningSum
          (((t :: rest).map SrvTarget.record).takeWhile (·.priority = t.priority)) k < _
        rw [records]
        exact first k before

theorem chosen_perm {t c : SrvRecord} {rest : List SrvRecord} {j : Nat}
    (chosen : (t :: rest)[j]? = some c) :
    (c :: ((t :: rest).set j t).tail).Perm (t :: rest) := by
  cases j with
  | zero =>
    cases chosen
    exact .refl _
  | succ k => exact perm_exchange (show rest[k]? = some c from chosen) t

theorem group_priority {priority : Nat} {l : List SrvRecord} {j : Nat} {c : SrvRecord}
    (among : j < (l.takeWhile (·.priority = priority)).length) (chosen : l[j]? = some c) :
    c.priority = priority := by
  obtain ⟨back, whole⟩ := List.takeWhile_prefix (l := l)
    fun c : SrvRecord => decide (c.priority = priority)
  rw [← whole, List.getElem?_append_left among] at chosen
  have imposed := List.mem_takeWhile_imp (List.mem_of_getElem? chosen)
  simpa using imposed

theorem Elected.ordered {l l' : List SrvRecord} (elected : Elected rand l l')
    (ascending : Ascending l) : l'.Perm l ∧ Ascending l' := by
  -- by induction on the election: none is lost, and those with one priority stay together
  induction elected with
  | nil => exact ⟨.refl _, ascending⟩
  | @cons t c rest l j draw drawn among reaches first chosen later ih =>
    have same := group_priority among chosen
    have left : ((t :: rest).set j t).tail.map (·.priority) = rest.map (·.priority) := by
      cases j with
      | zero => rfl
      | succ k =>
        have here : (rest.map (·.priority))[k]? = some t.priority := by
          rw [List.getElem?_map, show rest[k]? = some c from chosen, Option.map_some, same]
        obtain ⟨inside, here⟩ := List.getElem?_eq_some_iff.1 here
        show (rest.set k t).map (·.priority) = _
        rw [List.map_set, ← here, List.set_getElem_self]
    have ascending' : Ascending ((t :: rest).set j t).tail := by
      unfold Ascending at ascending ⊢
      rw [left]
      exact (List.pairwise_cons.1 ascending).2
    obtain ⟨perm, sorted⟩ := ih ascending'
    refine ⟨(perm.cons c).trans (chosen_perm chosen), ?_⟩
    refine List.pairwise_cons.2 ⟨fun priority inside => ?_, sorted⟩
    rw [(perm.map (·.priority)).mem_iff, left] at inside
    show c.priority ≤ priority
    rw [same]
    exact (List.pairwise_cons.1 ascending).1 priority inside

end Election

/-! ## The servers -/

theorem srvEntries_records (response : ParsedPacket) :
    (srvEntries response.ans).map SrvTarget.record = usedRecords response := by
  have each : ∀ rr, (srvEntry rr).map SrvTarget.record = usableRecord rr := by
    intro rr
    unfold srvEntry usableRecord
    cases rr.rdata with
    | srv prio weight port target =>
      dsimp only
      by_cases usable : rr.type = typeSrv ∧ 1 ≤ target.length ∧ target.length ≤ maxHostname - 1
      · have kept : ¬ (rr.type ≠ typeSrv ∨ maxHostname ≤ target.length ∨ target.length = 0) := by
          rintro (other | long | unnamed)
          · exact other usable.1
          · have := usable.2.2
            omega
          · have := usable.2.1
            omega
        rw [if_pos usable, if_neg kept]
        rfl
      · have dropped : rr.type ≠ typeSrv ∨ maxHostname ≤ target.length ∨ target.length = 0 := by
          by_contra kept
          simp only [not_or, not_not] at kept
          refine usable ⟨kept.1, ?_, ?_⟩
          · omega
          · have := kept.2.1
            omega
        rw [if_neg usable, if_pos dropped]
        rfl
    | _ => rfl
  unfold srvEntries usedRecords
  rw [List.map_take, List.map_filterMap]
  congr 2
  funext rr
  exact each rr

theorem takeRecord_record (rr : ParsedRr) (t : SrvTarget) :
    (takeRecord rr t).record = t.record := by
  unfold takeRecord
  split <;> rfl

theorem takeName_record (pton : InetPton) (option : SrvOption) (t : SrvTarget) :
    (takeName pton option t).record = t.record := by
  unfold takeName
  split <;> rfl

theorem addRecords_record (records : List ParsedRr) (job : SrvQuery) :
    (records.foldl addRecord job).srv.map SrvTarget.record = job.srv.map SrvTarget.record := by
  induction records generalizing job with
  | nil => rfl
  | cons rr records ih =>
    rw [List.foldl_cons, ih]
    unfold addRecord
    split
    · rw [List.map_map]
      exact List.map_congr_left fun t _ => takeRecord_record rr t
    · rfl

theorem addNames_record (pton : InetPton) (job : SrvQuery) :
    (addNames pton job).srv.map SrvTarget.record = job.srv.map SrvTarget.record := by
  show (job.srv.map _).map SrvTarget.record = _
  rw [List.map_map]
  exact List.map_congr_left fun t _ => takeName_record pton job.option t

theorem selectionSort_ascending (srv : List SrvTarget) :
    Ascending ((selectionSort earlier srv).1.map SrvTarget.record) := by
  have asymm (a b : SrvTarget) : earlier a b = true → earlier b a = false := by
    intro less
    have := of_decide_eq_true less
    exact decide_eq_false (by omega)
  have trans (a b c : SrvTarget) : earlier a b = false → earlier b c = false →
      earlier a c = false := by
    intro first second
    have one := of_decide_eq_false first
    have two := of_decide_eq_false second
    exact decide_eq_false (by omega)
  have sorted := selectionSort_sorted earlier asymm trans srv
  unfold Ascending
  rw [List.map_map, List.pairwise_map]
  exact sorted.imp fun {a b} not_ => Nat.le_of_not_lt (of_decide_eq_false not_)

/-- The servers of an answer, whatever the lots are; a server is always selected. -/
theorem buildServerEntries_arranged (pton : InetPton) (rand : Nat → Nat) (job : SrvQuery)
    (response : ParsedPacket) (fresh : job.hostResolved = 0) :
    ∃ built, buildServerEntriesInPlace pton rand job response = some built
      ∧ Arranged rand response built := by
  refine ⟨_, buildServerEntriesInPlace_eq pton rand job response, ?_⟩
  obtain ⟨known, -, -⟩ := buildServerEntries_known pton rand fresh response
  have resolved : (buildServerEntries pton rand job response).hostResolved
      = (buildServerEntries pton rand job response).srv.countP fun t => t.addr ≠ [] := by
    have counted := known.counted
    have all := List.length_eq_countP_add_countP
      (l := (buildServerEntries pton rand job response).srv)
      (fun t : SrvTarget => decide (t.addr ≠ []))
    have same : (buildServerEntries pton rand job response).srv.countP
        (fun t => decide (¬ decide (t.addr ≠ []) = true))
        = (buildServerEntries pton rand job response).srv.countP
          (fun t => decide (t.addr.length = 0)) := by
      congr 1
      funext t
      cases t.addr <;> rfl
    omega
  -- what the records say is left as it was put in order
  have records : (buildServerEntries pton rand job response).srv.map SrvTarget.record
      = (orderEntries rand (srvEntries response.ans)).map SrvTarget.record := by
    unfold buildServerEntries
    dsimp only
    by_cases empty : (srvEntries response.ans).length = 0
    · rw [if_pos empty, List.eq_nil_of_length_eq_zero empty]
      rfl
    · rw [if_neg empty, addNames_record, addRecords_record]
  have perm : ((selectionSort earlier (srvEntries response.ans)).1.map SrvTarget.record).Perm
      (usedRecords response) := by
    rw [← srvEntries_records]
    exact (selectionSort_perm _ _).map _
  have ascending := selectionSort_ascending (srvEntries response.ans)
  have elected := electRounds_elected rand (srvEntries response.ans).length
    (selectionSort earlier (srvEntries response.ans)).1 (selectionSort_perm _ _).length_eq
  obtain ⟨among, sorted⟩ := elected.ordered ascending
  have ordered : (orderEntries rand (srvEntries response.ans)).map SrvTarget.record
      = (electRounds rand (srvEntries response.ans).length
        (selectionSort earlier (srvEntries response.ans)).1).map SrvTarget.record := rfl
  refine ⟨?_, ?_, ⟨_, perm, ascending, ?_⟩, resolved⟩
  · rw [records, ordered]
    exact among.trans perm
  · rw [records, ordered]
    exact sorted
  · rw [records, ordered]
    exact elected

section Examples

/-- Two targets of one priority and one before them. -/
def threeServers : ParsedPacket where
  hdr := ⟨1, 0, 1, 3, 0, 0⟩
  q := []
  ans := [⟨[0x73], typeSrv, 1, 60, 9, .srv 1 2 5060 [0x61]⟩,
    ⟨[0x73], typeSrv, 1, 60, 9, .srv 1 3 5061 [0x62]⟩,
    ⟨[0x73], typeSrv, 1, 60, 9, .srv 0 1 5062 [0x63]⟩]
  ns := []
  arr := []

/-- A query that was started. -/
def startedQuery : SrvQuery where
  dnsState := .srv
  qSrv := .null
  lastError := none
  option := ⟨false, false, false, false⟩
  domainPart := []
  defPort := 5060
  srv := []
  hostResolved := 0

theorem threeServers_arranged :
    ∃ built, buildServerEntriesInPlace ⟨fun _ => none, fun _ => none⟩ (fun _ => 4) startedQuery
      threeServers = some built ∧ Arranged (fun _ => 4) threeServers built :=
  buildServerEntries_arranged _ _ startedQuery threeServers rfl

end Examples

end Pjsip.PjlibUtil.Srv
