import Pjsip.Pjnath.Ice.Sending

/-!
# The valid list

Pairs only enter the valid list by a success response, and none leaves it. The components point
at their pairs in it, and are told where these are when it is sorted.
-/

namespace Pjsip.Pjnath.Ice

open Pjsip.Base

/-- The components point into the valid list. -/
def IceSess.Pointed (ice : IceSess) : Prop :=
  ∀ comp ∈ ice.comps, (∀ v ∈ comp.validCheck, v < ice.validList.length)
    ∧ ∀ n ∈ comp.nominatedCheck, n < ice.validList.length

/-- No pair becomes valid, and the components point into the valid list if they did. -/
structure Listed (ice ice' : IceSess) : Prop where
  pairs : ∀ c' ∈ ice'.validList, ∃ c ∈ ice.validList, c.pair = c'.pair
  pointed : ice.Pointed → ice'.Pointed

namespace Listed

variable {ice ice' ice'' : IceSess}

theorem refl (ice : IceSess) : Listed ice ice := ⟨fun c mem => ⟨c, mem, rfl⟩, id⟩

theorem trans (first : Listed ice ice') (second : Listed ice' ice'') : Listed ice ice'' where
  pairs := by
    intro c mem
    obtain ⟨c', mem', same⟩ := second.pairs c mem
    obtain ⟨c'', mem'', same'⟩ := first.pairs c' mem'
    exact ⟨c'', mem'', same'.trans same⟩
  pointed := second.pointed ∘ first.pointed

theorem after (listed : Listed ice' ice'') (validList : ice'.validList = ice.validList)
    (comps : ice'.comps = ice.comps) : Listed ice ice'' := by
  refine ⟨?_, ?_⟩
  · rw [← validList]
    exact listed.pairs
  · intro pointed
    apply listed.pointed
    rw [IceSess.Pointed, validList, comps]
    exact pointed

theorem of_eq (validList : ice'.validList = ice.validList) (comps : ice'.comps = ice.comps) :
    Listed ice ice' where
  pairs := by
    rw [validList]
    exact fun c mem => ⟨c, mem, rfl⟩
  pointed := by
    rw [IceSess.Pointed, IceSess.Pointed, validList, comps]
    exact id

end Listed

theorem Frame.listed {ice ice' : IceSess} (frame : Frame ice ice') : Listed ice ice' :=
  .of_eq frame.validList frame.comps

namespace IceSess

variable {env : IceEnv} {ice : IceSess}

theorem updateComp_pointed (comp : Comp) {check n : Nat} (inside : check < n)
    (pointed : (∀ v ∈ comp.validCheck, v < n) ∧ ∀ k ∈ comp.nominatedCheck, k < n) :
    (∀ v ∈ (ice.updateComp comp check).validCheck, v < n)
      ∧ ∀ k ∈ (ice.updateComp comp check).nominatedCheck, k < n := by
  constructor
  · intro v at_
    rw [updateComp] at at_
    split at at_
    · cases at_
      exact inside
    · rename_i vc valid
      split at at_
      · cases at_
        exact inside
      · cases at_
        exact pointed.1 v valid
  · intro k at_
    rw [updateComp] at at_
    simp only at at_
    split at at_
    · split at at_
      · cases at_
        exact inside
      · rename_i nc nominated
        split at at_
        · cases at_
          exact inside
        · cases at_
          exact pointed.2 k nominated
    · exact pointed.2 k at_

theorem updateCompCheck_pointed (pointed : ice.Pointed) (compId : Nat) {check : Nat}
    (inside : check < ice.validList.length) : (ice.updateCompCheck compId check).Pointed := by
  rw [updateCompCheck]
  split
  · exact pointed
  · exact forall_mem_modify pointed fun comp before => updateComp_pointed comp inside before

theorem nominateValid_listed (c : Check) (j : Nat) : Listed ice (ice.nominateValid c j) := by
  rw [nominateValid]
  split
  · rename_i same
    refine ⟨?_, ?_⟩
    · intro c' mem
      rw [updateCompCheck_eq] at mem
      obtain ⟨c'', there, rfl | ⟨_, rfl⟩⟩ := mem_modify mem <;> exact ⟨_, there, rfl⟩
    · intro pointed
      refine updateCompCheck_pointed ?_ _ ?_
      · intro comp mem
        rw [List.length_modify]
        exact pointed comp mem
      · rw [List.length_modify]
        exact same.1
  · exact .refl ice

theorem nominateValids_listed (c : Check) (places : List Nat) :
    Listed ice (places.foldl (fun ice j => ice.nominateValid c j) ice) := by
  induction places generalizing ice with
  | nil => exact .refl ice
  | cons j rest ih => exact (nominateValid_listed c j).trans ih

theorem dropComps_listed (ice : IceSess) : Listed ice ice.dropComps where
  pairs := fun c mem => ⟨c, mem, rfl⟩
  pointed := by
    intro pointed comp mem
    obtain ⟨i, inside, at_⟩ := List.mem_mapIdx.1 mem
    split at at_
    · rw [← at_]
      exact ⟨nofun, nofun⟩
    · rw [← at_]
      exact pointed _ (List.getElem_mem inside)

/-- The valid list with the pair of a succeeded check, and where it is. -/
def withValid (ice : IceSess) (ckid l : Nat) : List Check × Nat :=
  let check := ice.clist.slot ckid
  match ice.validList.findIdx? (fun c => c.lcand = l && c.rcand = check.rcand) with
  | none =>
    let newCheck : Check :=
      { lcand := l
        rcand := check.rcand
        prio := calcCheckPrio ice.role (ice.lcand l) (ice.rcand check.rcand)
        state := .succeeded
        nominated := check.nominated }
    (ice.validList ++ [newCheck], ice.validList.length)
  | some i => (ice.validList.modify i fun c => { c with nominated := check.nominated }, i)

/-- The session with the valid list sorted, its components pointing where they did. -/
def sortValid (ice : IceSess) : IceSess :=
  let sorted := selectionSort higherCheck ice.validList
  let follow := Option.map (followExchanges sorted.2)
  { ice with
    validList := sorted.1
    comps := ice.comps.map fun comp : Comp =>
      ⟨follow comp.validCheck, follow comp.nominatedCheck⟩ }

/-- Before the check is complete: the pair is entered, pointed at, and sorted. -/
def enterValid (ice : IceSess) (ckid l : Nat) : IceSess :=
  let entered := ice.withValid ckid l
  (({ ice with validList := entered.1 } : IceSess).updateCompCheck (ice.lcand l).compId
    entered.2).sortValid

theorem makeValid_enters (ice : IceSess) (ckid l : Nat) : ice.makeValid ckid l
      = ({ ice.enterValid ckid l with
          clist := ice.clist.modifySlot ckid (Check.setState .succeeded .success) }.onCheckComplete
        ((ice.clist.modifySlot ckid (Check.setState .succeeded .success)).slot ckid)).1 := by
  have kept : (ice.enterValid ckid l).clist = ice.clist := by
    rw [enterValid, updateCompCheck_eq]
    rfl
  have enters : ice.makeValid ckid l = ({ ice.enterValid ckid l with
          clist := (ice.enterValid ckid l).clist.modifySlot ckid
            (Check.setState .succeeded .success) }.onCheckComplete
        (((ice.enterValid ckid l).clist.modifySlot ckid
          (Check.setState .succeeded .success)).slot ckid)).1 := rfl
  rw [enters, kept]

theorem withValid_inside (ice : IceSess) (ckid l : Nat) :
    (ice.withValid ckid l).2 < (ice.withValid ckid l).1.length
      ∧ ice.validList.length ≤ (ice.withValid ckid l).1.length := by
  rw [withValid]
  split
  · rw [List.length_append, List.length_singleton]
    exact ⟨Nat.lt_succ_self _, Nat.le_succ _⟩
  · rename_i i found
    obtain ⟨inside, _⟩ := List.findIdx?_eq_some_iff_getElem.1 found
    rw [List.length_modify]
    exact ⟨inside, Nat.le_refl _⟩

theorem withValid_pairs (ice : IceSess) (ckid l : Nat) {c' : Check}
    (mem : c' ∈ (ice.withValid ckid l).1) :
    (∃ c ∈ ice.validList, c.pair = c'.pair) ∨ c'.pair = (l, (ice.clist.slot ckid).rcand) := by
  rw [withValid] at mem
  split at mem
  · rcases List.mem_append.1 mem with old | new
    · exact .inl ⟨c', old, rfl⟩
    · rw [List.mem_singleton.1 new]
      exact .inr rfl
  · obtain ⟨c'', there, rfl | ⟨_, rfl⟩⟩ := mem_modify mem <;> exact .inl ⟨_, there, rfl⟩

theorem sortValid_perm (ice : IceSess) : ice.sortValid.validList.Perm ice.validList :=
  selectionSort_perm higherCheck _

theorem sortValid_pointed (pointed : ice.Pointed) : ice.sortValid.Pointed := by
  have follows : ∀ p < ice.validList.length,
      followExchanges (selectionSort higherCheck ice.validList).2 p
        < ice.sortValid.validList.length := by
    intro p inside
    have at_ := selectionSort_follow higherCheck ice.validList p
    rw [List.getElem?_eq_getElem inside] at at_
    exact (List.getElem?_eq_some_iff.1 at_).1
  intro comp mem
  obtain ⟨comp', mem', rfl⟩ := List.mem_map.1 mem
  obtain ⟨valid, nominated⟩ := pointed comp' mem'
  constructor
  · intro v at_
    obtain ⟨v', at', rfl⟩ := Option.map_eq_some_iff.1 at_
    exact follows v' (valid v' at')
  · intro n at_
    obtain ⟨n', at', rfl⟩ := Option.map_eq_some_iff.1 at_
    exact follows n' (nominated n' at')

theorem enterValid_pairs (ice : IceSess) (ckid l : Nat) {c' : Check}
    (mem : c' ∈ (ice.enterValid ckid l).validList) :
    (∃ c ∈ ice.validList, c.pair = c'.pair) ∨ c'.pair = (l, (ice.clist.slot ckid).rcand) := by
  have mem' := (sortValid_perm _).mem_iff.1 mem
  rw [updateCompCheck_eq] at mem'
  exact withValid_pairs ice ckid l mem'

theorem enterValid_pointed (pointed : ice.Pointed) (ckid l : Nat) :
    (ice.enterValid ckid l).Pointed := by
  obtain ⟨inside, longer⟩ := withValid_inside ice ckid l
  refine sortValid_pointed (updateCompCheck_pointed ?_ _ inside)
  intro comp mem
  obtain ⟨valid, nominated⟩ := pointed comp mem
  exact ⟨fun v at_ => Nat.lt_of_lt_of_le (valid v at_) longer,
    fun n at_ => Nat.lt_of_lt_of_le (nominated n at_) longer⟩

end IceSess

/-! ## Sorting and pruning -/

/-- The checks that the components point at. -/
def IceSess.denoted (ice : IceSess) : List (Option Check × Option Check) :=
  ice.comps.map fun comp =>
    (comp.validCheck.bind (ice.validList[·]?), comp.nominatedCheck.bind (ice.validList[·]?))

theorem sortValid_denoted (ice : IceSess) : ice.sortValid.denoted = ice.denoted := by
  rw [IceSess.denoted, IceSess.denoted, IceSess.sortValid, List.map_map]
  refine List.map_congr_left fun comp _ => ?_
  have follows : ∀ p : Option Nat,
      (p.map (followExchanges (selectionSort higherCheck ice.validList).2)).bind
        ((selectionSort higherCheck ice.validList).1[·]?) = p.bind (ice.validList[·]?) := by
    rintro (_ | p)
    · rfl
    · exact selectionSort_follow higherCheck _ p
  exact Prod.ext (follows _) (follows _)

/-- Neither is above the one before it: by the rank of its state, then by its priority. -/
def Ordered (checks : List Check) : Prop :=
  checks.Pairwise fun a b =>
    b.state.rank < a.state.rank ∨ b.state.rank = a.state.rank ∧ b.prio ≤ a.prio

theorem sort_ranked (checks : List Check) : Ordered (selectionSort higherCheck checks).1 := by
  refine (sort_sorted checks).imp fun {a b} notAbove => ?_
  rw [← Bool.not_eq_true, higherCheck_iff] at notAbove
  omega

/-- Sorting and pruning keep what they should. -/
theorem sort_prune_keep (ice : IceSess) (clist : Checklist) (lcands : List Cand) :
    clist.sort.checks.Perm clist.checks ∧ Ordered clist.sort.checks
      ∧ ice.sortValid.validList.Perm ice.validList ∧ Ordered ice.sortValid.validList
      ∧ ice.sortValid.denoted = ice.denoted
      ∧ ((∀ c ∈ clist.checks, (lcands.getD c.lcand {}).reflexive = true →
            findBase lcands (lcands.getD c.lcand {}) ≠ none) →
          (clist.prune lcands).2 = .success
            ∧ Thinned lcands [] (replaceBases lcands clist.checks).1
              (clist.prune lcands).1.checks) := by
  refine ⟨selectionSort_perm _ _, sort_ranked _, selectionSort_perm _ _, sort_ranked _,
    sortValid_denoted ice, fun bases => ?_⟩
  refine ⟨?_, prune_thinned lcands clist⟩
  rw [Checklist.prune, if_pos (replaceBases_ok lcands bases)]

/-- A host candidate, and a reflexive one whose base it is. -/
def hostAndReflexive : List Cand :=
  [{ addr := hostAddr 1 }, { type := .srflx, addr := hostAddr 2, baseAddr := hostAddr 1 }]

/-- Each of them is paired with two remote candidates. -/
def fourPairs : Checklist where
  state := .idle
  checks := [⟨0, 0, 0, 40, .waiting, none, false, .success⟩,
    ⟨0, 1, 0, 30, .frozen, none, false, .success⟩, ⟨1, 0, 1, 20, .frozen, none, false, .success⟩,
    ⟨1, 1, 1, 10, .frozen, none, false, .success⟩]
  stale := List.replicate (maxChecks - 4) {}
  size := rfl
  foundation := []

/-- The pairs of the reflexive candidate are the same as those of its base. -/
theorem sort_prune_keep_reflexive : (fourPairs.prune hostAndReflexive).2 = .success
    ∧ Thinned hostAndReflexive [] (replaceBases hostAndReflexive fourPairs.checks).1
      (fourPairs.prune hostAndReflexive).1.checks
    ∧ (fourPairs.prune hostAndReflexive).1.checks = fourPairs.checks.take 2 := by
  obtain ⟨pruned, thinned⟩ := (sort_prune_keep (IceSess.create .controlled 5 1) fourPairs
    hostAndReflexive).2.2.2.2.2 (by decide +kernel)
  exact ⟨pruned, thinned, by decide +kernel⟩

end Pjsip.Pjnath.Ice
