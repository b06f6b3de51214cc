import Mathlib.Data.List.Basic

/-!
# Counting entries by their places

How many entries of a list have a property that may depend on the place. What one change
at one place does to the number is told once here.
-/

namespace Pjsip.Base

variable {α β : Type*}

/-- The number of entries with `p`, which is told the place of each. -/
def tally (p : Nat → α → Bool) : List α → Nat
  | [] => 0
  | a :: l => (p 0 a).toNat + tally (fun i => p (i + 1)) l

variable {l : List α} {p : Nat → α → Bool}

theorem tally_congr {q : Nat → β → Bool} :
    ∀ {l' : List β}, l.length = l'.length →
      (∀ i a b, l[i]? = some a → l'[i]? = some b → p i a = q i b) → tally p l = tally q l' := by
  induction l generalizing p q with
  | nil =>
    intro l' lengths same
    rw [List.eq_nil_of_length_eq_zero lengths.symm]
    rfl
  | cons a l ih =>
    intro l' lengths same
    cases l' with
    | nil => cases lengths
    | cons b l' =>
      rw [tally, tally, same 0 a b rfl rfl]
      congr 1
      exact ih (Nat.succ.inj lengths) fun i a b at_ at' => same (i + 1) a b at_ at'

theorem tally_change {p q : Nat → α → Bool} :
    ∀ {l' : List α} {k : Nat} {a b : α}, l.length = l'.length → l[k]? = some a → l'[k]? = some b →
      (∀ i c d, i ≠ k → l[i]? = some c → l'[i]? = some d → p i c = q i d) →
      tally p l + (q k b).toNat = tally q l' + (p k a).toNat := by
  induction l generalizing p q with
  | nil =>
    intro l' k a b lengths at_ at' same
    nomatch at_
  | cons c l ih =>
    intro l' k a b lengths at_ at' same
    cases l' with
    | nil => cases lengths
    | cons d l' =>
      have lengths' : l.length = l'.length := Nat.succ.inj lengths
      cases k with
      | zero =>
        cases at_
        cases at'
        have rest : tally (fun i => p (i + 1)) l = tally (fun i => q (i + 1)) l' :=
          tally_congr lengths' fun i c d here here' =>
            same (i + 1) c d (Nat.succ_ne_zero i) here here'
        rw [tally, tally, rest]
        omega
      | succ k =>
        have rest := ih (p := fun i => p (i + 1)) (q := fun i => q (i + 1)) lengths' at_ at'
          fun i c d apart here here' => same (i + 1) c d (by omega) here here'
        have first := same 0 c d (by omega) rfl rfl
        rw [tally, tally, first]
        omega

theorem tally_eq_zero :
    tally p l = 0 ↔ ∀ i a, l[i]? = some a → p i a = false := by
  induction l generalizing p with
  | nil => exact iff_of_true rfl nofun
  | cons a l ih =>
    rw [tally, Nat.add_eq_zero_iff, ih]
    constructor
    · rintro ⟨first, rest⟩ i b at_
      cases i with
      | zero =>
        cases at_
        simpa using first
      | succ i => exact rest i b at_
    · intro zeros
      exact ⟨by rw [zeros 0 a rfl]; rfl, fun i b at_ => zeros (i + 1) b at_⟩

theorem tally_pos {k : Nat} {a : α} (at_ : l[k]? = some a)
    (counted : p k a = true) : 0 < tally p l := by
  refine Nat.pos_of_ne_zero fun zero => ?_
  rw [tally_eq_zero.1 zero k a at_] at counted
  cases counted

/-- Each entry that `p` counts is counted by one of two others. -/
theorem countP_split {p q r : α → Bool}
    (split : ∀ a, (q a).toNat + (r a).toNat = (p a).toNat) :
    l.countP q + l.countP r = l.countP p := by
  induction l with
  | nil => rfl
  | cons a l ih =>
    have here := split a
    simp only [List.countP_cons]
    cases hq : q a <;> cases hr : r a <;> cases hp : p a <;>
      simp only [hq, hr, hp, Bool.toNat_true, Bool.toNat_false] at here ⊢ <;>
      simp <;> omega

theorem tally_countP {p : α → Bool} : tally (fun _ => p) l = l.countP p := by
  induction l with
  | nil => rfl
  | cons a l ih =>
    rw [tally, ih, List.countP_cons]
    cases p a with
    | false => simp
    | true => simp [Nat.add_comm]

end Pjsip.Base
