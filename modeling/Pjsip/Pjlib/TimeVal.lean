import Mathlib.Data.Prod.Lex

/-!
# Time values (`pj_time_val`)

The comparison macros of `pj/types.h` compare seconds first. That is a linear order
on all values, normalized or not.
-/

namespace Pjsip.Pjlib

structure PjTimeVal where
  sec : Int
  msec : Int
  deriving DecidableEq, Repr

/-- `PJ_MAXINT32`. -/
def PJ_MAXINT32 : Int := 0x7fffffff

namespace PjTimeVal

def eq (t1 t2 : PjTimeVal) : Prop := t1.sec = t2.sec ∧ t1.msec = t2.msec

def gt (t1 t2 : PjTimeVal) : Prop :=
  t1.sec > t2.sec ∨ (t1.sec = t2.sec ∧ t1.msec > t2.msec)

def gte (t1 t2 : PjTimeVal) : Prop := gt t1 t2 ∨ eq t1 t2

def lt (t1 t2 : PjTimeVal) : Prop := ¬ gte t1 t2

def lte (t1 t2 : PjTimeVal) : Prop := ¬ gt t1 t2

instance (t1 t2 : PjTimeVal) : Decidable (eq t1 t2) := inferInstanceAs (Decidable (_ ∧ _))

instance (t1 t2 : PjTimeVal) : Decidable (gt t1 t2) := inferInstanceAs (Decidable (_ ∨ _))

instance (t1 t2 : PjTimeVal) : Decidable (gte t1 t2) := inferInstanceAs (Decidable (_ ∨ _))

instance (t1 t2 : PjTimeVal) : Decidable (lt t1 t2) := inferInstanceAs (Decidable (¬ _))

instance (t1 t2 : PjTimeVal) : Decidable (lte t1 t2) := inferInstanceAs (Decidable (¬ _))

/-- The loop of `pj_time_val_normalize` that borrows whole seconds. -/
def borrow (t : PjTimeVal) : PjTimeVal :=
  let t' : PjTimeVal := ⟨t.sec - 1, t.msec + 1000⟩
  if t'.msec ≤ -1000 then borrow t' else t'
  termination_by (-t.msec).toNat
  decreasing_by
    rename_i again
    have : t.msec + 1000 ≤ -1000 := again
    show (-(t.msec + 1000)).toNat < (-t.msec).toNat
    omega

/-- `pj_time_val_normalize`. -/
def normalize (t : PjTimeVal) : PjTimeVal :=
  let t :=
    if t.msec ≥ 1000 then ⟨t.sec + t.msec.tdiv 1000, t.msec.tmod 1000⟩
    else if t.msec ≤ -1000 then borrow t
    else t
  if t.sec ≥ 1 ∧ t.msec < 0 then ⟨t.sec - 1, t.msec + 1000⟩
  else if t.sec < 0 ∧ t.msec > 0 then ⟨t.sec + 1, t.msec - 1000⟩
  else t

/-- `PJ_TIME_VAL_ADD`. -/
def add (t1 t2 : PjTimeVal) : PjTimeVal := normalize ⟨t1.sec + t2.sec, t1.msec + t2.msec⟩

/-- `PJ_TIME_VAL_SUB`. -/
def sub (t1 t2 : PjTimeVal) : PjTimeVal := normalize ⟨t1.sec - t2.sec, t1.msec - t2.msec⟩

/-! ## The order -/

def seconds (t : PjTimeVal) : Int ×ₗ Int := toLex (t.sec, t.msec)

theorem seconds_injective : Function.Injective seconds := by
  intro t1 t2 same
  have pair : (t1.sec, t1.msec) = (t2.sec, t2.msec) := same
  obtain ⟨sec, msec⟩ := t1
  cases pair
  rfl

instance : LinearOrder PjTimeVal := LinearOrder.lift' seconds seconds_injective

theorem gt_iff (t1 t2 : PjTimeVal) : gt t1 t2 ↔ t2 < t1 := by
  have lex : t2 < t1 ↔ t2.sec < t1.sec ∨ t2.sec = t1.sec ∧ t2.msec < t1.msec :=
    Prod.Lex.toLex_lt_toLex
  rw [lex]
  constructor
  · rintro (more | ⟨same, more⟩)
    · exact .inl more
    · exact .inr ⟨same.symm, more⟩
  · rintro (more | ⟨same, more⟩)
    · exact .inl more
    · exact .inr ⟨same.symm, more⟩

theorem eq_iff (t1 t2 : PjTimeVal) : eq t1 t2 ↔ t1 = t2 := by
  obtain ⟨sec, msec⟩ := t1
  obtain ⟨sec', msec'⟩ := t2
  simp [eq]

theorem gte_iff (t1 t2 : PjTimeVal) : gte t1 t2 ↔ t2 ≤ t1 := by
  rw [gte, gt_iff, eq_iff, le_iff_lt_or_eq, eq_comm (a := t1)]

theorem lt_iff (t1 t2 : PjTimeVal) : lt t1 t2 ↔ t1 < t2 := by
  rw [lt, gte_iff, not_le]

theorem lte_iff (t1 t2 : PjTimeVal) : lte t1 t2 ↔ t1 ≤ t2 := by
  rw [lte, gt_iff, not_lt]

end PjTimeVal

end Pjsip.Pjlib
