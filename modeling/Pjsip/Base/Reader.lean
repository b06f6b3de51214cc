import Pjsip.Base.Octets

/-!
# Readers of a buffer

A reader looks at octets of a buffer by their index. It comes to a value, or refuses with an error,
or is outside: an index was not below the length of the buffer. Two properties carry over to readers
put together: that a reader stays inside the first `n` octets, and that it comes to the same when
more octets stand behind the buffer.
-/

namespace Pjsip.Base

inductive Read (ε α : Type) where
  | value (a : α)
  | error (e : ε)
  | outside
  deriving DecidableEq

def Read.bind {ε α β : Type} (r : Read ε α) (next : α → Read ε β) : Read ε β :=
  match r with
  | .value a => next a
  | .error e => .error e
  | .outside => .outside

instance {ε : Type} : Monad (Read ε) where
  pure := .value
  bind := .bind

structure Reader (ε α : Type) where
  run : List UInt8 → Read ε α

namespace Reader

variable {ε α β : Type}

def fail (e : ε) : Reader ε α := ⟨fun _ => .error e⟩

instance : Monad (Reader ε) where
  pure a := ⟨fun _ => .value a⟩
  bind r next := ⟨fun buf => (r.run buf).bind fun a => (next a).run buf⟩

/-- The `n` octets from index `pos` on. -/
def octets (pos n : Nat) : Reader ε (Octets n) where
  run buf :=
    if fits : pos + n ≤ buf.length then
      .value ⟨(buf.drop pos).take n, by simp; omega⟩
    else .outside

/-- The octet at index `pos`. -/
def octet (pos : Nat) : Reader ε UInt8 := do
  let byte ← octets pos 1
  return byte.1.headD 0

def field16 (pos : Nat) : Reader ε UInt16 := do
  let bytes ← octets pos 2
  return value16 bytes.1

def field32 (pos : Nat) : Reader ε UInt32 := do
  let bytes ← octets pos 4
  return value32 bytes.1

/-- `n` 16-bit fields, one after the other from `pos` on. -/
def fields16 (pos : Nat) : (n : Nat) → Reader ε { fields : List UInt16 // fields.length = n }
  | 0 => return ⟨[], rfl⟩
  | n + 1 => do
      let field ← field16 pos
      let rest ← fields16 (pos + 2) n
      return ⟨field :: rest.1, by simp [rest.2]⟩

/-- A reader of the `len` octets from index `pos` on: whatever else there is, is outside. -/
def within (pos len : Nat) (r : Reader ε α) : Reader ε α :=
  ⟨fun buf => r.run ((buf.drop pos).take len)⟩

@[simp] theorem run_pure (a : α) (buf : List UInt8) :
    (pure a : Reader ε α).run buf = .value a := rfl

@[simp] theorem run_bind (r : Reader ε α) (next : α → Reader ε β) (buf : List UInt8) :
    (r >>= next).run buf = (r.run buf).bind fun a => (next a).run buf := rfl

@[simp] theorem run_fail (e : ε) (buf : List UInt8) :
    (fail e : Reader ε α).run buf = .error e := rfl

@[simp] theorem bind_value (a : α) (next : α → Read ε β) : (Read.value a).bind next = next a := rfl

@[simp] theorem bind_error (e : ε) (next : α → Read ε β) : (Read.error e).bind next = .error e := rfl

theorem read_bind_assoc {γ : Type} (r : Read ε α) (next : α → Read ε β) (last : β → Read ε γ) :
    (r.bind next).bind last = r.bind fun a => (next a).bind last := by
  cases r <;> rfl

variable {r : Reader ε α}

theorem run_return (f : α → β) {buf : List UInt8} {a : α}
    (read : r.run buf = .value a) : (r >>= fun a => return f a).run buf = .value (f a) := by
  rw [run_bind, read]
  rfl

theorem bind_eq_value {r : Read ε α} {next : α → Read ε β} {b : β} :
    r.bind next = .value b ↔ ∃ a, r = .value a ∧ next a = .value b := by
  cases r with
  | value a => simp
  | error e => simp
  | outside => simp [Read.bind]

theorem field16_value {pos : Nat} {buf : List UInt8} {v : UInt16} :
    (field16 pos : Reader ε UInt16).run buf = .value v
      ↔ pos + 2 ≤ buf.length ∧ value16 ((buf.drop pos).take 2) = v := by
  show Read.bind (if fits : pos + 2 ≤ buf.length then _ else _) _ = _ ↔ _
  split
  · rename_i fits
    simp [fits]
  · rename_i short
    simp [short, Read.bind]

theorem octets_value {pos n : Nat} {buf : List UInt8} {bytes : Octets n}
    (read : (octets pos n : Reader ε _).run buf = .value bytes) :
    pos + n ≤ buf.length ∧ bytes.1 = (buf.drop pos).take n := by
  change (if fits : _ then _ else _) = _ at read
  split at read
  · rename_i fits
    cases read
    exact ⟨fits, rfl⟩
  · nomatch read

theorem octets_inside {pos n : Nat} {buf : List UInt8} (fits : pos + n ≤ buf.length) :
    ∃ bytes : Octets n, (octets pos n : Reader ε _).run buf = .value bytes
      ∧ bytes.1 = (buf.drop pos).take n :=
  ⟨_, dif_pos fits, rfl⟩

theorem octet_inside {pos : Nat} {buf : List UInt8} (fits : pos + 1 ≤ buf.length) :
    ∃ v, (octet pos : Reader ε UInt8).run buf = .value v := by
  obtain ⟨bytes, read, -⟩ := octets_inside fits
  exact ⟨_, by rw [octet, run_bind, read]; rfl⟩

theorem field32_inside {pos : Nat} {buf : List UInt8} (fits : pos + 4 ≤ buf.length) :
    ∃ v, (field32 pos : Reader ε UInt32).run buf = .value v := by
  obtain ⟨bytes, read, -⟩ := octets_inside fits
  exact ⟨_, by rw [field32, run_bind, read]; rfl⟩

theorem field16_inside {pos : Nat} {buf : List UInt8} (fits : pos + 2 ≤ buf.length) :
    (field16 pos : Reader ε UInt16).run buf = .value (value16 ((buf.drop pos).take 2)) :=
  field16_value.2 ⟨fits, rfl⟩

variable {next : α → Reader ε β}

theorem bind_ne_outside {buf : List UInt8} :
    (r >>= next).run buf ≠ .outside
      ↔ r.run buf ≠ .outside ∧ ∀ a, r.run buf = .value a → (next a).run buf ≠ .outside := by
  rw [run_bind]
  cases r.run buf with
  | value a => simp
  | error e => simp
  | outside => simp [Read.bind]

theorem octet_value {pos : Nat} {buf : List UInt8} {byte : UInt8} :
    (octet pos : Reader ε UInt8).run buf = .value byte ↔ buf[pos]? = some byte := by
  show (if fits : pos + 1 ≤ buf.length then _ else _ : Read ε _).bind _ = _ ↔ _
  split
  · next fits =>
    have here : (buf.drop pos).take 1 = [buf[pos]] := by
      rw [List.drop_eq_getElem_cons (by omega), List.take_succ_cons, List.take_zero]
    simp [here, List.getElem?_eq_getElem (show pos < buf.length by omega)]
  · next short =>
    have beyond : buf[pos]? = none := List.getElem?_eq_none (by omega)
    simp [beyond, Read.bind]

theorem octet_ne_outside {pos : Nat} {buf : List UInt8} :
    (octet pos : Reader ε UInt8).run buf ≠ .outside ↔ pos < buf.length := by
  constructor
  · intro inside
    by_contra beyond
    refine inside ?_
    show (if fits : pos + 1 ≤ buf.length then _ else _ : Read ε _).bind _ = _
    rw [dif_neg (by omega)]
    rfl
  · intro fits
    obtain ⟨v, read⟩ : ∃ v, (octet pos : Reader ε UInt8).run buf = .value v := octet_inside fits
    rw [read]
    nofun

/-! ## Staying inside -/

/-- Whatever the first `n` octets are, nothing behind them is looked at. -/
def Inside (n : Nat) (r : Reader ε α) : Prop :=
  ∀ buf : List UInt8, n ≤ buf.length → r.run buf ≠ .outside

section Inside

variable {n : Nat}

theorem inside_pure (a : α) : Inside n (pure a : Reader ε α) := by
  intro buf long
  simp

theorem inside_fail (e : ε) : Inside n (fail e : Reader ε α) := by
  intro buf long
  simp

theorem inside_bind (first : Inside n r)
    (then_ : ∀ a, Inside n (next a)) : Inside n (r >>= next) := by
  intro buf long
  rw [run_bind]
  cases read : r.run buf with
  | value a => exact then_ a buf long
  | error e => nofun
  | outside => exact absurd read (first buf long)

theorem inside_ite {c : Prop} [Decidable c] {r r' : Reader ε α} (yes : c → Inside n r)
    (no : ¬ c → Inside n r') : Inside n (if c then r else r') :=
  iteInduction yes no

theorem inside_dite {c : Prop} [Decidable c] {r : c → Reader ε α} {r' : ¬ c → Reader ε α}
    (yes : ∀ h, Inside n (r h)) (no : ∀ h, Inside n (r' h)) :
    Inside n (if h : c then r h else r' h) := by
  split
  · exact yes _
  · exact no _

theorem inside_octets {pos k : Nat} (fits : pos + k ≤ n) :
    Inside n (octets pos k : Reader ε (Octets k)) := by
  intro buf long
  show (if fits : _ then _ else _) ≠ _
  rw [dif_pos (by omega)]
  nofun

theorem inside_octet {pos : Nat} (fits : pos + 1 ≤ n) : Inside n (octet pos : Reader ε UInt8) :=
  inside_bind (inside_octets fits) fun _ => inside_pure _

theorem inside_field16 {pos : Nat} (fits : pos + 2 ≤ n) :
    Inside n (field16 pos : Reader ε UInt16) :=
  inside_bind (inside_octets fits) fun _ => inside_pure _

theorem inside_field32 {pos : Nat} (fits : pos + 4 ≤ n) :
    Inside n (field32 pos : Reader ε UInt32) :=
  inside_bind (inside_octets fits) fun _ => inside_pure _

theorem inside_fields16 {pos k : Nat} (fits : pos + 2 * k ≤ n) :
    Inside n (fields16 pos k : Reader ε _) := by
  induction k generalizing pos with
  | zero => exact inside_pure _
  | succ k ih =>
    refine inside_bind (inside_field16 (by omega)) fun field => ?_
    exact inside_bind (ih (by omega)) fun _ => inside_pure _

end Inside

/-! ## Coming to a value -/

/-- Whatever the first `n` octets are, nothing behind them is looked at, and it comes to a
value with the property. -/
def Yields (n : Nat) (P : α → Prop) (r : Reader ε α) : Prop :=
  ∀ buf : List UInt8, n ≤ buf.length → ∃ a, r.run buf = .value a ∧ P a

section Yields

variable {n : Nat} {P : α → Prop} {Q : β → Prop}

theorem yields_pure {a : α} (holds : P a) : Yields n P (pure a : Reader ε α) := by
  intro buf long
  exact ⟨a, rfl, holds⟩

theorem yields_bind (first : Yields n P r)
    (then_ : ∀ a, P a → Yields n Q (next a)) : Yields n Q (r >>= next) := by
  intro buf long
  obtain ⟨a, read, holds⟩ := first buf long
  obtain ⟨b, readNext, holdsNext⟩ := then_ a holds buf long
  exact ⟨b, by rw [run_bind, read]; exact readNext, holdsNext⟩

theorem yields_ite {c : Prop} [Decidable c] {r r' : Reader ε α} (yes : c → Yields n P r)
    (no : ¬ c → Yields n P r') : Yields n P (if c then r else r') :=
  iteInduction yes no

theorem yields_octets {pos k : Nat} (fits : pos + k ≤ n) :
    Yields n (fun _ => True) (octets pos k : Reader ε (Octets k)) := by
  intro buf long
  obtain ⟨bytes, read, -⟩ := octets_inside (ε := ε) (show pos + k ≤ buf.length by omega)
  exact ⟨bytes, read, trivial⟩

theorem yields_octet {pos : Nat} (fits : pos + 1 ≤ n) :
    Yields n (fun _ => True) (octet pos : Reader ε UInt8) :=
  yields_bind (yields_octets fits) fun _ _ => yields_pure trivial

theorem yields_field16 {pos : Nat} (fits : pos + 2 ≤ n) :
    Yields n (fun _ => True) (field16 pos : Reader ε UInt16) :=
  yields_bind (yields_octets fits) fun _ _ => yields_pure trivial

theorem yields_field32 {pos : Nat} (fits : pos + 4 ≤ n) :
    Yields n (fun _ => True) (field32 pos : Reader ε UInt32) :=
  yields_bind (yields_octets fits) fun _ _ => yields_pure trivial

theorem yields_within {pos len : Nat} (own : Yields len P r)
    (fits : pos + len ≤ n) : Yields n P (within pos len r) := by
  intro buf long
  exact own _ (by rw [List.length_take, List.length_drop]; omega)

end Yields

/-! ## More octets behind the buffer -/

/-- A reader that did not look outside comes to the same when more follows. -/
def Stable (r : Reader ε α) : Prop :=
  ∀ buf more : List UInt8, r.run buf ≠ .outside → r.run (buf ++ more) = r.run buf

theorem stable_pure (a : α) : Stable (pure a : Reader ε α) := by
  intro buf more inside
  rfl

theorem stable_bind (first : Stable r)
    (then_ : ∀ a, Stable (next a)) : Stable (r >>= next) := by
  intro buf more inside
  rw [run_bind] at inside ⊢
  cases read : r.run buf with
  | value a =>
    rw [read] at inside
    rw [run_bind, first buf more (by simp [read]), read]
    exact then_ a buf more inside
  | error e =>
    rw [run_bind, first buf more (by simp [read]), read]
    rfl
  | outside =>
    rw [read] at inside
    exact absurd rfl inside

theorem stable_ite {c : Prop} [Decidable c] {r r' : Reader ε α} (yes : Stable r)
    (no : Stable r') : Stable (if c then r else r') :=
  iteInduction (fun _ => yes) fun _ => no

theorem stable_octets (pos k : Nat) : Stable (octets pos k : Reader ε (Octets k)) := by
  intro buf more inside
  by_cases fits : pos + k ≤ buf.length
  · show (if fits : _ then _ else _) = (if fits : _ then _ else _)
    rw [dif_pos fits, dif_pos (by simp; omega)]
    congr 2
    rw [List.drop_append_of_le_length (by omega), List.take_append_of_le_length (by simp; omega)]
  · exact absurd (dif_neg fits) inside

theorem stable_octet (pos : Nat) : Stable (octet pos : Reader ε UInt8) :=
  stable_bind (stable_octets pos 1) fun _ => stable_pure _

theorem stable_field16 (pos : Nat) : Stable (field16 pos : Reader ε UInt16) :=
  stable_bind (stable_octets pos 2) fun _ => stable_pure _

/-! ## Reading what was written -/

section Between

variable {buf : List UInt8} {pos : Nat}

theorem octets_between (before : List UInt8) {k : Nat} (bytes : Octets k) (after : List UInt8)
    (split : buf = before ++ (bytes.1 ++ after)) (index : before.length = pos) :
    (octets pos k : Reader ε _).run buf = .value bytes := by
  subst split index
  show (if fits : _ then _ else _) = _
  rw [dif_pos (by simp [bytes.2])]
  congr 2
  rw [List.drop_left, List.take_left' bytes.2]

theorem octet_between (before : List UInt8) (byte : UInt8) (after : List UInt8)
    (split : buf = before ++ byte :: after) (index : before.length = pos) :
    (octet pos : Reader ε _).run buf = .value byte := by
  rw [octet, run_bind, octets_between before (k := 1) ⟨[byte], rfl⟩ after split index]
  rfl

theorem field16_between (before : List UInt8) (value : UInt16) (after : List UInt8)
    (split : buf = before ++ (put16 value ++ after)) (index : before.length = pos) :
    (field16 pos : Reader ε _).run buf = .value value := by
  rw [field16, run_bind, octets_between before (k := 2) ⟨put16 value, rfl⟩ after split index]
  show Read.value (value16 (put16 value)) = _
  rw [value16_put16]

theorem field32_between (before : List UInt8) (value : UInt32) (after : List UInt8)
    (split : buf = before ++ (put32 value ++ after)) (index : before.length = pos) :
    (field32 pos : Reader ε _).run buf = .value value := by
  rw [field32, run_bind, octets_between before (k := 4) ⟨put32 value, rfl⟩ after split index]
  show Read.value (value32 (put32 value)) = _
  rw [value32_put32]

theorem fields16_between (before : List UInt8) (values : List UInt16) (after : List UInt8)
    (split : buf = before ++ (values.flatMap put16 ++ after)) (index : before.length = pos)
    {k : Nat} (count : values.length = k) :
    (fields16 pos k : Reader ε _).run buf = .value ⟨values, count⟩ := by
  subst count
  induction values generalizing before pos with
  | nil => rfl
  | cons value values ih =>
    rw [List.flatMap_cons, List.append_assoc] at split
    have first : (field16 pos : Reader ε UInt16).run buf = .value value :=
      field16_between before value _ split index
    have rest : (fields16 (pos + 2) values.length : Reader ε _).run buf = .value ⟨values, rfl⟩ :=
      ih (before ++ put16 value) (by rw [split, List.append_assoc])
        (by rw [List.length_append, index, put16_length])
    show (field16 pos >>= fun field => _).run _ = _
    rw [run_bind, first]
    show ((fields16 (pos + 2) values.length : Reader ε _).run _).bind _ = _
    rw [rest]
    rfl

end Between

end Reader

end Pjsip.Base
