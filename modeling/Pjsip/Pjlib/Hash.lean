import Pjsip.Base.ChainedTable
import Pjsip.Pjlib.Bytes

/-!
# Hash tables (`pj/hash.c`)

A table of chains of entries, indexed by the low bits of the hash. The hash of a key is
stored with it and may be handed in by the caller; 0 stands for one that is still to be
computed. An entry and its copy of the key live in the pool of whoever made the entry, also
when another value is stored in it later.
-/

namespace Pjsip.Pjlib

open Pjsip.Base

/-- `PJ_HASH_MULTIPLIER` -/
def hashMultiplier : UInt32 := 33

/-- `pj_hash_calc` -/
def pjHashCalc (hash : UInt32) : List UInt8 → UInt32
  | [] => hash
  | c :: rest => pjHashCalc (hash * hashMultiplier + c.toUInt32) rest

/-- `pj_hash_calc_tolower`, without its result string. -/
def pjHashCalcTolower (hval : UInt32) : List UInt8 → UInt32
  | [] => hval
  | c :: rest => pjHashCalcTolower (hval * hashMultiplier + (pjTolower c).toUInt32) rest

/-- The key of an entry, with its hash and the pool its memory is from. -/
structure HashKey where
  hash : UInt32
  bytes : List UInt8
  pool : Option Nat
  deriving DecidableEq, Repr

/-- The comparison of `find_entry`. -/
def sameKey (lower : Bool) (k k' : HashKey) : Bool :=
  k.hash = k'.hash ∧ k.bytes.length = k'.bytes.length
    ∧ (lower = true ∧ ansiStrnicmp k.bytes k'.bytes = 0 ∨ lower = false ∧ k.bytes = k'.bytes)

theorem sameKey_iff {lower : Bool} {k k' : HashKey} :
    sameKey lower k k' = true ↔ k.hash = k'.hash ∧ k.bytes.length = k'.bytes.length
      ∧ (if lower then visible k.bytes = visible k'.bytes else k.bytes = k'.bytes) := by
  cases lower with
  | false => simp [sameKey]
  | true =>
    simp only [sameKey, decide_eq_true_eq, true_and, if_true]
    refine and_congr_right fun _ => and_congr_right fun lengths => ?_
    rw [ansiStrnicmp_eq_zero lengths]
    simp

@[simp] theorem sameKey_refl (lower : Bool) (k : HashKey) : sameKey lower k k = true := by
  simp [sameKey_iff]

theorem sameKey_symm {lower : Bool} {k k' : HashKey} (same : sameKey lower k k' = true) :
    sameKey lower k' k = true := by
  obtain ⟨hash, length, bytes⟩ := sameKey_iff.1 same
  refine sameKey_iff.2 ⟨hash.symm, length.symm, ?_⟩
  cases lower <;> exact bytes.symm

theorem sameKey_trans {lower : Bool} {k k' k'' : HashKey} (first : sameKey lower k k' = true)
    (second : sameKey lower k' k'' = true) : sameKey lower k k'' = true := by
  obtain ⟨hash, length, bytes⟩ := sameKey_iff.1 first
  obtain ⟨hash', length', bytes'⟩ := sameKey_iff.1 second
  refine sameKey_iff.2 ⟨hash.trans hash', length.trans length', ?_⟩
  cases lower <;> exact bytes.trans bytes'

/-- How the tables of `rows + 1` chains compare their keys. -/
def keyHashing (rows : Nat) (lower : Bool) : Hashing HashKey where
  same := sameKey lower
  row k := k.hash.toNat &&& rows
  refl := sameKey_refl lower
  symm := sameKey_symm
  trans := sameKey_trans
  row_same := by
    intro k k' same
    rw [(sameKey_iff.1 same).1]

/-- `pj_hash_table_t`, with keys compared without case; `rows` is one less than the number
of its chains. -/
abbrev PjHashTable (rows : Nat) (υ : Type) := ChainedTable (keyHashing rows true) υ

/-- The loop of `pj_hash_create`; doubling `size` times is enough. -/
def growTable (size tableSize : Nat) : Nat → Nat
  | 0 => tableSize
  | fuel + 1 =>
    let tableSize := tableSize * 2
    if tableSize < size then growTable size tableSize fuel else tableSize

/-- The `rows` of a table created for `size` entries. -/
def pjHashRows (size : Nat) : Nat := growTable size 8 (size + 1) - 1

/-- The key that `find_entry` looks for: a hash of 0 is computed first. -/
def findKey (key : List UInt8) (hval : UInt32) (pool : Option Nat) : HashKey :=
  ⟨if hval ≠ 0 then hval else pjHashCalcTolower 0 key, key, pool⟩

section Operations

variable {rows : Nat} {υ : Type}

/-- `pj_hash_get_lower` -/
def pjHashGetLower (ht : PjHashTable rows υ) (key : List UInt8) (hval : UInt32) : Option υ :=
  ht.get (findKey key hval none)

/-- `pj_hash_set_lower`: the entry of the key is overwritten, or one is made in `pool`; the
value `NULL` deletes it. -/
def pjHashSetLower (pool : Option Nat) (ht : PjHashTable rows υ) (key : List UInt8)
    (hval : UInt32) (value : Option υ) : PjHashTable rows υ :=
  match value with
  | some value => ht.put (findKey key hval pool) value
  | none => ht.erase (findKey key hval pool)

/-- `pj_hash_set_np_lower` with a value: a new entry is in the caller's buffer, and its key
stays in the memory of `owner`. -/
def pjHashSetNpLower (owner : Nat) (ht : PjHashTable rows υ) (key : List UInt8) (hval : UInt32)
    (value : υ) : PjHashTable rows υ :=
  ht.put (findKey key hval (some owner)) value

end Operations

variable {a b : List UInt8}

theorem pjHashCalcTolower_lower (hval : UInt32) (same : a.map pjTolower = b.map pjTolower) :
    pjHashCalcTolower hval a = pjHashCalcTolower hval b := by
  induction a generalizing b hval with
  | nil =>
    rw [List.map_nil, eq_comm, List.map_eq_nil_iff] at same
    rw [same]
  | cons c a ih =>
    cases b with
    | nil => cases same
    | cons d b =>
      obtain ⟨first, rest⟩ := List.cons.inj same
      rw [pjHashCalcTolower, pjHashCalcTolower, first, ih _ rest]

@[simp] theorem findKey_calc (key : List UInt8) (pool : Option Nat) :
    findKey key (pjHashCalcTolower 0 key) pool = ⟨pjHashCalcTolower 0 key, key, pool⟩ := by
  rw [findKey, ite_eq_left_iff.2 fun _ => rfl]

@[simp] theorem findKey_zero (key : List UInt8) (pool : Option Nat) :
    findKey key 0 pool = ⟨pjHashCalcTolower 0 key, key, pool⟩ := rfl

theorem sameKey_lower (same : a.map pjTolower = b.map pjTolower) (pool pool' : Option Nat) :
    sameKey true ⟨pjHashCalcTolower 0 a, a, pool⟩ ⟨pjHashCalcTolower 0 b, b, pool'⟩ = true := by
  refine sameKey_iff.2 ⟨pjHashCalcTolower_lower 0 same, ?_, visible_lower same⟩
  simpa using congrArg List.length same

theorem sameKey_text {pool pool' : Option Nat} (token : 0 ∉ a) :
    sameKey true ⟨pjHashCalcTolower 0 a, a, pool⟩ ⟨pjHashCalcTolower 0 b, b, pool'⟩ = true
      ↔ SameText a b := by
  constructor
  · intro same
    obtain ⟨-, lengths, seen⟩ := sameKey_iff.1 same
    exact sameText_of_visible token lengths seen
  · intro same
    exact sameKey_lower same pool pool'

end Pjsip.Pjlib
