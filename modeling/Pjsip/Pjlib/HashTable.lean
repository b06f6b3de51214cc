import Pjsip.Pjlib.Hash
import Mathlib.Data.Set.Card
import Mathlib.Data.UInt
import Mathlib.Tactic.Ring

/-!
# The functions of a hash table (`pj/hash.c`)

A table as it is in memory: an array of chains and the number of entries. A function looks for
its key with a hash that the caller hands in, or computes the hash itself if that is 0, and
relinks the chain at the place that it has found.
-/

namespace Pjsip.Pjlib

open Pjsip.Base

/-- `pj_hash_table_t`: the array has `rows + 1` chains. -/
structure HashTable (υ : Type) where
  rows : Nat
  table : List (List (Entry HashKey υ))
  count : UInt32
  full : table.length = rows + 1

/-- `do table_size <<= 1; while (table_size < size)` in `pj_hash_create`, for so many rounds at
most. -/
def growTableSize (size : UInt32) : Nat → UInt32 → Option UInt32
  | 0, _ => none
  | rounds + 1, tableSize =>
    let tableSize := tableSize <<< 1
    if tableSize < size then growTableSize size rounds tableSize else some tableSize

/-- `pj_hash_create`, if its loop ends in so many rounds. -/
def pjHashCreate (υ : Type) (rounds : Nat) (size : UInt32) : Option (HashTable υ) :=
  (growTableSize size rounds 8).map fun tableSize =>
    let rows := (tableSize - 1).toNat
    { rows, table := List.replicate (rows + 1) [], count := 0, full := List.length_replicate }

/-- The hash of a key, which `find_entry` computes in a loop of its own. -/
def findHash (lower : Bool) (hash : UInt32) : List UInt8 → UInt32
  | [] => hash
  | c :: rest =>
    findHash lower (if lower then hash * hashMultiplier + (pjTolower c).toUInt32
      else hash * hashMultiplier + c.toUInt32)
      rest

/-- The key that `find_entry` looks for. -/
def searchKey (lower : Bool) (pool : Option Nat) (key : List UInt8) (hval : UInt32) : HashKey :=
  ⟨if hval ≠ 0 then hval else findHash lower 0 key, key, pool⟩

namespace HashTable

variable {υ : Type}

def chain (ht : HashTable υ) (index : Nat) : List (Entry HashKey υ) := ht.table.getD index []

def setChain (ht : HashTable υ) (index : Nat) (chain : List (Entry HashKey υ)) : HashTable υ :=
  { ht with table := ht.table.set index chain, full := by simpa using ht.full }

/-- The chain that `find_entry` walks along. -/
def rowOf (ht : HashTable υ) (key : HashKey) : Nat := key.hash.toNat &&& ht.rows

/-- Where the walk of `find_entry` stops: at the entry of the key or at the end of its chain. -/
def findEntry (lower : Bool) (ht : HashTable υ) (key : HashKey) : Nat :=
  Chain.find (sameKey lower) key (ht.chain (ht.rowOf key))

/-- `pj_hash_get` and `pj_hash_get_lower` -/
def pjHashGet (lower : Bool) (ht : HashTable υ) (key : List UInt8) (hval : UInt32) : Option υ :=
  let key := searchKey lower none key hval
  ((ht.chain (ht.rowOf key))[findEntry lower ht key]?).map (·.value)

/-- What `hash_set` does at the place that was found in a chain, and with the count. -/
def relink (chain : List (Entry HashKey υ)) (place : Nat) (key : HashKey) (value : Option υ)
    (count : UInt32) : List (Entry HashKey υ) × UInt32 :=
  match chain[place]?, value with
  | some _, none => (chain.eraseIdx place, count - 1)
  | some e, some value => (chain.set place { e with value }, count)
  | none, some value => (chain ++ [⟨key, value⟩], count + 1)
  | none, none => (chain, count)

/-- `hash_set`; the entry is made in `pool`, or in the caller's buffer. -/
def hashSet (lower : Bool) (pool : Option Nat) (ht : HashTable υ) (key : List UInt8)
    (hval : UInt32) (value : Option υ) : HashTable υ :=
  let key := searchKey lower pool key hval
  let linked := relink (ht.chain (ht.rowOf key)) (findEntry lower ht key) key value ht.count
  { ht.setChain (ht.rowOf key) linked.1 with count := linked.2 }

/-- `pj_hash_count` -/
def pjHashCount (ht : HashTable υ) : UInt32 := ht.count

end HashTable

/-- `pj_hash_iterator_t`: an entry, and the entries behind it in its chain. -/
structure HashIterator (υ : Type) where
  index : Nat
  entry : Entry HashKey υ
  next : List (Entry HashKey υ)

namespace HashTable

variable {υ : Type}

/-- The loop of `pj_hash_first` and `pj_hash_next`. -/
def scanRows (ht : HashTable υ) (index : Nat) : Option (HashIterator υ) :=
  if index ≤ ht.rows then
    match ht.chain index with
    | [] => scanRows ht (index + 1)
    | entry :: next => some ⟨index, entry, next⟩
  else none
termination_by ht.rows + 1 - index

/-- `pj_hash_first` -/
def pjHashFirst (ht : HashTable υ) : Option (HashIterator υ) := ht.scanRows 0

/-- `pj_hash_next` -/
def pjHashNext (ht : HashTable υ) (it : HashIterator υ) : Option (HashIterator υ) :=
  match it.next with
  | entry :: next => some ⟨it.index, entry, next⟩
  | [] => ht.scanRows (it.index + 1)

/-- An iteration from here comes past these entries and stops. -/
inductive Visits (ht : HashTable υ) : Option (HashIterator υ) → List (Entry HashKey υ) → Prop
  | done : Visits ht none []
  | visit {it : HashIterator υ} {entries : List (Entry HashKey υ)} :
      Visits ht (ht.pjHashNext it) entries → Visits ht (some it) (it.entry :: entries)

/-! ## Walking through a table -/

def entries (ht : HashTable υ) : List (Entry HashKey υ) := ht.table.flatten

theorem drop_rows (ht : HashTable υ) {index : Nat} (inside : index ≤ ht.rows) :
    ht.table.drop index = ht.chain index :: ht.table.drop (index + 1) := by
  have short : index < ht.table.length := by
    have := ht.full
    omega
  rw [List.drop_eq_getElem_cons short, chain, List.getD_eq_getElem?_getD,
    List.getElem?_eq_getElem short, Option.getD_some]

theorem visits_chain {ht : HashTable υ} {index : Nat}
    (later : Visits ht (ht.scanRows (index + 1)) (ht.table.drop (index + 1)).flatten) :
    ∀ (next : List (Entry HashKey υ)) (entry : Entry HashKey υ),
      Visits ht (some ⟨index, entry, next⟩)
        (entry :: next ++ (ht.table.drop (index + 1)).flatten) := by
  intro next
  induction next with
  | nil => exact fun entry => .visit later
  | cons entry' next ih => exact fun entry => .visit (ih entry')

theorem visits_rows (ht : HashTable υ) (index : Nat) :
    Visits ht (ht.scanRows index) (ht.table.drop index).flatten := by
  rw [scanRows]
  split
  · next inside =>
    have later := ht.visits_rows (index + 1)
    rw [ht.drop_rows inside, List.flatten_cons]
    cases found : ht.chain index with
    | nil => exact later
    | cons entry next => exact visits_chain later next entry
  · next outside =>
    have past : ht.table.length ≤ index := by
      have := ht.full
      omega
    rw [List.drop_eq_nil_of_le past]
    exact .done
termination_by ht.rows + 1 - index

theorem visits_first (ht : HashTable υ) : Visits ht ht.pjHashFirst ht.entries :=
  ht.visits_rows 0

end HashTable

end Pjsip.Pjlib

/-!
# A hash table is a finite map

Whatever calls have been made, a table holds for each key the value that was set last, if the
callers hand in no hash or the one of the key. Keys may be compared without case, as long as
there is no NUL in them. Such a table can be created if it is not too large.
-/

namespace Pjsip.Pjlib

open Pjsip.Base

/-- The hash that a caller may hand in: by `pj_hash_calc` or `pj_hash_calc_tolower`. -/
def hashOf (lower : Bool) (key : List UInt8) : UInt32 :=
  if lower then pjHashCalcTolower 0 key else pjHashCalc 0 key

/-- What the tables of a kind tell a key by. -/
def folded (lower : Bool) (key : List UInt8) : List UInt8 :=
  if lower then key.map pjTolower else key

/-- What a caller may hand in. -/
structure HashArgs (lower : Bool) (key : List UInt8) (hval : UInt32) : Prop where
  /-- The length is an `unsigned`. -/
  fits : key.length < 2 ^ 32
  hash : hval = 0 ∨ hval = hashOf lower key
  token : lower = true → 0 ∉ key

/-- A call of `pj_hash_set` or `pj_hash_set_np`, or of their variants. -/
structure SetCall (lower : Bool) (υ : Type) where
  pool : Option Nat
  key : List UInt8
  hval : UInt32
  value : Option υ
  args : HashArgs lower key hval

section Meaning

variable {lower : Bool} {υ : Type}

/-- The value that the calls have left for a key. -/
def stored (calls : List (SetCall lower υ)) (key : List UInt8) : Option υ :=
  calls.foldl
    (fun value call => if folded lower call.key = folded lower key then call.value else value) none

/-- The keys that have a value. -/
def live (calls : List (SetCall lower υ)) : Set (List UInt8) :=
  { c | ∃ key, folded lower key = c ∧ (stored calls key).isSome = true }

/-- The calls are made one after the other. -/
def afterCalls (calls : List (SetCall lower υ)) (ht : HashTable υ) : HashTable υ :=
  calls.foldl (fun ht call => ht.hashSet lower call.pool call.key call.hval call.value) ht

/-- A table is the finite map that the calls have made. -/
structure IsMap (calls : List (SetCall lower υ)) (ht : HashTable υ) : Prop where
  get : ∀ key hval, HashArgs lower key hval → ht.pjHashGet lower key hval = stored calls key
  count : ht.pjHashCount = UInt32.ofNat (live calls).ncard
  /-- An iteration comes past each key once, and stops. -/
  visits : ∃ entries, ht.Visits ht.pjHashFirst entries
    ∧ (entries.map fun e => folded lower e.key.bytes).Nodup
    ∧ (∀ c, (c ∈ entries.map fun e => folded lower e.key.bytes) ↔ c ∈ live calls)
    ∧ ∀ e ∈ entries, stored calls e.key.bytes = some e.value

/-- A table is created for so many entries, and is a finite map ever after. -/
def CreatesMap (υ : Type) (size : UInt32) : Prop :=
  ∃ rounds ht, pjHashCreate υ rounds size = some ht
    ∧ ∀ (lower : Bool) (calls : List (SetCall lower υ)), IsMap calls (afterCalls calls ht)

theorem stored_snoc (calls : List (SetCall lower υ)) (call : SetCall lower υ) (key : List UInt8) :
    stored (calls ++ [call]) key =
      if folded lower call.key = folded lower key then call.value else stored calls key := by
  rw [stored, List.foldl_append]
  rfl

end Meaning

/-! ## Keys -/

theorem findHash_eq (lower : Bool) (hash : UInt32) (key : List UInt8) : findHash lower hash key =
      if lower then pjHashCalcTolower hash key else pjHashCalc hash key := by
  induction key generalizing hash with
  | nil => cases lower <;> rfl
  | cons c rest ih =>
    rw [findHash, ih]
    cases lower <;> rfl

/-- The key of an entry, with its proper hash. -/
def properKey (lower : Bool) (pool : Option Nat) (key : List UInt8) : HashKey :=
  ⟨hashOf lower key, key, pool⟩

variable {key : List UInt8}

theorem searchKey_eq {lower : Bool} {hval : UInt32} (pool : Option Nat)
    (args : HashArgs lower key hval) : searchKey lower pool key hval = properKey lower pool key := by
  have computed : findHash lower 0 key = hashOf lower key := findHash_eq lower 0 key
  rw [searchKey, properKey, computed]
  rcases args.hash with zero | given
  · rw [if_neg (not_not.2 zero)]
  · rw [given, ite_self]

/-- Keys without a NUL, where that matters. -/
def Token (lower : Bool) (key : List UInt8) : Prop := lower = true → 0 ∉ key

theorem sameKey_proper {lower : Bool} (token : Token lower key)
    (key' : List UInt8) (pool pool' : Option Nat) :
    sameKey lower (properKey lower pool key) (properKey lower pool' key') = true
      ↔ folded lower key = folded lower key' := by
  cases lower with
  | true => exact sameKey_text (token rfl)
  | false =>
    rw [sameKey_iff]
    constructor
    · exact fun same => same.2.2
    · intro same
      have same : key = key' := same
      exact ⟨congrArg (pjHashCalc 0) same, congrArg List.length same, same⟩

theorem Token.congr {lower : Bool} {key' : List UInt8} (token : Token lower key)
    (same : folded lower key = folded lower key') : Token lower key' := by
  rintro rfl zero
  have mem : (0 : UInt8) ∈ key.map pjTolower := by
    have same : key.map pjTolower = key'.map pjTolower := same
    rw [same]
    exact List.mem_map.2 ⟨0, zero, rfl⟩
  obtain ⟨c, there, lowered⟩ := List.mem_map.1 mem
  rw [pjTolower_eq_zero.1 lowered] at there
  exact token rfl there

theorem stored_token {lower : Bool} {υ : Type} (calls : List (SetCall lower υ))
    (isStored : (stored calls key).isSome = true) : Token lower key := by
  induction calls using List.reverseRecOn with
  | nil => cases isStored
  | append_singleton calls call ih =>
    rw [stored_snoc] at isStored
    split at isStored
    · next same => exact Token.congr call.args.token same
    · exact ih isStored

/-! ## Tables -/

section Tables

variable {lower : Bool} {υ : Type} {rows : Nat}

/-- A table in memory, and the chains that it stands for. -/
structure Agrees (calls : List (SetCall lower υ)) (ht : HashTable υ)
    (t : ChainedTable (keyHashing rows lower) υ) : Prop where
  size : ht.rows = rows
  chains : ∀ i ≤ rows, ht.chain i = t.rows i
  proper : ∀ e, t.Holds e → e.key = properKey lower e.key.pool e.key.bytes ∧ Token lower e.key.bytes
  holds : ∀ key, Token lower key → t.get (properKey lower none key) = stored calls key
  count : ht.count = UInt32.ofNat ht.entries.length

variable {calls : List (SetCall lower υ)} {ht : HashTable υ}
  {t : ChainedTable (keyHashing rows lower) υ}

theorem length_flatten_set {α : Type} {chains : List (List α)} {i : Nat} (inside : i < chains.length)
    (chain : List α) :
    (chains.set i chain).flatten.length + (chains.getD i []).length
      = chains.flatten.length + chain.length := by
  induction chains generalizing i with
  | nil => cases inside
  | cons first chains ih =>
    cases i with
    | zero =>
      simp only [List.set_cons_zero, List.flatten_cons, List.length_append, List.getD_cons_zero]
      omega
    | succ i =>
      have rest := ih (Nat.lt_of_succ_lt_succ inside)
      simp only [List.set_cons_succ, List.flatten_cons, List.length_append, List.getD_cons_succ]
      omega

theorem chain_setChain {i j : Nat} (inside : i ≤ ht.rows) (chain : List (Entry HashKey υ)) :
    (ht.setChain i chain).chain j = if j = i then chain else ht.chain j := by
  have short : i < ht.table.length := by
    have := ht.full
    omega
  unfold HashTable.chain HashTable.setChain
  rw [List.getD_eq_getElem?_getD, List.getD_eq_getElem?_getD, List.getElem?_set]
  by_cases same : j = i
  · rw [if_pos same.symm, if_pos same, ← same, if_pos (same ▸ short), Option.getD_some]
  · rw [if_neg (Ne.symm same), if_neg same]

theorem entries_setChain {i : Nat} (inside : i ≤ ht.rows) (chain : List (Entry HashKey υ)) :
    (ht.setChain i chain).entries.length + (ht.chain i).length
      = ht.entries.length + chain.length := by
  refine length_flatten_set ?_ chain
  have := ht.full
  omega

theorem Agrees.getElem (agrees : Agrees calls ht t) {i : Nat} (inside : i < ht.table.length) :
    ht.table[i] = t.rows i := by
  have small : i ≤ rows := by
    have := ht.full
    have := agrees.size
    omega
  rw [← agrees.chains i small, HashTable.chain, List.getD_eq_getElem?_getD,
    List.getElem?_eq_getElem inside, Option.getD_some]

theorem Agrees.mem_entries (agrees : Agrees calls ht t) (e : Entry HashKey υ) :
    e ∈ ht.entries ↔ t.Holds e := by
  constructor
  · intro mem
    obtain ⟨chain, there, mem⟩ := List.mem_flatten.1 mem
    obtain ⟨i, inside, rfl⟩ := List.getElem_of_mem there
    exact ⟨i, agrees.getElem inside ▸ mem⟩
  · rintro ⟨i, mem⟩
    have small : i ≤ rows := by
      rw [← t.placed i e mem]
      exact Nat.and_le_right
    have inside : i < ht.table.length := by
      have := ht.full
      have := agrees.size
      omega
    exact List.mem_flatten.2 ⟨_, List.getElem_mem inside, agrees.getElem inside ▸ mem⟩

theorem rowOf_eq (agrees : Agrees calls ht t) (k : HashKey) :
    ht.rowOf k = (keyHashing rows lower).row k := by
  rw [HashTable.rowOf, agrees.size]
  rfl

theorem row_le (k : HashKey) : (keyHashing rows lower).row k ≤ rows := Nat.and_le_right

/-- A value is stored under a key, or taken out. -/
def assign (t : ChainedTable (keyHashing rows lower) υ) (k : HashKey) :
    Option υ → ChainedTable (keyHashing rows lower) υ
  | some value => t.put k value
  | none => t.erase k

theorem assign_rows (k : HashKey) (value : Option υ) :
    (assign t k value).rows = Function.update t.rows ((keyHashing rows lower).row k)
      (match value with
        | some value => Chain.put (sameKey lower) k value (t.rows ((keyHashing rows lower).row k))
        | none => Chain.erase (sameKey lower) k (t.rows ((keyHashing rows lower).row k))) := by
  cases value <;> rfl

theorem relink_eq (lower : Bool) (k : HashKey) (value : Option υ) (chain : List (Entry HashKey υ))
    (count : UInt32) :
    let linked := HashTable.relink chain (Chain.find (sameKey lower) k chain) k value count
    (linked.1 = match value with
      | some value => Chain.put (sameKey lower) k value chain
      | none => Chain.erase (sameKey lower) k chain)
      ∧ linked.2 + UInt32.ofNat chain.length = count + UInt32.ofNat linked.1.length := by
  cases found : chain[Chain.find (sameKey lower) k chain]? with
  | some e =>
    have inside := (List.getElem?_eq_some_iff.1 found).1
    cases value with
    | some value =>
      simp only [HashTable.relink, found, Chain.put_eq_find]
      exact ⟨trivial, congrArg (count + UInt32.ofNat ·) List.length_set.symm⟩
    | none =>
      simp only [HashTable.relink, found, Chain.erase_eq_find]
      refine ⟨trivial, ?_⟩
      have shorter : chain.length = (chain.eraseIdx
          (Chain.find (sameKey lower) k chain)).length + 1 := by
        rw [List.length_eraseIdx_of_lt inside]
        omega
      rw [shorter, UInt32.ofNat_add]
      show count - 1 + (_ + 1) = count + _
      rw [UInt32.add_comm _ 1, ← UInt32.add_assoc, UInt32.sub_add_cancel]
  | none =>
    have outside := List.getElem?_eq_none_iff.1 found
    cases value with
    | some value =>
      simp only [HashTable.relink, found, Chain.put_eq_find]
      refine ⟨trivial, ?_⟩
      rw [List.length_append, UInt32.ofNat_add]
      show count + 1 + _ = count + (_ + 1)
      rw [UInt32.add_assoc, UInt32.add_comm 1]
    | none =>
      simp only [HashTable.relink, found, Chain.erase_eq_find]
      exact ⟨(List.eraseIdx_of_length_le outside).symm, trivial⟩

theorem Agrees.step (agrees : Agrees calls ht t) (call : SetCall lower υ) :
    Agrees (calls ++ [call]) (ht.hashSet lower call.pool call.key call.hval call.value)
      (assign t (properKey lower call.pool call.key) call.value) := by
  have token : Token lower call.key := call.args.token
  unfold HashTable.hashSet
  rw [searchKey_eq call.pool call.args]
  dsimp only
  generalize isKey : properKey lower call.pool call.key = k
  have row : ht.rowOf k = (keyHashing rows lower).row k := rowOf_eq agrees k
  have inside : ht.rowOf k ≤ ht.rows := by
    rw [agrees.size, row]
    exact row_le k
  obtain ⟨chain, counts⟩ :=
    relink_eq lower k call.value (ht.chain (ht.rowOf k)) ht.count
  rw [HashTable.findEntry]
  generalize HashTable.relink _ _ _ _ _ = linked at chain counts ⊢
  rw [agrees.chains _ (agrees.size ▸ inside), row] at chain
  refine ⟨agrees.size, fun i small => ?_, fun e held => ?_, fun key token' => ?_, ?_⟩
  · show (ht.setChain (ht.rowOf k) linked.1).chain i = _
    rw [chain_setChain inside, chain, row, assign_rows]
    split
    · next same => rw [same, Function.update_self]
    · next other => rw [agrees.chains i small, Function.update_of_ne other]
  · cases value : call.value with
    | some value =>
      rw [value] at held
      rcases held.of_put with rfl | ⟨e', held', -, rfl⟩ | held
      · exact isKey ▸ ⟨rfl, token⟩
      · exact agrees.proper e' held'
      · exact agrees.proper e held
    | none =>
      rw [value] at held
      exact agrees.proper e held.of_erase.1
  · have same := sameKey_proper token key call.pool none
    rw [stored_snoc, ← agrees.holds key token']
    split
    · next folds =>
      have eq : (keyHashing rows lower).same k (properKey lower none key) = true :=
        isKey ▸ same.2 folds
      cases call.value with
      | some value => exact ChainedTable.get_put_same value eq
      | none => exact ChainedTable.get_erase_same eq
    · next folds =>
      have other : (keyHashing rows lower).same k (properKey lower none key) = false :=
        Bool.eq_false_iff.2 (isKey ▸ fun eq => folds (same.1 eq))
      cases call.value with
      | some value => exact ChainedTable.get_put_other value other
      | none => exact ChainedTable.get_erase_other other
  · have lengths := congrArg UInt32.ofNat (entries_setChain inside linked.1)
    rw [UInt32.ofNat_add, UInt32.ofNat_add] at lengths
    show linked.2 = UInt32.ofNat (ht.setChain (ht.rowOf k) linked.1).entries.length
    rw [agrees.count, ← lengths] at counts
    exact (UInt32.add_left_inj _).1 counts

theorem Agrees.run (agrees : Agrees calls ht t) (more : List (SetCall lower υ)) :
    ∃ t', Agrees (calls ++ more) (afterCalls more ht) (t' : ChainedTable (keyHashing rows lower) υ) := by
  induction more generalizing calls ht t with
  | nil => exact ⟨t, by rwa [List.append_nil]⟩
  | cons call more ih =>
    obtain ⟨t', agrees'⟩ := ih (agrees.step call)
    exact ⟨t', by rwa [List.append_assoc] at agrees'⟩

theorem Agrees.nodup (agrees : Agrees calls ht t) :
    (ht.entries.map fun e => folded lower e.key.bytes).Nodup := by
  have apart : ht.entries.Pairwise fun e e' => sameKey lower e.key e'.key = false := by
    refine List.pairwise_flatten.2 ⟨fun chain there => ?_, List.pairwise_iff_getElem.2 ?_⟩
    · obtain ⟨i, inside, rfl⟩ := List.getElem_of_mem there
      exact agrees.getElem inside ▸ t.distinct i
    · intro i j inside inside' before e mem e' mem'
      have here := t.placed i e (agrees.getElem inside ▸ mem)
      have there := t.placed j e' (agrees.getElem inside' ▸ mem')
      refine Bool.eq_false_iff.2 fun same => ?_
      have rows := (keyHashing rows lower).row_same same
      omega
  refine List.pairwise_map.2 (apart.imp_of_mem fun mem mem' differ same => ?_)
  obtain ⟨key, token⟩ := agrees.proper _ ((agrees.mem_entries _).1 mem)
  obtain ⟨key', -⟩ := agrees.proper _ ((agrees.mem_entries _).1 mem')
  rw [key, key', (sameKey_proper token _ _ _).2 same] at differ
  cases differ

theorem Agrees.value (agrees : Agrees calls ht t) {e : Entry HashKey υ} (mem : e ∈ ht.entries) :
    stored calls e.key.bytes = some e.value := by
  have held := (agrees.mem_entries e).1 mem
  obtain ⟨key, token⟩ := agrees.proper e held
  have same : (keyHashing rows lower).same e.key (properKey lower none e.key.bytes) = true := by
    rw [key]
    exact (sameKey_proper token _ _ _).2 rfl
  rw [← agrees.holds _ token, ← ChainedTable.get_congr same, held.get]

theorem Agrees.live_iff (agrees : Agrees calls ht t) (c : List UInt8) :
    (c ∈ ht.entries.map fun e => folded lower e.key.bytes) ↔ c ∈ live calls := by
  constructor
  · intro mem
    obtain ⟨e, there, rfl⟩ := List.mem_map.1 mem
    exact ⟨e.key.bytes, rfl, Option.isSome_iff_exists.2 ⟨_, agrees.value there⟩⟩
  · rintro ⟨key, rfl, isStored⟩
    have token := stored_token calls isStored
    obtain ⟨value, found⟩ := Option.isSome_iff_exists.1 isStored
    rw [← agrees.holds key token] at found
    obtain ⟨e, held, same, -⟩ := ChainedTable.get_holds found
    obtain ⟨is, token'⟩ := agrees.proper e held
    refine List.mem_map.2 ⟨e, (agrees.mem_entries e).2 held, ?_⟩
    have same : sameKey lower e.key (properKey lower none key) = true := same
    rw [is] at same
    exact (sameKey_proper token' _ _ _).1 same

theorem Agrees.isMap (agrees : Agrees calls ht t) : IsMap calls ht := by
  refine ⟨fun key hval args => ?_, ?_, ht.entries, ht.visits_first, agrees.nodup,
    agrees.live_iff, fun e mem => agrees.value mem⟩
  · rw [← agrees.holds key args.token, HashTable.pjHashGet, searchKey_eq none args]
    have row := rowOf_eq agrees (properKey lower none key)
    rw [HashTable.findEntry, ← Chain.get_eq_find, row, agrees.chains _ (row_le _)]
    rfl
  · have all : live calls = (ht.entries.map fun e => folded lower e.key.bytes).toFinset := by
      ext c
      simpa using (agrees.live_iff c).symm
    rw [HashTable.pjHashCount, agrees.count, all, Set.ncard_coe_finset,
      List.toFinset_card_of_nodup agrees.nodup, List.length_map]

theorem agrees_empty (ht : HashTable υ) (empty : ht.table = List.replicate (ht.rows + 1) [])
    (count : ht.count = 0) :
    Agrees ([] : List (SetCall lower υ)) ht
      (ChainedTable.empty : ChainedTable (keyHashing ht.rows lower) υ) := by
  refine ⟨rfl, fun i small => ?_, fun e ⟨_, mem⟩ => absurd mem List.not_mem_nil, fun _ _ => rfl, ?_⟩
  · rw [HashTable.chain, empty, List.getD_eq_getElem?_getD,
      List.getElem?_replicate_of_lt (Nat.lt_succ_of_le small)]
    rfl
  · rw [count, HashTable.entries, empty, List.flatten_replicate_nil]
    rfl

end Tables

/-! ## The size of a table -/

section Size

variable {size tableSize : UInt32}

theorem double_toNat (tableSize : UInt32) :
    (tableSize <<< 1).toNat = tableSize.toNat * 2 % 2 ^ 32 := by
  simp [Nat.shiftLeft_eq]

theorem growTableSize_ends (small : size ≤ 2 ^ 31) (rounds : Nat) :
    ∀ tableSize : UInt32, tableSize.toNat * 2 ^ (rounds + 1) = 2 ^ 31 →
      (growTableSize size (rounds + 1) tableSize).isSome = true := by
  have small' : size.toNat ≤ 2 ^ 31 := UInt32.le_iff_toNat_le.1 small
  induction rounds with
  | zero =>
    intro tableSize doubled
    have last : ¬ tableSize <<< 1 < size := by
      rw [UInt32.lt_iff_toNat_lt, double_toNat]
      omega
    rw [growTableSize, if_neg last]
    rfl
  | succ rounds ih =>
    intro tableSize doubled
    rw [growTableSize]
    split
    · apply ih
      have factor : 2 ^ 31 = tableSize.toNat * 2 * 2 ^ (rounds + 1) := by
        rw [← doubled, Nat.pow_succ _ (rounds + 1)]
        ring
      have bound : tableSize.toNat * 2 ≤ 2 ^ 31 := by
        rw [factor]
        exact Nat.le_mul_of_pos_right _ (Nat.two_pow_pos _)
      rw [double_toNat, Nat.mod_eq_of_lt (by omega)]
      exact factor.symm
    · rfl

/-- A larger size is never reached: the doubling comes to 2^31, and then to 0 for ever. -/
theorem growTableSize_never (large : 2 ^ 31 < size) (rounds : Nat) :
    ∀ tableSize : UInt32, tableSize = 0 ∨ (∃ j ≤ 31, tableSize.toNat = 2 ^ j) →
      growTableSize size rounds tableSize = none := by
  have large' : 2 ^ 31 < size.toNat := UInt32.lt_iff_toNat_lt.1 large
  induction rounds with
  | zero => exact fun _ _ => rfl
  | succ rounds ih =>
    intro tableSize power
    have next : tableSize <<< 1 = 0 ∨ ∃ j ≤ 31, (tableSize <<< 1).toNat = 2 ^ j := by
      rcases power with zero | ⟨j, small, is⟩
      · exact .inl (by rw [zero]; rfl)
      · by_cases last : j = 31
        · refine .inl (UInt32.toNat_inj.1 ?_)
          rw [double_toNat, is, last]
          rfl
        · refine .inr ⟨j + 1, by omega, ?_⟩
          have bound : 2 ^ (j + 1) ≤ 2 ^ 31 := Nat.pow_le_pow_right (by decide) (by omega)
          rw [double_toNat, is, ← Nat.pow_succ, Nat.mod_eq_of_lt (by omega)]
    have less : tableSize <<< 1 < size := by
      rw [UInt32.lt_iff_toNat_lt]
      rcases next with zero | ⟨j, small, is⟩
      · rw [zero]
        show 0 < size.toNat
        omega
      · have : 2 ^ j ≤ 2 ^ 31 := Nat.pow_le_pow_right (by decide) small
        omega
    rw [growTableSize, if_pos less]
    exact ih _ next

end Size

/-- A table that can be created is a finite map, whatever is called; it can be created unless it
is for more than 2^31 entries. -/
theorem createsMap_iff (υ : Type) (size : UInt32) : CreatesMap υ size ↔ size ≤ 2 ^ 31 := by
  constructor
  · rintro ⟨rounds, ht, created, -⟩
    by_contra large
    have never := growTableSize_never (UInt32.not_le.1 large) rounds 8 (.inr ⟨3, by decide, rfl⟩)
    rw [pjHashCreate, never] at created
    cases created
  · intro small
    have ends := growTableSize_ends small 27 8 (by decide)
    obtain ⟨tableSize, ended⟩ := Option.isSome_iff_exists.1 ends
    obtain ⟨ht, created, empty, count⟩ : ∃ ht : HashTable υ, pjHashCreate υ 28 size = some ht
        ∧ ht.table = List.replicate (ht.rows + 1) [] ∧ ht.count = 0 := by
      rw [pjHashCreate, ended]
      exact ⟨_, rfl, rfl, rfl⟩
    refine ⟨28, ht, created, fun lower calls => ?_⟩
    obtain ⟨t, agrees⟩ := (agrees_empty ht empty count).run calls
    exact agrees.isMap

/-- `pj_hash_create` does not return for one more. -/
theorem createsMap_large : ¬ ∀ (υ : Type) (size : UInt32), CreatesMap υ size := by
  intro creates
  obtain ⟨rounds, ht, created, -⟩ := creates Unit 2147483649
  have large : (2 : UInt32) ^ 31 < 2147483649 := by decide
  have never := growTableSize_never large rounds 8 (.inr ⟨3, by decide, rfl⟩)
  rw [pjHashCreate, never] at created
  cases created

end Pjsip.Pjlib
