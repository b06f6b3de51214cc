import Pjsip.Base.Run
import Pjsip.Sip.Tsx.Layer
import Mathlib.Data.List.Pairwise

/-!
# The transaction tables stay consistent

A transaction is found under its key from its registration on until it is destroyed. The
second table has one entry for all server transactions with the same second key: the first of
them that is destroyed takes the entry with it.
-/

namespace Pjsip.Sip.Tsx

open Pjsip.Base Pjsip.Pjlib

variable {rows : Nat}

def SameLower (a b : List UInt8) : Prop := a.map pjTolower = b.map pjTolower

instance (a b : List UInt8) : Decidable (SameLower a b) :=
  inferInstanceAs (Decidable (_ = _))

def tableKey (key : List UInt8) : HashKey := findKey key 0 none

def OneKey (a b : List UInt8) : Prop := sameKey true (tableKey a) (tableKey b) = true

instance (a b : List UInt8) : Decidable (OneKey a b) :=
  inferInstanceAs (Decidable (_ = _))

/-- What the two tables are for. -/
structure Consistent (layer : TsxLayer rows) : Prop where
  found : ∀ tsx ∈ layer.registered, pjHashGetLower layer.htable tsx.transactionKey 0 = some tsx
  distinct : layer.registered.Pairwise fun t u => ¬SameLower t.transactionKey u.transactionKey
  gone : ∀ tsx ∈ layer.destroyed, ∀ key hval, pjHashGetLower layer.htable key hval ≠ some tsx
      ∧ pjHashGetLower layer.htable2 key hval ≠ some tsx
  merged : ∀ tsx ∈ layer.registered, tsx.role = .uas → ∃ other ∈ layer.registered,
    pjHashGetLower layer.htable2 tsx.transactionKey2 0 = some other ∧ other.role = .uas
      ∧ SameLower other.transactionKey2 tsx.transactionKey2
  /-- A request that is not of a registered transaction, but has the second key of one, is
  detected. -/
  detected : ∀ rdata via cseq method key key2, rdata.toTag = [] → rdata.via = some via →
    rdata.cseq = some (cseq, method) → createKey .uas method via rdata = .ok key →
    createTsxKey2543 .uas method rdata false = .ok key2 →
    pjHashGetLower layer.htable key 0 = none →
    (∃ tsx ∈ layer.registered, tsx.role = .uas ∧ SameLower tsx.transactionKey2 key2) →
    (detectMergedRequests layer rdata).isSome

namespace Transaction

def key (tsx : Transaction) : HashKey := findKey tsx.transactionKey 0 (some tsx.pool)

def key2 (tsx : Transaction) : HashKey := findKey tsx.transactionKey2 0 (some tsx.pool)

/-- The hashes kept in a transaction are those of its keys. -/
structure Hashed (tsx : Transaction) : Prop where
  first : tsx.hashedKey = pjHashCalcTolower 0 tsx.transactionKey
  second : tsx.role = .uas → tsx.hashedKey2 = pjHashCalcTolower 0 tsx.transactionKey2

end Transaction

theorem SameLower.oneKey {a b : List UInt8} (same : SameLower a b) : OneKey a b :=
  sameKey_lower same none none

/-- What holds of the tables in every run: the entries of both are of registered
transactions, and so is the memory of their keys. -/
structure Registry (layer : TsxLayer rows) : Prop where
  fresh : ∀ tsx, tsx ∈ layer.registered ∨ tsx ∈ layer.destroyed → tsx.pool < layer.nextPool
  pools : layer.registered.Pairwise fun t u => t.pool ≠ u.pool
  apart : ∀ t ∈ layer.registered, ∀ u ∈ layer.destroyed, t.pool ≠ u.pool
  pending : ∀ tsx ∈ layer.pendingDestroy, tsx ∈ layer.destroyed
  hashed : ∀ tsx, tsx ∈ layer.registered ∨ tsx ∈ layer.destroyed → tsx.Hashed
  held : ∀ e, layer.htable.Holds e → e.value ∈ layer.registered ∧ e.key = e.value.key
  held2 : ∀ e, layer.htable2.Holds e → e.value ∈ layer.registered ∧ e.value.role = .uas
    ∧ sameKey true e.key e.value.key2 = true
    ∧ ∃ tsx ∈ layer.registered, tsx.role = .uas ∧ e.key = tsx.key2

/-- What the tables owe the registered transactions. -/
structure Reachable (layer : TsxLayer rows) : Prop where
  found : ∀ tsx ∈ layer.registered, layer.htable.get tsx.key = some tsx
  merged : ∀ tsx ∈ layer.registered, tsx.role = .uas → (layer.htable2.get tsx.key2).isSome
  telling : ∀ t ∈ layer.registered, ∀ u ∈ layer.registered, t.role = .uas → u.role = .uas →
    OneKey t.transactionKey2 u.transactionKey2 → SameLower t.transactionKey2 u.transactionKey2

/-- The steps that leave the tables consistent. -/
def Careful (layer : TsxLayer rows) : LayerAct → Prop
  | .createUac _ => True
  | .createUas rdata => ∀ tsx ∈ layer.registered, tsx.role = .uas →
      ∀ key2 ∈ (createTsxKey2543 .uas rdata.method rdata false).toOption,
        OneKey tsx.transactionKey2 key2 → SameLower tsx.transactionKey2 key2
  | .destroy tsx _ => tsx.role = .uas → ∀ other ∈ layer.registered, other ≠ tsx →
      other.role = .uas → ¬OneKey tsx.transactionKey2 other.transactionKey2
  | .sendComplete tsx => ∀ other ∈ layer.registered,
      ¬OneKey tsx.transactionKey other.transactionKey ∧ (tsx.role = .uas → other.role = .uas →
            ¬OneKey tsx.transactionKey2 other.transactionKey2)

instance (layer : TsxLayer rows) : (act : LayerAct) → Decidable (Careful layer act)
  | .createUac _ => .isTrue trivial
  | .createUas _ => inferInstanceAs (Decidable (∀ tsx ∈ layer.registered, _ → _))
  | .destroy tsx _ => inferInstanceAs (Decidable (tsx.role = .uas → _))
  | .sendComplete _ => inferInstanceAs (Decidable (∀ other ∈ layer.registered, _ ∧ _))

section Lookups

variable {layer : TsxLayer rows}

theorem getLower_eq (ht : PjHashTable rows Transaction) (key : List UInt8) (pool : Option Nat) :
    pjHashGetLower ht key 0 = ht.get (findKey key 0 pool) :=
  ChainedTable.get_congr (show (keyHashing rows true).same _ _ = true from SameLower.oneKey rfl)

theorem getLower_congr (ht : PjHashTable rows Transaction) {a b : List UInt8} (one : OneKey a b) :
    pjHashGetLower ht a 0 = pjHashGetLower ht b 0 :=
  ChainedTable.get_congr (show (keyHashing rows true).same _ _ = true from one)

theorem Registry.unregister (registry : Registry layer) {tsx : Transaction}
    (known : tsx ∈ layer.registered ∨ tsx ∈ layer.destroyed) :
    unregisterTsx layer tsx = { layer with
        htable := layer.htable.erase (findKey tsx.transactionKey 0 none)
        htable2 :=
          if tsx.role = .uas then layer.htable2.erase (findKey tsx.transactionKey2 0 none)
          else layer.htable2 } := by
  have hashed := registry.hashed tsx known
  simp only [unregisterTsx, pjHashSetLower, hashed.first, findKey_calc, findKey_zero]
  by_cases server : tsx.role = .uas
  · simp only [server, if_true, hashed.second server, findKey_calc]
  · simp only [server, if_false]

theorem Registry.get_registered (registry : Registry layer) {key : HashKey} {tsx : Transaction}
    (found : layer.htable.get key = some tsx) : tsx ∈ layer.registered := by
  obtain ⟨e, held, _, rfl⟩ := ChainedTable.get_holds found
  exact (registry.held e held).1

theorem Registry.get2_registered (registry : Registry layer) {key : HashKey} {tsx : Transaction}
    (found : layer.htable2.get key = some tsx) :
    tsx ∈ layer.registered ∧ tsx.role = .uas ∧ sameKey true key tsx.key2 = true := by
  obtain ⟨e, held, same, rfl⟩ := ChainedTable.get_holds found
  obtain ⟨known, server, here, _⟩ := registry.held2 e held
  exact ⟨known, server, sameKey_trans (sameKey_symm same) here⟩

end Lookups

/-- The layer with a transaction that was created. -/
def enrolled (layer : TsxLayer rows) (tsx : Transaction) : TsxLayer rows :=
  { layer with
    htable := layer.htable.put tsx.key tsx
    htable2 := if tsx.role = .uas then layer.htable2.put tsx.key2 tsx else layer.htable2
    nextPool := layer.nextPool + 1
    registered := tsx :: layer.registered }

/-- What an act can do to the layer. -/
inductive Changes (layer : TsxLayer rows) : LayerAct → TsxLayer rows → Prop
  | refused {act : LayerAct} {nextPool : Nat} : layer.nextPool ≤ nextPool →
      Changes layer act { layer with nextPool }
  | client {tdata : TxRequest} {tsx : Transaction} : tsx.pool = layer.nextPool → tsx.Hashed →
      layer.htable.get tsx.key = none → tsx.role = .uac →
      Changes layer (.createUac tdata) (enrolled layer tsx)
  | server {rdata : RxRequest} {tsx : Transaction} : tsx.pool = layer.nextPool → tsx.Hashed →
      layer.htable.get tsx.key = none →
      createTsxKey2543 .uas rdata.method rdata false = .ok tsx.transactionKey2 →
      Changes layer (.createUas rdata) (enrolled layer tsx)
  | destroyed {tsx : Transaction} {sending : Bool} : tsx ∈ layer.registered →
      Changes layer (.destroy tsx sending) (destroyTsx layer tsx sending)
  | completed {tsx : Transaction} : tsx ∈ layer.pendingDestroy →
      Changes layer (.sendComplete tsx) (sendComplete layer tsx)

variable {status : SipStatus}

theorem addTsx_cases {layer layer' : TsxLayer rows} {tsx : Transaction}
    (hashed : tsx.Hashed) (added : addTsx layer tsx = (layer', status)) :
    layer' = { layer with nextPool := layer.nextPool + 1 }
      ∨ layer.htable.get tsx.key = none ∧ layer' = enrolled layer tsx := by
  rw [addTsx, registerTsx, getLower_eq _ _ (some tsx.pool)] at added
  by_cases taken : (layer.htable.get tsx.key).isSome
  · rw [Transaction.key] at taken
    simp only [taken, if_true] at added
    exact .inl (Prod.mk.inj added).1.symm
  · refine .inr ⟨Option.not_isSome_iff_eq_none.1 taken, ?_⟩
    rw [Transaction.key] at taken
    simp only [taken, Bool.false_eq_true, if_false, pjHashSetLower] at added
    rw [← (Prod.mk.inj added).1, enrolled, Transaction.key, Transaction.key2, hashed.first,
      findKey_calc, findKey_zero]
    by_cases server : tsx.role = .uas
    · simp only [server, if_true, hashed.second server, findKey_calc, findKey_zero]
    · simp only [server, if_false]

theorem createUac_changes {layer layer' : TsxLayer rows} {tdata : TxRequest}
    (created : createUac layer tdata = (layer', status)) :
    Changes layer (.createUac tdata) layer' := by
  rw [createUac] at created
  split at created
  · cases created
    exact .refused (Nat.le_refl _)
  split at created
  · cases created
    exact .refused (Nat.le_refl _)
  split at created
  · cases created
    exact .refused (Nat.le_succ _)
  have hashed : ∀ key, Transaction.Hashed
      ⟨layer.nextPool, .uac, key, pjHashCalcTolower 0 key, [], 0⟩ :=
    fun _ => ⟨rfl, fun server => nomatch server⟩
  rcases addTsx_cases (hashed _) created with rfl | ⟨absent, rfl⟩
  · exact .refused (Nat.le_succ _)
  · exact .client rfl (hashed _) absent rfl

theorem createUas_changes {layer layer' : TsxLayer rows} {rdata : RxRequest}
    (created : createUas layer rdata = (layer', status)) :
    Changes layer (.createUas rdata) layer' := by
  rw [createUas] at created
  split at created
  · cases created
    exact .refused (Nat.le_refl _)
  split at created
  · cases created
    exact .refused (Nat.le_refl _)
  · cases created
    exact .refused (Nat.le_refl _)
  split at created
  · cases created
    exact .refused (Nat.le_refl _)
  split at created
  · cases created
    exact .refused (Nat.le_succ _)
  · cases created
    exact .refused (Nat.le_succ _)
  · next key2 _ second =>
    rcases addTsx_cases ⟨rfl, fun _ => rfl⟩ created with rfl | ⟨absent, rfl⟩
    · exact .refused (Nat.le_succ _)
    · exact .server rfl ⟨rfl, fun _ => rfl⟩ absent second

variable {act : LayerAct}

theorem layerStep_changes {layer layer' : TsxLayer rows}
    (taken : layerStep layer act = some (layer', status)) : Changes layer act layer' := by
  cases act with
  | createUac tdata => exact createUac_changes (Option.some.inj taken)
  | createUas rdata => exact createUas_changes (Option.some.inj taken)
  | destroy tsx sending =>
    rw [layerStep] at taken
    split at taken
    · next known =>
      rw [← (Prod.mk.inj (Option.some.inj taken)).1]
      exact .destroyed known
    · cases taken
  | sendComplete tsx =>
    rw [layerStep] at taken
    split at taken
    · next pending =>
      rw [← (Prod.mk.inj (Option.some.inj taken)).1]
      exact .completed pending
    · cases taken

section Enrolled

variable {layer : TsxLayer rows} {tsx : Transaction}

theorem enrolled_held (absent : layer.htable.get tsx.key = none) {e : Entry HashKey Transaction}
    (held : (enrolled layer tsx).htable.Holds e) :
    e = ⟨tsx.key, tsx⟩ ∨ layer.htable.Holds e := by
  rcases ChainedTable.Holds.of_put held with new | ⟨e', held', same, _⟩ | old
  · exact .inl new
  · have found := held'.get
    rw [ChainedTable.get_congr same, absent] at found
    cases found
  · exact .inr old

theorem enrolled_registry (registry : Registry layer) (pool : tsx.pool = layer.nextPool)
    (hashed : tsx.Hashed) (absent : layer.htable.get tsx.key = none) :
    Registry (enrolled layer tsx) where
  fresh := by
    intro t known
    rcases known with known | known
    · cases known with
      | head => exact pool ▸ Nat.lt_succ_self _
      | tail _ known => exact Nat.lt_succ_of_lt (registry.fresh t (.inl known))
    · exact Nat.lt_succ_of_lt (registry.fresh t (.inr known))
  pools := by
    refine List.pairwise_cons.2 ⟨fun t known same => ?_, registry.pools⟩
    have := registry.fresh t (.inl known)
    omega
  apart := by
    intro t known u gone
    cases known with
    | head =>
      have := registry.fresh u (.inr gone)
      omega
    | tail _ known => exact registry.apart t known u gone
  pending := registry.pending
  hashed := by
    intro t known
    rcases known with known | known
    · cases known with
      | head => exact hashed
      | tail _ known => exact registry.hashed t (.inl known)
    · exact registry.hashed t (.inr known)
  held := by
    intro e held
    rcases enrolled_held absent held with rfl | old
    · exact ⟨List.mem_cons_self, rfl⟩
    · obtain ⟨known, key⟩ := registry.held e old
      exact ⟨List.mem_cons_of_mem _ known, key⟩
  held2 := by
    intro e held
    simp only [enrolled] at held
    have before : layer.htable2.Holds e → e.value ∈ tsx :: layer.registered
        ∧ e.value.role = .uas ∧ sameKey true e.key e.value.key2 = true
        ∧ ∃ t ∈ tsx :: layer.registered, t.role = .uas ∧ e.key = t.key2 := by
      intro old
      obtain ⟨known, server, same, t, owner, key⟩ := registry.held2 e old
      exact ⟨List.mem_cons_of_mem _ known, server, same, t, List.mem_cons_of_mem _ owner, key⟩
    split at held
    · next server =>
      rcases ChainedTable.Holds.of_put held with rfl | ⟨e', old, same, rfl⟩ | old
      · exact ⟨List.mem_cons_self, server, sameKey_refl _ _, tsx,
          List.mem_cons_self, server, rfl⟩
      · obtain ⟨_, _, _, t, owner, key⟩ := registry.held2 e' old
        exact ⟨List.mem_cons_self, server, same, t, List.mem_cons_of_mem _ owner, key⟩
      · exact before old
    · exact before held

theorem enrolled_reachable (reachable : Reachable layer) (absent : layer.htable.get tsx.key = none)
    (telling : tsx.role = .uas → ∀ t ∈ layer.registered, t.role = .uas →
      OneKey t.transactionKey2 tsx.transactionKey2 →
        SameLower t.transactionKey2 tsx.transactionKey2) :
    Reachable (enrolled layer tsx) where
  found := by
    intro t known
    cases known with
    | head => exact ChainedTable.get_put_self tsx
    | tail _ known =>
      have found := reachable.found t known
      have other : sameKey true tsx.key t.key = false := by
        rw [← Bool.not_eq_true]
        intro same
        rw [← ChainedTable.get_congr same, absent] at found
        cases found
      exact (ChainedTable.get_put_other tsx other).trans found
  merged := by
    intro t known server
    simp only [enrolled]
    cases known with
    | head =>
      rw [if_pos server, ChainedTable.get_put_self]
      rfl
    | tail _ known =>
      have here := reachable.merged t known server
      split
      · by_cases same : sameKey true tsx.key2 t.key2 = true
        · rw [ChainedTable.get_put_same tsx same]
          rfl
        · rw [ChainedTable.get_put_other tsx (Bool.not_eq_true _ ▸ same)]
          exact here
      · exact here
  telling := by
    intro t known u known' server server' one
    cases known with
    | head =>
      cases known' with
      | head => rfl
      | tail _ known' =>
        have mirrored := sameKey_symm one
        exact (telling server u known' server' mirrored).symm
    | tail _ known =>
      cases known' with
      | head => exact telling server' t known server one
      | tail _ known' => exact reachable.telling t known u known' server server' one

end Enrolled

section Unregistered

variable {layer : TsxLayer rows} {tsx : Transaction}

theorem Registry.only (registry : Registry layer) {t u : Transaction} (here : t ∈ layer.registered)
    (there : u ∈ layer.registered) (pool : t.pool = u.pool) : t = u := by
  have : Std.Symm fun t u : Transaction => t.pool ≠ u.pool := ⟨fun _ _ => Ne.symm⟩
  by_contra apart
  exact registry.pools.forall here there apart pool

theorem Registry.unregister_held (registry : Registry layer)
    (known : tsx ∈ layer.registered ∨ tsx ∈ layer.destroyed) :
    (∀ e, (unregisterTsx layer tsx).htable.Holds e →
      layer.htable.Holds e ∧ sameKey true e.key tsx.key = false)
      ∧ ∀ e, (unregisterTsx layer tsx).htable2.Holds e →
          layer.htable2.Holds e ∧ (tsx.role = .uas → sameKey true e.key tsx.key2 = false) := by
  rw [registry.unregister known]
  constructor
  · intro e held
    obtain ⟨old, other⟩ := ChainedTable.Holds.of_erase held
    exact ⟨old, other⟩
  intro e held
  split at held
  · obtain ⟨old, other⟩ := ChainedTable.Holds.of_erase held
    exact ⟨old, fun _ => other⟩
  · next client => exact ⟨held, fun server => absurd server client⟩

theorem destroyed_registry (registry : Registry layer) (known : tsx ∈ layer.registered)
    (sending : Bool) : Registry (destroyTsx layer tsx sending) where
  fresh := by
    intro t there
    rcases there with there | there
    · exact registry.fresh t (.inl (List.mem_of_mem_erase there))
    · cases there with
      | head => exact registry.fresh tsx (.inl known)
      | tail _ there => exact registry.fresh t (.inr there)
  pools := registry.pools.sublist List.erase_sublist
  apart := by
    intro t here u there
    cases there with
    | head =>
      intro pool
      have same := registry.only (List.mem_of_mem_erase here) known pool
      have nodup : layer.registered.Nodup := registry.pools.imp fun apart same => apart (congrArg _ same)
      exact nodup.not_mem_erase (same ▸ here)
    | tail _ there => exact registry.apart t (List.mem_of_mem_erase here) u there
  pending := by
    intro t pending
    simp only [destroyTsx] at pending
    split at pending
    · cases pending with
      | head => exact List.mem_cons_self
      | tail _ pending => exact List.mem_cons_of_mem _ (registry.pending t pending)
    · exact List.mem_cons_of_mem _ (registry.pending t pending)
  hashed := by
    intro t there
    rcases there with there | there
    · exact registry.hashed t (.inl (List.mem_of_mem_erase there))
    · cases there with
      | head => exact registry.hashed tsx (.inl known)
      | tail _ there => exact registry.hashed t (.inr there)
  held := by
    intro e held
    obtain ⟨old, other⟩ := (registry.unregister_held (.inl known)).1 e held
    obtain ⟨value, key⟩ := registry.held e old
    refine ⟨(List.mem_erase_of_ne fun same => ?_).2 value, key⟩
    rw [key, same, sameKey_refl] at other
    cases other
  held2 := by
    intro e held
    obtain ⟨old, other⟩ := (registry.unregister_held (.inl known)).2 e held
    obtain ⟨value, server, same, t, owner, server', key⟩ := registry.held2 e old
    refine ⟨(List.mem_erase_of_ne fun here => ?_).2 value, server, same, t,
      (List.mem_erase_of_ne fun here => ?_).2 owner, server', key⟩
    · rw [here] at same server
      rw [other server] at same
      cases same
    · rw [here] at key server'
      have distinct := other server'
      rw [key, sameKey_refl] at distinct
      cases distinct

theorem destroyed_reachable (registry : Registry layer) (reachable : Reachable layer)
    (known : tsx ∈ layer.registered) (sending : Bool)
    (careful : Careful layer (.destroy tsx sending)) :
    Reachable (destroyTsx layer tsx sending) := by
  have nodup : layer.registered.Nodup :=
    registry.pools.imp fun apart same => apart (congrArg _ same)
  have others : ∀ t, t ∈ layer.registered.erase tsx → t ∈ layer.registered ∧ t ≠ tsx := by
    intro t here
    exact ⟨List.mem_of_mem_erase here, fun same => nodup.not_mem_erase (same ▸ here)⟩
  have tables := registry.unregister (.inl known)
  constructor
  · intro t here
    obtain ⟨there, other⟩ := others t here
    have found := reachable.found t there
    have apart : sameKey true tsx.key t.key = false := by
      rw [← Bool.not_eq_true]
      intro same
      rw [← ChainedTable.get_congr same, reachable.found tsx known] at found
      exact other (Option.some.inj found).symm
    simp only [destroyTsx, tables]
    exact (ChainedTable.get_erase_other apart).trans found
  · intro t here server
    obtain ⟨there, other⟩ := others t here
    have found := reachable.merged t there server
    simp only [destroyTsx, tables]
    split
    · next server' =>
      have apart : sameKey true tsx.key2 t.key2 = false :=
        Bool.not_eq_true _ ▸ careful server' t there other server
      exact (congrArg _ (ChainedTable.get_erase_other apart)).trans found
    · exact found
  · intro t here u there
    exact reachable.telling t (others t here).1 u (others u there).1

theorem completed_registry (registry : Registry layer) (pending : tsx ∈ layer.pendingDestroy) :
    Registry (sendComplete layer tsx) where
  fresh := registry.fresh
  pools := registry.pools
  apart := registry.apart
  pending := fun t there => registry.pending t (List.mem_of_mem_erase there)
  hashed := registry.hashed
  held := fun e held =>
    registry.held e ((registry.unregister_held (.inr (registry.pending tsx pending))).1 e held).1
  held2 := fun e held =>
    registry.held2 e ((registry.unregister_held (.inr (registry.pending tsx pending))).2 e held).1

theorem completed_reachable (registry : Registry layer) (reachable : Reachable layer)
    (pending : tsx ∈ layer.pendingDestroy) (careful : Careful layer (.sendComplete tsx)) :
    Reachable (sendComplete layer tsx) := by
  have tables := registry.unregister (.inr (registry.pending tsx pending))
  constructor
  · intro t known
    have apart : sameKey true tsx.key t.key = false := Bool.not_eq_true _ ▸ (careful t known).1
    simp only [sendComplete, tables]
    exact (ChainedTable.get_erase_other apart).trans (reachable.found t known)
  · intro t known server
    have found := reachable.merged t known server
    simp only [sendComplete, tables]
    split
    · next server' =>
      have apart : sameKey true tsx.key2 t.key2 = false :=
        Bool.not_eq_true _ ▸ (careful t known).2 server' server
      exact (congrArg _ (ChainedTable.get_erase_other apart)).trans found
    · exact found
  · exact reachable.telling

end Unregistered

theorem layerStep_registry {layer layer' : TsxLayer rows} {status : SipStatus}
    (registry : Registry layer) (taken : layerStep layer act = some (layer', status)) :
    Registry layer' := by
  cases layerStep_changes taken with
  | refused more =>
    exact { registry with fresh := fun t there => Nat.lt_of_lt_of_le (registry.fresh t there) more }
  | client pool hashed absent _ => exact enrolled_registry registry pool hashed absent
  | server pool hashed absent _ => exact enrolled_registry registry pool hashed absent
  | destroyed known => exact destroyed_registry registry known _
  | completed pending => exact completed_registry registry pending

theorem layerStep_reachable {layer layer' : TsxLayer rows} {status : SipStatus}
    (registry : Registry layer) (reachable : Reachable layer) (careful : Careful layer act)
    (taken : layerStep layer act = some (layer', status)) : Reachable layer' := by
  cases layerStep_changes taken with
  | refused _ => exact { reachable with }
  | client _ _ absent client =>
    refine enrolled_reachable reachable absent fun server => ?_
    rw [client] at server
    cases server
  | server _ _ absent key2 =>
    refine enrolled_reachable reachable absent fun _ t known server one => ?_
    exact careful t known server _ (by rw [key2]; rfl) one
  | destroyed known => exact destroyed_reachable registry reachable known _ careful
  | completed pending => exact completed_reachable registry reachable pending careful

theorem Reachable.consistent {layer : TsxLayer rows} (reachable : Reachable layer)
    (registry : Registry layer) : Consistent layer := by
  have merged : ∀ tsx ∈ layer.registered, tsx.role = .uas → ∃ other ∈ layer.registered,
      pjHashGetLower layer.htable2 tsx.transactionKey2 0 = some other ∧ other.role = .uas
        ∧ SameLower other.transactionKey2 tsx.transactionKey2 := by
    intro tsx known server
    obtain ⟨other, found⟩ := Option.isSome_iff_exists.1 (reachable.merged tsx known server)
    obtain ⟨known', server', same⟩ := registry.get2_registered found
    refine ⟨other, known', ?_, server', ?_⟩
    · rw [getLower_eq _ _ (some tsx.pool)]
      exact found
    · exact (reachable.telling tsx known other known' server server' same).symm
  refine ⟨fun tsx known => ?_, ?_, fun tsx gone key hval => ⟨fun found => ?_, fun found => ?_⟩,
    merged, ?_⟩
  · rw [getLower_eq _ _ (some tsx.pool)]
    exact reachable.found tsx known
  · refine registry.pools.imp_of_mem fun {t u} here there apart same => ?_
    have found := reachable.found t here
    rw [ChainedTable.get_congr (show (keyHashing rows true).same t.key u.key = true from
      same.oneKey), reachable.found u there] at found
    exact apart (congrArg Transaction.pool (Option.some.inj found).symm)
  · exact registry.apart tsx (registry.get_registered found) tsx gone rfl
  · exact registry.apart tsx (registry.get2_registered found).1 tsx gone rfl
  · rintro rdata via cseq method key key2 noTag hasVia hasCseq first second absent
      ⟨tsx, known, server, same⟩
    obtain ⟨other, _, found, _⟩ := merged tsx known server
    simp only [detectMergedRequests, noTag, hasVia, hasCseq, first, second, absent, List.length_nil,
      ne_eq, not_true_eq_false, if_false, Option.isSome_none, Bool.false_eq_true]
    rw [← getLower_congr _ same.oneKey, found]
    rfl

theorem init_registry : Registry (TsxLayer.init rows) where
  fresh := by simp [TsxLayer.init]
  pools := .nil
  apart := by simp [TsxLayer.init]
  pending := by simp [TsxLayer.init]
  hashed := by simp [TsxLayer.init]
  held := by
    rintro e ⟨i, mem⟩
    cases mem
  held2 := by
    rintro e ⟨i, mem⟩
    cases mem

theorem init_reachable : Reachable (TsxLayer.init rows) where
  found := by simp [TsxLayer.init]
  merged := by simp [TsxLayer.init]
  telling := by simp [TsxLayer.init]

/-- In a run in which no server transaction is destroyed before another one with its second
key, the tables are consistent throughout. -/
theorem tsxTables_consistent {tr : List (LayerAct × SipStatus)} {layer : TsxLayer rows}
    (run : Run layerStep (TsxLayer.init rows) tr layer)
    (careful : Along layerStep Careful (TsxLayer.init rows) (tr.map Prod.fst)) :
    Consistent layer := by
  have start : Registry (TsxLayer.init rows) ∧ Reachable (TsxLayer.init rows) :=
    ⟨init_registry, init_reachable⟩
  have keeps : ∀ (s : TsxLayer rows) (act : LayerAct) (s' : TsxLayer rows) (status : SipStatus),
      Registry s ∧ Reachable s → Careful s act → layerStep s act = some (s', status) →
        Registry s' ∧ Reachable s' := by
    intro s act s' status inv allowed taken
    exact ⟨layerStep_registry inv.1 taken, layerStep_reachable inv.1 inv.2 allowed taken⟩
  have kept := run.invariant_along keeps careful start
  exact kept.2.consistent kept.1

/-- An INVITE without To tag, as it arrives on the branch `branch`. -/
def forkedInvite (branch : UInt8) : RxRequest :=
  { method := ⟨.invite, []⟩, cseq := some (1, ⟨.invite, []⟩)
    via := some ⟨rfc3261BranchId ++ [branch], [0x68], 5060⟩
    fromTag := some [0x66], toTag := [], callId := [0x63] }

/-- The transaction of a forked INVITE. -/
def forkedTsx (pool : Nat) (branch : UInt8) : Transaction :=
  let key := createTsxKey3261 .uas ⟨.invite, []⟩ (rfc3261BranchId ++ [branch])
  let key2 := [0x73, 0x24, 0x31, 0x24, 0x66, 0x24, 0x63, 0x24, 0]
  ⟨pool, .uas, key, pjHashCalcTolower 0 key, key2, pjHashCalcTolower 0 key2⟩

/-- Two forks of an INVITE, one of which is destroyed when the other has been, and a request
of the transaction user in between. -/
def forkedCall : List LayerAct :=
  [.createUas (forkedInvite 1), .createUac ⟨⟨.bye, [0x42]⟩, true, [], [0x31], .success⟩,
    .destroy (forkedTsx 0 1) false, .createUas (forkedInvite 3)]

theorem tsxTables_consistent_forkedCall :
    ∃ (tr : List (LayerAct × SipStatus)) (layer : TsxLayer (pjHashRows 1)),
      Run layerStep (TsxLayer.init _) tr layer ∧ forkedTsx 2 3 ∈ layer.registered
        ∧ Consistent layer := by
  have careful : Along layerStep Careful (TsxLayer.init (pjHashRows 1)) forkedCall := by
    decide +kernel
  have runs : (exec layerStep (TsxLayer.init (pjHashRows 1)) forkedCall).any
      (fun layer => forkedTsx 2 3 ∈ layer.registered) = true := by
    decide +kernel
  obtain ⟨layer, done, live⟩ := (Option.any_eq_true _ _).1 runs
  obtain ⟨tr, acts, run⟩ := Run.of_exec done
  exact ⟨tr, layer, run, of_decide_eq_true live, tsxTables_consistent run (acts.symm ▸ careful)⟩

/-- The second fork ends first, and the merged-request table forgets the first. -/
theorem unregisterTsx_forgetsFork :
    ¬∀ (rows : Nat) (tr : List (LayerAct × SipStatus)) (layer : TsxLayer rows),
      Run layerStep (TsxLayer.init rows) tr layer → Consistent layer := by
  intro claim
  have runs : (exec layerStep (TsxLayer.init (pjHashRows 1))
      [.createUas (forkedInvite 1), .createUas (forkedInvite 3),
        .destroy (forkedTsx 1 3) false]).any
      (fun layer => forkedTsx 0 1 ∈ layer.registered
        ∧ pjHashGetLower layer.htable2 (forkedTsx 0 1).transactionKey2 0 = none) = true := by
    decide +kernel
  obtain ⟨layer, done, facts⟩ := (Option.any_eq_true _ _).1 runs
  obtain ⟨live, forgotten⟩ := of_decide_eq_true facts
  obtain ⟨tr, _, run⟩ := Run.of_exec done
  obtain ⟨other, _, found, _⟩ := (claim _ tr layer run).merged _ live rfl
  rw [forgotten] at found
  cases found

end Pjsip.Sip.Tsx
