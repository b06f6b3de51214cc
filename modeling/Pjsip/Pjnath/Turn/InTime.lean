import Mathlib.Data.List.Nodup
import Pjsip.Pjnath.Turn.KeepAlive

/-!
# Refreshes of a TURN session come in time

Between two expirations of the timer lies one keep-alive interval, and the time at which
something is to be renewed is set so much earlier. This is right as long as the interval is the
one that was subtracted, the lifetime is longer than it, and all that is due fits into one
request.
-/

namespace Pjsip.Pjnath.Turn

open Pjsip.Base

/-! ## What is to hold -/

section Spec

/-- Now the timer is still to expire, the allocation lasts, and no bound channel and no
permission marked for renewal has timed out. -/
structure Timely (s : TurnSession) : Prop where
  armed : ∃ t, s.timer = some t ∧ s.now ≤ t
  lasting : s.now < s.granted + s.lifetime.toNat * 1000
  channels : ∀ ch ∈ s.chTable, ch.bound → s.now < ch.since + turnPermTimeout * 1000
  perms : ∀ perm ∈ s.permTable, perm.renew → s.now < perm.since + turnPermTimeout * 1000

/-- What the timer requests no permission for. -/
def Unasked (ip : List UInt8) (reqs : List TurnRequest) : Prop :=
  ∀ peers, .createPermission peers ∈ reqs → ip ∉ peers.map Peer.ip

/-- A step keeps everything in time, and the timer renews no permission that is not marked. -/
structure KeepsAlive (before : TurnSession) (act : TurnAct) (after : TurnSession)
    (reqs : List TurnRequest) : Prop where
  timely : Timely after
  marked : ∀ lifetime token, act = .timer lifetime token → ∀ perm ∈ before.permTable,
    perm.renew = false → Unasked perm.addr reqs

/-- The timer expires exactly when it is due, a LIFETIME is at least 3, and there are channel
numbers left. -/
def Punctual (s : TurnSession) : TurnAct → Prop
  | .elapse ms => ∀ t ∈ s.timer, s.now + ms ≤ t
  | .setPerm .. | .sendto .. => True
  | .bindChannel addr =>
    (∃ ch ∈ s.chTable, ch.addr = addr ∧ ch.num ≠ turnInvalidChannel) ∨ s.nextCh ≤ turnChannelMax
  | .timer lifetime _ => s.timer = some s.now ∧ (s.expiry ≤ s.now → 3 ≤ lifetime)

/-- `sess->ka_interval` for a LIFETIME. -/
def kaIntervalFor (lifetime : UInt32) : Nat :=
  if lifetime.toNat < turnKeepAliveSec then lifetime.toNat - 2 else turnKeepAliveSec

def renewal (now : Nat) (perm : Perm) : Bool := perm.due now && perm.renew

/-- The permissions to be renewed. -/
def toRenew (s : TurnSession) : List Peer :=
  (s.permTable.filter (renewal s.now)).map fun perm => ⟨perm.addr, 0⟩

/-- Those that the timer renews, after it has bound the channels again. -/
def renewals (s : TurnSession) : List Peer :=
  toRenew (bindAll { s with timer := none } (s.chTable.filter (Ch.due s.now))).1

/-- The keep-alive interval is not too long for what was installed with another one. -/
structure Suits (s : TurnSession) (kaInterval : Nat) : Prop where
  channels : ∀ ch ∈ s.chTable, ch.bound → ch.due s.now = false → kaInterval ≤ ch.interval + 1
  perms : ∀ perm ∈ s.permTable, perm.renew →
    (∀ ch ∈ s.chTable, ch.due s.now → ch.addr.ip ≠ perm.addr) →
    kaInterval ≤ (if perm.due s.now then s.kaInterval else perm.interval) + 2

def FreshToken (s : TurnSession) (token : Nat) : Prop :=
  token ≠ 0 ∧ ∀ perm ∈ s.permTable, perm.reqToken ≠ token

/-- A token is not in use, the permissions to be renewed fit into a request that can be sent,
and the LIFETIME granted is not 15 and suits what is installed. -/
def Orderly (canSend : List Peer → Bool) (s : TurnSession) : TurnAct → Prop
  | .elapse _ | .bindChannel _ => True
  | .setPerm _ _ token | .sendto _ token => FreshToken s token
  | .timer lifetime _ =>
    (renewals s = [] ∨ (renewals s).length ≤ stunMaxAttr ∧ canSend (renewals s)) ∧
      (s.expiry ≤ s.now → lifetime ≠ 15 ∧ Suits s (kaIntervalFor lifetime))

instance (s : TurnSession) : (act : TurnAct) → Decidable (Punctual s act)
  | .elapse ms => inferInstanceAs (Decidable (∀ t ∈ s.timer, s.now + ms ≤ t))
  | .setPerm .. | .sendto .. => .isTrue trivial
  | .bindChannel _ => inferInstanceAs (Decidable ((∃ ch ∈ s.chTable, _ ∧ _) ∨ _))
  | .timer _ _ => inferInstanceAs (Decidable (_ ∧ (_ → _)))

instance (s : TurnSession) (kaInterval : Nat) : Decidable (Suits s kaInterval) :=
  decidable_of_iff
    ((∀ ch ∈ s.chTable, ch.bound → ch.due s.now = false → kaInterval ≤ ch.interval + 1) ∧
      ∀ perm ∈ s.permTable, perm.renew → (∀ ch ∈ s.chTable, ch.due s.now → ch.addr.ip ≠ perm.addr) →
        kaInterval ≤ (if perm.due s.now then s.kaInterval else perm.interval) + 2)
    ⟨fun ⟨channels, perms⟩ => ⟨channels, perms⟩, fun ⟨channels, perms⟩ => ⟨channels, perms⟩⟩

instance (s : TurnSession) (token : Nat) : Decidable (FreshToken s token) :=
  inferInstanceAs (Decidable (_ ∧ _))

instance (canSend : List Peer → Bool) (s : TurnSession) :
    (act : TurnAct) → Decidable (Orderly canSend s act)
  | .elapse _ | .bindChannel _ => .isTrue trivial
  | .setPerm _ _ token | .sendto _ token => inferInstanceAs (Decidable (FreshToken s token))
  | .timer _ _ => inferInstanceAs (Decidable (_ ∧ (_ → _)))

end Spec

/-! ## The invariant -/

variable {perm : Perm}

section Invariant

/-- The fields that the tables do not belong to. -/
structure Clock where
  ready : Bool
  now : Nat
  lifetime : UInt32
  kaInterval : Nat
  expiry : Nat
  timer : Option Nat
  granted : Nat

def TurnSession.clock (s : TurnSession) : Clock :=
  ⟨s.ready, s.now, s.lifetime, s.kaInterval, s.expiry, s.timer, s.granted⟩

/-- When what is installed now is to be renewed. -/
def Clock.renewed (c : Clock) : Nat := c.now + (turnPermTimeout - c.kaInterval - 1) * 1000

/-- The timer expires at `t`, at the earliest one interval after the response, and while the
allocation lasts; the next time after a later `expiry` is in time as well. -/
structure Clock.Kept (c : Clock) (t : Nat) : Prop where
  ready : c.ready = true
  interval : 1 ≤ c.kaInterval ∧ c.kaInterval ≤ 15
  armed : c.timer = some t
  future : c.now ≤ t ∧ t ≤ c.now + c.kaInterval * 1000
  lasting : t < c.granted + c.lifetime.toNat * 1000
  expiry : ∃ timeout, c.expiry = c.granted + timeout * 1000 ∧ c.granted + c.kaInterval * 1000 ≤ t ∧
    (c.kaInterval < timeout → timeout + c.kaInterval ≤ c.lifetime.toNat)

/-- A bound channel was not due one interval before `t`. -/
structure Ch.Kept (ka t : Nat) (ch : Ch) : Prop where
  num : ch.num ≠ turnInvalidChannel
  interval : ch.interval ≤ 15
  backed : ch.expiry ≤ ch.since + (turnPermTimeout - ch.interval - 1) * 1000
  ahead : t < ch.expiry + ka * 1000
  suited : ka ≤ ch.interval + 1

/-- A marked permission was not due one interval before `t`. -/
structure Perm.Kept (ka t : Nat) (perm : Perm) : Prop where
  interval : perm.interval ≤ 15
  backed : perm.expiry ≤ perm.since + (turnPermTimeout - perm.interval - 1) * 1000
  ahead : t / 1000 + 1 < perm.expiry / 1000 + ka
  suited : ka ≤ perm.interval + 2

/-- No two entries have one key. -/
structure Keyed (s : TurnSession) : Prop where
  channels : (s.chTable.map Ch.addr).Nodup
  perms : (s.permTable.map Perm.addr).Nodup

structure Kept (t : Nat) (s : TurnSession) : Prop where
  clock : s.clock.Kept t
  keyed : Keyed s
  channels : ∀ ch ∈ s.chTable, ch.bound → ch.Kept s.kaInterval t
  perms : ∀ perm ∈ s.permTable, perm.renew → perm.Kept s.kaInterval t

theorem Ch.Kept.intime {ka t now : Nat} {ch : Ch} (kept : ch.Kept ka t) (past : now ≤ t) :
    now < ch.since + turnPermTimeout * 1000 := by
  obtain ⟨-, interval, backed, ahead, suited⟩ := kept
  have timeout : turnPermTimeout = 300 := rfl
  omega

theorem Perm.Kept.intime {ka t now : Nat} (kept : perm.Kept ka t) (past : now ≤ t) :
    now < perm.since + turnPermTimeout * 1000 := by
  obtain ⟨interval, backed, ahead, suited⟩ := kept
  have timeout : turnPermTimeout = 300 := rfl
  omega

theorem Kept.timely {t : Nat} {s : TurnSession} (kept : Kept t s) : Timely s where
  armed := ⟨t, kept.clock.armed, kept.clock.future.1⟩
  lasting := by
    have := kept.clock.lasting
    have := kept.clock.future.1
    show s.clock.now < s.clock.granted + s.clock.lifetime.toNat * 1000
    omega
  channels := by
    intro ch mem bound
    exact (kept.channels ch mem bound).intime kept.clock.future.1
  perms := by
    intro perm mem renew
    exact (kept.perms perm mem renew).intime kept.clock.future.1

/-- What the server was asked for now. -/
structure Ch.Installed (c : Clock) (ch : Ch) : Prop where
  num : ch.num ≠ turnInvalidChannel
  expiry : ch.expiry = c.renewed
  interval : ch.interval = c.kaInterval
  since : ch.since = c.now

/-- The expiration was set now. -/
structure Perm.Touched (c : Clock) (perm : Perm) : Prop where
  expiry : perm.expiry = c.renewed
  interval : perm.interval = c.kaInterval

theorem Ch.Installed.kept {c : Clock} {ch : Ch} {t : Nat} (installed : ch.Installed c)
    (short : c.kaInterval ≤ 15) (future : t ≤ c.now + c.kaInterval * 1000) :
    ch.Kept c.kaInterval t := by
  obtain ⟨num, expiry, interval, since⟩ := installed
  unfold Clock.renewed at expiry
  have timeout : turnPermTimeout = 300 := rfl
  refine ⟨num, ?_, ?_, ?_, ?_⟩ <;> omega

theorem Perm.Touched.kept {c : Clock} {ka t : Nat} (touched : perm.Touched c)
    (since : perm.since = c.now) (short : c.kaInterval ≤ 15)
    (future : t ≤ c.now + ka * 1000) (suited : ka ≤ c.kaInterval + 2) : perm.Kept ka t := by
  obtain ⟨expiry, interval⟩ := touched
  unfold Clock.renewed at expiry
  have timeout : turnPermTimeout = 300 := rfl
  refine ⟨?_, ?_, ?_, ?_⟩ <;> omega

end Invariant

/-! ## The tables -/

section Tables

variable {α κ : Type*} [DecidableEq κ] {key : α → κ} {k : κ} {f : α → α} {l : List α} {new : α}

theorem forall_mod {P : α → Prop} (changed : ∀ a ∈ l, key a = k → P (f a))
    (others : ∀ a ∈ l, key a ≠ k → P a) : ∀ a ∈ l.map fun a => if key a = k then f a else a, P a := by
  intro a' mem'
  obtain ⟨a, mem, rfl⟩ := List.mem_map.1 mem'
  by_cases same : key a = k
  · rw [if_pos same]
    exact changed a mem same
  · rw [if_neg same]
    exact others a mem same

theorem keys_mod (keeps : ∀ a, key (f a) = key a) :
    (l.map fun a => if key a = k then f a else a).map key = l.map key := by
  rw [List.map_map]
  refine List.map_congr_left fun a _ => ?_
  show key (if key a = k then f a else a) = key a
  split
  · exact keeps a
  · rfl

theorem nodup_mod (keeps : ∀ a, key (f a) = key a) (keyed : (l.map key).Nodup) :
    ((l.map fun a => if key a = k then f a else a).map key).Nodup := by
  rwa [keys_mod keeps]

theorem nodup_with (own : key new = k) (keyed : (l.map key).Nodup) :
    ((if l.any (key · = k) then l else l ++ [new]).map key).Nodup := by
  split
  · exact keyed
  · next missing =>
    rw [List.map_append, List.nodup_append]
    refine ⟨keyed, List.pairwise_singleton _ _, ?_⟩
    rintro a mem _ last rfl
    obtain ⟨other, mem, same⟩ := List.mem_map.1 mem
    refine missing (List.any_eq_true.2 ⟨other, mem, ?_⟩)
    rw [decide_eq_true_eq, same, ← own]
    exact List.mem_singleton.1 last

theorem mem_with {a : α} (mem : a ∈ if l.any (key · = k) then l else l ++ [new]) :
    a ∈ l ∨ a = new ∧ ∀ other ∈ l, key other ≠ k := by
  split at mem
  · exact .inl mem
  · next missing =>
    rcases List.mem_append.1 mem with mem | last
    · exact .inl mem
    · refine .inr ⟨List.mem_singleton.1 last, fun other mem same => ?_⟩
      exact missing (List.any_eq_true.2 ⟨other, mem, decide_eq_true same⟩)

omit [DecidableEq κ] in
theorem forall_cons {P : α → Prop} {ks : List κ} {l' l'' : List α}
    (first : ∀ a ∈ l', a ∈ l ∧ key a ∉ [k] ∨ key a ∈ [k] ∧ P a)
    (rest : ∀ a ∈ l'', a ∈ l' ∧ key a ∉ ks ∨ key a ∈ ks ∧ P a) :
    ∀ a ∈ l'', a ∈ l ∧ key a ∉ k :: ks ∨ key a ∈ k :: ks ∧ P a := by
  intro a mem
  rcases rest a mem with ⟨mem, other⟩ | ⟨this, holds⟩
  · rcases first a mem with ⟨mem, other'⟩ | ⟨this, holds⟩
    · refine .inl ⟨mem, fun isHead => ?_⟩
      rcases List.mem_cons.1 isHead with same | later
      · exact other' (List.mem_singleton.2 same)
      · exact other later
    · exact .inr ⟨List.mem_cons.2 (.inl (List.mem_singleton.1 this)), holds⟩
  · exact .inr ⟨List.mem_cons_of_mem _ this, holds⟩

theorem subset_withCh (addr : Peer) (table : List Ch) : table ⊆ withCh addr table := by
  unfold withCh
  split
  · exact fun _ mem => mem
  · exact List.subset_append_left _ _

theorem exists_withCh (addr : Peer) (table : List Ch) :
    ∃ ch ∈ withCh addr table, ch.addr = addr := by
  unfold withCh
  split
  · rename_i known
    obtain ⟨ch, mem, same⟩ := List.any_eq_true.1 known
    exact ⟨ch, mem, of_decide_eq_true same⟩
  · exact ⟨_, List.mem_append_right _ (List.mem_singleton_self _), rfl⟩

end Tables

/-! ## Binding channels -/

/-- From `s` to `s'` the entries of these addresses have come to satisfy `P` and `R`, and the
others are as they were. -/
structure Rebinds (P : Ch → Prop) (R : Perm → Prop) (s s' : TurnSession) (addrs : List Peer) :
    Prop where
  clock : s'.clock = s.clock
  keyed : Keyed s → Keyed s'
  stay : ∀ ch ∈ s.chTable, ∃ ch' ∈ s'.chTable, ch'.addr = ch.addr
  channels : ∀ ch' ∈ s'.chTable, ch' ∈ s.chTable ∧ ch'.addr ∉ addrs ∨ ch'.addr ∈ addrs ∧ P ch'
  perms : ∀ perm' ∈ s'.permTable, perm' ∈ s.permTable ∧ perm'.addr ∉ addrs.map Peer.ip ∨
    perm'.addr ∈ addrs.map Peer.ip ∧ R perm'
  marked : ∀ perm' ∈ s'.permTable, perm'.renew →
    ∃ perm ∈ s.permTable, perm.addr = perm'.addr ∧ perm.renew

section Binding

variable {P : Ch → Prop} {R : Perm → Prop} {s s' s'' : TurnSession} {addr : Peer}
  {addrs : List Peer} {ip : List UInt8}

theorem Rebinds.refl (s : TurnSession) : Rebinds P R s s [] where
  clock := rfl
  keyed := id
  stay := fun ch mem => ⟨ch, mem, rfl⟩
  channels := fun _ mem => .inl ⟨mem, nofun⟩
  perms := fun _ mem => .inl ⟨mem, nofun⟩
  marked := fun perm mem renew => ⟨perm, mem, rfl, renew⟩

theorem Rebinds.cons (first : Rebinds P R s s' [addr]) (rest : Rebinds P R s' s'' addrs) :
    Rebinds P R s s'' (addr :: addrs) where
  clock := rest.clock.trans first.clock
  keyed := rest.keyed ∘ first.keyed
  stay := by
    intro ch mem
    obtain ⟨ch', mem', same⟩ := first.stay ch mem
    obtain ⟨ch'', mem'', same'⟩ := rest.stay ch' mem'
    exact ⟨ch'', mem'', same'.trans same⟩
  channels := forall_cons first.channels rest.channels
  perms := forall_cons first.perms rest.perms
  marked := by
    intro perm mem renew
    obtain ⟨perm', mem', same', renew'⟩ := rest.marked perm mem renew
    obtain ⟨perm'', mem'', same'', renew''⟩ := first.marked perm' mem' renew'
    exact ⟨perm'', mem'', same''.trans same', renew''⟩

theorem perms_lookupPerm (s : TurnSession) (ip : List UInt8) :
    ∀ perm' ∈ (lookupPerm s ip).permTable, perm' ∈ s.permTable ∧ perm'.addr ≠ ip ∨
      perm'.addr = ip ∧ perm'.Touched s.clock := by
  refine forall_mod ?_ ?_
  · intro perm _ same
    exact .inr ⟨same, ⟨rfl, rfl⟩⟩
  · intro perm mem other
    rcases mem_with mem with mem | ⟨rfl, -⟩
    · exact .inl ⟨mem, other⟩
    · exact absurd rfl other

theorem marked_lookupPerm (s : TurnSession) (ip : List UInt8) :
    ∀ perm' ∈ (lookupPerm s ip).permTable, perm'.renew →
      ∃ perm ∈ s.permTable, perm.addr = perm'.addr ∧ perm.renew := by
  have here (perm : Perm) (mem : perm ∈ withPerm ip s.permTable) (renew : perm.renew = true) :
      ∃ other ∈ s.permTable, other.addr = perm.addr ∧ other.renew := by
    rcases mem_with mem with mem | ⟨rfl, -⟩
    · exact ⟨perm, mem, rfl, renew⟩
    · nomatch renew
  exact forall_mod (fun perm mem _ => here perm mem) (fun perm mem _ => here perm mem)

theorem nodup_lookupPerm (keyed : (s.permTable.map Perm.addr).Nodup) :
    ((lookupPerm s ip).permTable.map Perm.addr).Nodup :=
  nodup_mod (fun _ => rfl) (nodup_with rfl keyed)

theorem nodup_lookupChByAddr (keyed : (s.chTable.map Ch.addr).Nodup) :
    ((lookupChByAddr s addr).chTable.map Ch.addr).Nodup :=
  nodup_mod (fun _ => rfl) (nodup_with rfl keyed)

theorem stay_lookupChByAddr (s : TurnSession) (addr : Peer) :
    (∃ ch' ∈ (lookupChByAddr s addr).chTable, ch'.addr = addr) ∧
      ∀ ch ∈ s.chTable, ∃ ch' ∈ (lookupChByAddr s addr).chTable, ch'.addr = ch.addr := by
  have kept {a : Peer} (has : ∃ ch ∈ withCh addr s.chTable, ch.addr = a) :
      ∃ ch' ∈ (lookupChByAddr s addr).chTable, ch'.addr = a := by
    have keys : (lookupChByAddr s addr).chTable.map Ch.addr
        = (withCh addr s.chTable).map Ch.addr := keys_mod fun _ => rfl
    exact List.mem_map.1 (keys ▸ List.mem_map.2 has)
  exact ⟨kept (exists_withCh addr s.chTable),
    fun ch mem => kept ⟨ch, subset_withCh addr s.chTable mem, rfl⟩⟩

theorem channels_lookupChByAddr (s : TurnSession) (addr : Peer) :
    ∀ ch' ∈ (lookupChByAddr s addr).chTable, ch' ∈ s.chTable ∧ ch'.addr ≠ addr ∨
      ch'.addr = addr ∧ ch'.expiry = s.clock.renewed ∧ ch'.interval = s.clock.kaInterval ∧
        ((∃ ch ∈ s.chTable, ch.addr = addr ∧ ch.num = ch'.num) ∨
          ∀ ch ∈ s.chTable, ch.addr ≠ addr) := by
  refine forall_mod ?_ ?_
  · intro ch mem same
    refine .inr ⟨same, rfl, rfl, ?_⟩
    rcases mem_with mem with mem | ⟨-, created⟩
    · exact .inl ⟨ch, mem, same, rfl⟩
    · exact .inr created
  · intro ch mem other
    rcases mem_with mem with mem | ⟨rfl, -⟩
    · exact .inl ⟨mem, other⟩
    · exact absurd rfl other

theorem same_of_keyed {table : List Ch} (keyed : (table.map Ch.addr).Nodup) {ch ch' : Ch}
    (mem : ch ∈ table) (mem' : ch' ∈ table) (same : ch.addr = ch'.addr) : ch = ch' :=
  List.inj_on_of_nodup_map keyed mem mem' same

/-- The channel has a number, or there is one left for it. -/
def Numbered (s : TurnSession) (addr : Peer) : Prop :=
  (∃ ch ∈ s.chTable, ch.addr = addr ∧ ch.num ≠ turnInvalidChannel) ∨ s.nextCh ≤ turnChannelMax

def HasNumber (ch : Ch) : Prop := ch.num ≠ turnInvalidChannel

theorem keyed_lookupChByAddr (keyed : Keyed s) : Keyed (lookupChByAddr s addr) :=
  ⟨nodup_lookupChByAddr keyed.channels, nodup_lookupPerm keyed.perms⟩

theorem bindRequest_spec (keyed : Keyed s) (numbered : Numbered s addr) :
    ∃ s' num, bindRequest s addr = (s', [.channelBind num addr])
      ∧ Rebinds HasNumber (Perm.Touched s.clock) s s' [addr]
      ∧ ∃ ch ∈ s'.chTable, ch.addr = addr := by
  have keyed' : Keyed (lookupChByAddr s addr) := keyed_lookupChByAddr keyed
  have entries := channels_lookupChByAddr s addr
  obtain ⟨here, stay⟩ := stay_lookupChByAddr s addr
  have perms : ∀ perm' ∈ (lookupChByAddr s addr).permTable,
      perm' ∈ s.permTable ∧ perm'.addr ∉ [addr].map Peer.ip ∨
        perm'.addr ∈ [addr].map Peer.ip ∧ perm'.Touched s.clock := by
    intro perm mem
    rw [List.map_singleton, List.mem_singleton]
    exact perms_lookupPerm s addr.ip perm mem
  have marked : ∀ perm' ∈ (lookupChByAddr s addr).permTable, perm'.renew →
      ∃ perm ∈ s.permTable, perm.addr = perm'.addr ∧ perm.renew := marked_lookupPerm s addr.ip
  have clock : (lookupChByAddr s addr).clock = s.clock := rfl
  have nextCh : (lookupChByAddr s addr).nextCh = s.nextCh := rfl
  unfold bindRequest
  generalize lookupChByAddr s addr = s₁ at *
  dsimp only
  have others (ch' : Ch) (mem : ch' ∈ s₁.chTable) (other : ch'.addr ≠ addr) :
      ch' ∈ s.chTable ∧ ch'.addr ∉ [addr] := by
    rcases entries ch' mem with ⟨mem, -⟩ | ⟨same, -⟩
    · exact ⟨mem, fun isAddr => other (List.mem_singleton.1 isAddr)⟩
    · exact absurd same other
  cases found : s₁.chTable.find? (·.addr = addr) with
  | none =>
    obtain ⟨ch, mem, same⟩ := here
    exact absurd (decide_eq_true same) (List.find?_eq_none.1 found ch mem)
  | some ch =>
    have mem := List.mem_of_find?_eq_some found
    have same : ch.addr = addr := by
      have holds := List.find?_some found
      exact of_decide_eq_true holds
    dsimp only
    by_cases valid : ch.num ≠ turnInvalidChannel
    · rw [if_pos valid]
      refine ⟨s₁, ch.num, rfl, ⟨clock, fun _ => keyed', stay, ?_, perms, marked⟩, here⟩
      intro ch' mem'
      by_cases same' : ch'.addr = addr
      · obtain rfl := same_of_keyed keyed'.channels mem mem' (same.trans same'.symm)
        exact .inr ⟨List.mem_singleton.2 same, valid⟩
      · exact .inl (others ch' mem' same')
    · -- the channel is new, and gets the next number
      have left_ : s₁.nextCh ≤ turnChannelMax := by
        rw [nextCh]
        refine numbered.resolve_left fun ⟨known, mem', same', isAddr⟩ => ?_
        rcases entries ch mem with ⟨-, other⟩ | ⟨-, -, -, ⟨old, memOld, sameOld, num⟩ | created⟩
        · exact other same
        · obtain rfl := same_of_keyed keyed.channels memOld mem' (sameOld.trans same'.symm)
          exact valid (num ▸ isAddr)
        · exact created known mem' same'
      rw [if_neg valid, if_neg (Nat.not_lt.2 left_)]
      have chKeys : (modCh addr (fun ch => { ch with num := s₁.nextCh }) s₁.chTable).map Ch.addr
          = s₁.chTable.map Ch.addr := keys_mod fun _ => rfl
      refine ⟨_, s₁.nextCh, rfl, ⟨clock, fun _ => ⟨?_, keyed'.perms⟩, ?_, ?_, perms, marked⟩, ?_⟩
      · dsimp only
        rw [chKeys]
        exact keyed'.channels
      · intro old memOld
        have kept := List.mem_map.2 (stay old memOld)
        rw [← chKeys] at kept
        exact List.mem_map.1 kept
      · refine forall_mod ?_ fun ch' mem' other => .inl (others ch' mem' other)
        intro ch' _ same'
        refine .inr ⟨List.mem_singleton.2 same', ?_⟩
        show s₁.nextCh ≠ 65535
        unfold turnChannelMax at left_
        omega
      · have mem' := List.mem_map.2 here
        rw [← chKeys] at mem'
        exact List.mem_map.1 mem'

/-- There is a channel of the address, and it has a number. -/
def HasChannel (s : TurnSession) (addr : Peer) : Prop :=
  (∃ ch ∈ s.chTable, ch.addr = addr) ∧ ∀ ch ∈ s.chTable, ch.addr = addr → HasNumber ch

theorem HasChannel.numbered (has : HasChannel s addr) : Numbered s addr := by
  obtain ⟨⟨ch, mem, same⟩, all⟩ := has
  exact .inl ⟨ch, mem, same, all ch mem same⟩

theorem Rebinds.hasChannel (rebinds : Rebinds P R s s' addrs) (number : ∀ ch, P ch → HasNumber ch)
    {a : Peer} (has : HasChannel s a) : HasChannel s' a := by
  obtain ⟨⟨ch, mem, same⟩, all⟩ := has
  obtain ⟨ch', mem', same'⟩ := rebinds.stay ch mem
  refine ⟨⟨ch', mem', same'.trans same⟩, fun ch mem same => ?_⟩
  rcases rebinds.channels ch mem with ⟨old, -⟩ | ⟨-, holds⟩
  · exact all ch old same
  · exact number ch holds

/-- The requests bind these channels. -/
def BindReqs : List TurnRequest → List Peer → Prop :=
  List.Forall₂ fun req addr => ∃ num, req = .channelBind num addr

theorem bindAll_spec {chs : List Ch} (keyed : Keyed s) (known : ∀ ch ∈ chs, HasChannel s ch.addr) :
    ∃ s' reqs, bindAll s chs = (s', reqs) ∧ BindReqs reqs (chs.map Ch.addr)
      ∧ Rebinds HasNumber (Perm.Touched s.clock) s s' (chs.map Ch.addr) := by
  induction chs generalizing s with
  | nil => exact ⟨s, [], rfl, .nil, .refl s⟩
  | cons ch rest ih =>
    obtain ⟨s₁, num, sent, first, -⟩ :=
      bindRequest_spec keyed (known ch List.mem_cons_self).numbered
    have later : ∀ other ∈ rest, HasChannel s₁ other.addr := fun other mem =>
      first.hasChannel (fun _ => id) (known other (List.mem_cons_of_mem _ mem))
    obtain ⟨s₂, reqs, all, binds, others⟩ := ih (first.keyed keyed) later
    rw [first.clock] at others
    refine ⟨s₂, .channelBind num ch.addr :: reqs, ?_, .cons ⟨num, rfl⟩ binds, first.cons others⟩
    unfold bindAll
    rw [sent]
    dsimp only
    rw [all]
    rfl

/-- The server was asked for it now. -/
structure Perm.Installed (c : Clock) (perm : Perm) : Prop extends perm.Touched c where
  since : perm.since = c.now

theorem bound_spec (lifetime : UInt32) (num : Nat) (has : HasChannel s addr) :
    Rebinds (Ch.Installed s.clock) (Perm.Installed s.clock) s
      (onRequestComplete lifetime s (.channelBind num addr)) [addr] := by
  obtain ⟨⟨known, memKnown, sameKnown⟩, all⟩ := has
  -- the channel marked as bound
  let s₁ : TurnSession := { s with
    chTable := modCh addr (fun ch => { ch with bound := true }) s.chTable }
  have keys₁ : s₁.chTable.map Ch.addr = s.chTable.map Ch.addr := keys_mod fun _ => rfl
  have numbers : ∀ ch ∈ s₁.chTable, ch ∈ s.chTable ∧ ch.addr ≠ addr ∨
      ch.addr = addr ∧ HasNumber ch :=
    forall_mod (fun ch mem same => .inr ⟨same, all ch mem same⟩)
      (fun ch mem other => .inl ⟨mem, other⟩)
  have entries := channels_lookupChByAddr s₁ addr
  have stay := (stay_lookupChByAddr s₁ addr).2
  have chKeys : (onRequestComplete lifetime s (.channelBind num addr)).chTable.map Ch.addr
      = (lookupChByAddr s₁ addr).chTable.map Ch.addr := keys_mod fun _ => rfl
  refine ⟨rfl, fun keyed => ⟨?_, ?_⟩, ?_, ?_, ?_, ?_⟩
  · rw [chKeys]
    exact nodup_lookupChByAddr (keys₁ ▸ keyed.channels)
  · exact nodup_mod (fun _ => rfl) (nodup_lookupPerm keyed.perms)
  · intro ch mem
    have mem₁ : ch.addr ∈ s₁.chTable.map Ch.addr := keys₁ ▸ List.mem_map_of_mem mem
    obtain ⟨ch₁, mem₁, same₁⟩ := List.mem_map.1 mem₁
    have mem₂ := List.mem_map.2 (stay ch₁ mem₁)
    rw [← chKeys, same₁] at mem₂
    exact List.mem_map.1 mem₂
  · refine forall_mod ?_ ?_
    · intro ch mem same
      refine .inr ⟨List.mem_singleton.2 same, ?_⟩
      rcases entries ch mem with
        ⟨-, other⟩ | ⟨-, expiry, interval, ⟨old, memOld, sameOld, num⟩ | created⟩
      · exact absurd same other
      · refine ⟨?_, expiry, interval, rfl⟩
        rcases numbers old memOld with ⟨-, other⟩ | ⟨-, number⟩
        · exact absurd sameOld other
        · exact num ▸ number
      · have mem₁ : addr ∈ s₁.chTable.map Ch.addr := by
          rw [keys₁, ← sameKnown]
          exact List.mem_map_of_mem memKnown
        obtain ⟨ch₁, mem₁, same₁⟩ := List.mem_map.1 mem₁
        exact absurd same₁ (created ch₁ mem₁)
    · intro ch mem other
      rcases entries ch mem with ⟨mem, -⟩ | ⟨same, -⟩
      · rcases numbers ch mem with ⟨mem, -⟩ | ⟨same, -⟩
        · exact .inl ⟨mem, fun isAddr => other (List.mem_singleton.1 isAddr)⟩
        · exact absurd same other
      · exact absurd same other
  · have perms := perms_lookupPerm s₁ addr.ip
    refine forall_mod ?_ ?_
    · intro perm mem same
      refine .inr ⟨List.mem_singleton.2 same, ?_⟩
      rcases perms perm mem with ⟨-, other⟩ | ⟨-, expiry, interval⟩
      · exact absurd same other
      · exact ⟨⟨expiry, interval⟩, rfl⟩
    · intro perm mem other
      rcases perms perm mem with ⟨mem, -⟩ | ⟨same, -⟩
      · exact .inl ⟨mem, fun isAddr => other (List.mem_singleton.1 isAddr)⟩
      · exact absurd same other
  · have marked := marked_lookupPerm s₁ addr.ip
    exact forall_mod (fun perm mem _ => marked perm mem) (fun perm mem _ => marked perm mem)

theorem bound_all (lifetime : UInt32) {reqs : List TurnRequest} (binds : BindReqs reqs addrs)
    (has : ∀ addr ∈ addrs, HasChannel s addr) :
    Rebinds (Ch.Installed s.clock) (Perm.Installed s.clock) s
      (reqs.foldl (onRequestComplete lifetime) s) addrs := by
  induction binds generalizing s with
  | nil => exact .refl s
  | @cons req addr reqs addrs bind _ ih =>
    obtain ⟨num, rfl⟩ := bind
    have first := bound_spec lifetime num (has addr List.mem_cons_self)
    have rest := ih fun other mem => first.hasChannel (fun _ installed => installed.num)
      (has other (List.mem_cons_of_mem _ mem))
    exact first.cons rest

end Binding

/-! ## Setting permissions -/

section Permissions

variable {c : Clock} {s : TurnSession} {table : List Perm} {token : Nat} {ips : List (List UInt8)}

/-- While permissions are being set: what was there, or what was touched and has the token. -/
def Staged (c : Clock) (table : List Perm) (token : Nat) (ips : List (List UInt8)) (perm : Perm) :
    Prop :=
  perm ∈ table ∧ perm.addr ∉ ips ∨ perm.Touched c ∧ perm.reqToken = token ∧ perm.addr ∈ ips

theorem token_lookupPerm (s : TurnSession) (ip : List UInt8) :
    ∀ perm' ∈ (lookupPerm s ip).permTable, perm'.addr = ip →
      (∃ perm ∈ s.permTable, perm.addr = ip ∧ perm.reqToken = perm'.reqToken) ∨
        perm'.reqToken = 0 := by
  have here (perm : Perm) (mem : perm ∈ withPerm ip s.permTable) (same : perm.addr = ip) :
      (∃ other ∈ s.permTable, other.addr = ip ∧ other.reqToken = perm.reqToken) ∨
        perm.reqToken = 0 := by
    rcases mem_with mem with mem | ⟨rfl, -⟩
    · exact .inl ⟨perm, mem, same, rfl⟩
    · exact .inr rfl
  exact forall_mod (fun perm mem same _ => here perm mem same)
    (fun perm mem _ same => here perm mem same)

/-- What the loop keeps, for the addresses `ips` so far. -/
structure Setting (c : Clock) (chs : List Ch) (table : List Perm) (token : Nat)
    (ips : List (List UInt8)) (s : TurnSession) : Prop where
  clock : s.clock = c
  chTable : s.chTable = chs
  keyed : (s.permTable.map Perm.addr).Nodup
  staged : ∀ perm ∈ s.permTable, Staged c table token ips perm

theorem addPeers_spec {chs : List Ch} (fresh : token ≠ 0 ∧ ∀ perm ∈ table, perm.reqToken ≠ token)
    (renew : Bool) (count : Nat) (addrs : List Peer)
    (setting : Setting c chs table token ips s) :
    (∃ s', addPeers renew token s count addrs = (s', none) ∧
        ∃ ips', Setting c chs table token ips' s') ∨
      ∃ s' peers, addPeers renew token s count addrs = (s', some peers) ∧
        Setting c chs table token (ips ++ peers.map Peer.ip) s' := by
  induction addrs generalizing s count ips with
  | nil =>
    refine .inr ⟨s, [], rfl, ?_⟩
    rwa [List.map_nil, List.append_nil]
  | cons addr rest ih =>
    -- the permission is looked up, and marked as the caller wants it
    let s₁ := markPerm s renew addr.ip
    have keyed₁ : (s₁.permTable.map Perm.addr).Nodup :=
      nodup_mod (fun _ => rfl) (nodup_lookupPerm setting.keyed)
    have entries : ∀ perm ∈ s₁.permTable, perm ∈ s.permTable ∧ perm.addr ≠ addr.ip ∨
        perm.addr = addr.ip ∧ perm.Touched c ∧ (perm.reqToken = token → addr.ip ∈ ips) := by
      have touched := perms_lookupPerm s addr.ip
      have tokens := token_lookupPerm s addr.ip
      rw [setting.clock] at touched
      refine forall_mod ?_ ?_
      · intro perm mem same
        refine .inr ⟨same, ?_, ?_⟩
        · rcases touched perm mem with ⟨-, other⟩ | ⟨-, expiry, interval⟩
          · exact absurd same other
          · exact ⟨expiry, interval⟩
        · intro has
          rcases tokens perm mem same with ⟨old, memOld, sameOld, tokenOld⟩ | zero
          · rcases setting.staged old memOld with ⟨inTable, -⟩ | ⟨-, -, staged⟩
            · exact absurd (tokenOld.trans has) (fresh.2 old inTable)
            · exact sameOld ▸ staged
          · exact absurd (has.symm.trans zero) fresh.1
      · intro perm mem other
        rcases touched perm mem with ⟨mem, -⟩ | ⟨same, -⟩
        · exact .inl ⟨mem, other⟩
        · exact absurd same other
    have others (ips' : List (List UInt8)) (perm : Perm) (mem : perm ∈ s.permTable)
        (other : perm.addr ≠ addr.ip) (more : ∀ ip, ip ∈ ips' ↔ ip ∈ ips ∨ ip = addr.ip) :
        Staged c table token ips' perm := by
      rcases setting.staged perm mem with ⟨inTable, not_⟩ | ⟨touched, has, staged⟩
      · exact .inl ⟨inTable, fun mem' => ((more _).1 mem').elim not_ other⟩
      · exact .inr ⟨touched, has, (more _).2 (.inl staged)⟩
    have unfolded : addPeers renew token s count (addr :: rest) =
        if hasReqToken s₁ token addr.ip then addPeers renew token s₁ count rest
        else if stunMaxAttr ≤ count then (setReqToken s₁ token addr.ip, none)
        else ((addPeers renew token (setReqToken s₁ token addr.ip) (count + 1) rest).1,
          (addPeers renew token (setReqToken s₁ token addr.ip) (count + 1) rest).2.map
            (addr :: ·)) := rfl
    rw [unfolded]
    by_cases contained : hasReqToken s₁ token addr.ip = true
    · -- the address is in the request, and stays touched
      obtain ⟨old, memOld, isOld⟩ := List.any_eq_true.1 contained
      obtain ⟨sameOld, tokenOld⟩ := of_decide_eq_true isOld
      have known : addr.ip ∈ ips := by
        rcases entries old memOld with ⟨-, other⟩ | ⟨-, -, staged⟩
        · exact absurd sameOld other
        · exact staged tokenOld
      have setting₁ : Setting c chs table token ips s₁ := by
        refine ⟨setting.clock, setting.chTable, keyed₁, fun perm mem => ?_⟩
        rcases entries perm mem with ⟨mem', other⟩ | ⟨same, touched, -⟩
        · refine others ips perm mem' other fun ip => ⟨.inl, ?_⟩
          rintro (staged | rfl)
          · exact staged
          · exact known
        · have this := List.inj_on_of_nodup_map keyed₁ mem memOld (same.trans sameOld.symm)
          exact .inr ⟨touched, this ▸ tokenOld, same ▸ known⟩
      rw [if_pos contained]
      exact ih count setting₁
    · have setting₂ : Setting c chs table token (ips ++ [addr.ip])
          (setReqToken s₁ token addr.ip) := by
        refine ⟨setting.clock, setting.chTable, ?_, ?_⟩
        · exact nodup_mod (fun _ => rfl) keyed₁
        · have more (ip : List UInt8) : ip ∈ ips ++ [addr.ip] ↔ ip ∈ ips ∨ ip = addr.ip := by
            rw [List.mem_append, List.mem_singleton]
          refine forall_mod ?_ ?_
          · intro perm mem same
            rcases entries perm mem with ⟨-, other⟩ | ⟨-, ⟨expiry, interval⟩, -⟩
            · exact absurd same other
            · exact .inr ⟨⟨expiry, interval⟩, rfl, (more _).2 (.inr same)⟩
          · intro perm mem other
            rcases entries perm mem with ⟨mem', -⟩ | ⟨same, -⟩
            · exact others _ perm mem' other more
            · exact absurd same other
      rw [if_neg contained]
      by_cases full : stunMaxAttr ≤ count
      · rw [if_pos full]
        exact .inl ⟨_, rfl, _, setting₂⟩
      · rw [if_neg full]
        rcases ih (count + 1) setting₂ with ⟨s', result, ips', done⟩ | ⟨s', peers, result, done⟩
        · refine .inl ⟨s', ?_, ips', done⟩
          rw [result]
          rfl
        · refine .inr ⟨s', addr :: peers, ?_, ?_⟩
          · rw [result]
            rfl
          · rwa [List.append_assoc] at done

/-- After a call that set permissions: what was there, or what the server was asked for. -/
structure PermsSet (s s' : TurnSession) : Prop where
  clock : s'.clock = s.clock
  chTable : s'.chTable = s.chTable
  keyed : (s'.permTable.map Perm.addr).Nodup
  perms : ∀ perm ∈ s'.permTable, perm ∈ s.permTable ∨ perm.Installed s.clock

theorem Setting.invalidated {s' : TurnSession}
    (setting : Setting s.clock s.chTable s.permTable token ips s') :
    PermsSet s (invalidatePerms s' token) := by
  refine ⟨setting.clock, setting.chTable, ?_, ?_⟩
  · exact setting.keyed.sublist (List.filter_sublist.map Perm.addr)
  · intro perm mem
    obtain ⟨mem, other⟩ := List.mem_filter.1 mem
    rcases setting.staged perm mem with ⟨inTable, -⟩ | ⟨-, has, -⟩
    · exact .inl inTable
    · exact absurd has (of_decide_eq_true other)

theorem setPerm_spec (canSend : List Peer → Bool) (keyed : Keyed s) (fresh : FreshToken s token)
    (addrs : List Peer) (renew : Bool) :
    PermsSet s (answered 0 (setPerm canSend s addrs renew token)).1 := by
  have setting : Setting s.clock s.chTable s.permTable token [] s :=
    ⟨rfl, rfl, keyed.perms, fun perm mem => .inl ⟨mem, nofun⟩⟩
  unfold setPerm
  rcases addPeers_spec fresh renew 0 addrs setting with
    ⟨s', result, ips', done⟩ | ⟨s', peers, result, done⟩
  · rw [result]
    exact done.invalidated
  · rw [result]
    rw [List.nil_append] at done
    cases peers with
    | nil =>
      refine ⟨done.clock, done.chTable, done.keyed, fun perm mem => ?_⟩
      rcases done.staged perm mem with ⟨inTable, -⟩ | ⟨-, -, nobody⟩
      · exact .inl inTable
      · nomatch nobody
    | cons addr rest =>
      dsimp only
      split
      · -- the request is answered
        refine ⟨done.clock, done.chTable, ?_, ?_⟩
        · show ((s'.permTable.map _).map Perm.addr).Nodup
          rw [List.map_map]
          refine (congrArg List.Nodup (List.map_congr_left fun perm _ => ?_)).mp done.keyed
          show perm.addr = (if _ then _ else perm : Perm).addr
          split <;> rfl
        · intro perm mem
          obtain ⟨old, memOld, rfl⟩ := List.mem_map.1 mem
          rcases done.staged old memOld with ⟨inTable, not_⟩ | ⟨touched, -, staged⟩
          · rw [if_neg not_]
            exact .inl inTable
          · rw [if_pos staged]
            have clock : s'.now = s.now := congrArg Clock.now done.clock
            exact .inr ⟨⟨touched.expiry, touched.interval⟩, clock⟩
      · exact done.invalidated

end Permissions

/-! ## The timer -/

variable {lifetime : UInt32}

section Timer

variable {s : TurnSession} {token : Nat}

theorem refreshLoop_spec (s : TurnSession) (token : Nat) (table : List Perm) (count : Nat)
    (room : count + (table.filter (renewal s.now)).length ≤ stunMaxAttr) :
    ∃ table', refreshLoop s token count table =
        (table', (table.filter (renewal s.now)).map fun perm => ⟨perm.addr, 0⟩, true)
      ∧ (table'.map Perm.addr).Sublist (table.map Perm.addr)
      ∧ ∀ perm' ∈ table', perm' ∈ table ∧ perm'.due s.now = false ∨ perm'.Touched s.clock ∧
            ∃ perm ∈ table, perm.addr = perm'.addr ∧ renewal s.now perm = true := by
  induction table generalizing count with
  | nil => exact ⟨[], rfl, .slnil, (by simp)⟩
  | cons perm rest ih =>
    have others {table' : List Perm} (entries : ∀ perm' ∈ table',
          perm' ∈ rest ∧ perm'.due s.now = false ∨ perm'.Touched s.clock ∧
            ∃ perm ∈ rest, perm.addr = perm'.addr ∧ renewal s.now perm = true) :
        ∀ perm' ∈ table', perm' ∈ perm :: rest ∧ perm'.due s.now = false ∨ perm'.Touched s.clock ∧
            ∃ other ∈ perm :: rest, other.addr = perm'.addr ∧ renewal s.now other = true := by
      intro perm' mem
      rcases entries perm' mem with ⟨mem', due⟩ | ⟨touched, old, memOld, holds⟩
      · exact .inl ⟨List.mem_cons_of_mem _ mem', due⟩
      · exact .inr ⟨touched, old, List.mem_cons_of_mem _ memOld, holds⟩
    cases due : perm.due s.now with
    | false =>
      have skipped : renewal s.now perm = false := by
        unfold renewal
        rw [due, Bool.false_and]
      rw [List.filter_cons_of_neg (by rw [skipped]; simp)] at room ⊢
      obtain ⟨table', result, keys, entries⟩ := ih count room
      refine ⟨perm :: table', ?_, keys.cons_cons _, ?_⟩
      · simp only [refreshLoop, due, Bool.false_eq_true, if_false, result]
      · intro perm' mem
        rcases List.mem_cons.1 mem with rfl | mem
        · exact .inl ⟨List.mem_cons_self, due⟩
        · exact others entries perm' mem
    | true =>
      cases renew : perm.renew with
      | false =>
        -- deleted
        have skipped : renewal s.now perm = false := by
          unfold renewal
          rw [renew, Bool.and_false]
        rw [List.filter_cons_of_neg (by rw [skipped]; simp)] at room ⊢
        obtain ⟨table', result, keys, entries⟩ := ih count room
        refine ⟨table', ?_, keys.cons _, others entries⟩
        simp only [refreshLoop, due, renew, Bool.false_eq_true, if_true, if_false, result]
      | true =>
        have chosen : renewal s.now perm = true := by
          unfold renewal
          rw [due, renew, Bool.and_true]
        rw [List.filter_cons_of_pos chosen] at room ⊢
        rw [List.length_cons] at room
        obtain ⟨table', result, keys, entries⟩ := ih (count + 1) (by omega)
        have fits : ¬ stunMaxAttr ≤ count := by omega
        let renewed : Perm := { perm with
          expiry := s.renewedExpiry, interval := s.kaInterval, reqToken := token }
        refine ⟨renewed :: table', ?_, keys.cons_cons _, ?_⟩
        · unfold refreshLoop
          rw [if_pos due, if_pos renew, if_neg fits, result]
          rfl
        · intro perm' mem
          rcases List.mem_cons.1 mem with rfl | mem
          · exact .inr ⟨⟨rfl, rfl⟩, perm, List.mem_cons_self, rfl, chosen⟩
          · exact others entries perm' mem

theorem mem_toRenew {ip : List UInt8} : ip ∈ (toRenew s).map Peer.ip ↔
    ∃ perm ∈ s.permTable, perm.addr = ip ∧ renewal s.now perm = true := by
  unfold toRenew
  rw [List.map_map, List.mem_map]
  constructor
  · rintro ⟨perm, mem, rfl⟩
    obtain ⟨mem, chosen⟩ := List.mem_filter.1 mem
    exact ⟨perm, mem, rfl, chosen⟩
  · rintro ⟨perm, mem, rfl, chosen⟩
    exact ⟨perm, List.mem_filter.2 ⟨mem, chosen⟩, rfl⟩

/-- What is due and marked is asked for, what is due and not marked is deleted. -/
theorem refreshPermissions_spec (canSend : List Peer → Bool) (token : Nat) (keyed : Keyed s)
    (room : toRenew s = [] ∨ (toRenew s).length ≤ stunMaxAttr ∧ canSend (toRenew s) = true) :
    ∃ s', refreshPermissions canSend s token =
        (s', if toRenew s = [] then [] else [.createPermission (toRenew s)])
      ∧ s'.clock = s.clock ∧ s'.chTable = s.chTable ∧ s'.allocKaInterval = s.allocKaInterval
      ∧ Keyed s'
      ∧ ∀ perm' ∈ s'.permTable, (perm' ∈ s.permTable ∧ perm'.due s.now = false ∧
              perm'.addr ∉ (toRenew s).map Peer.ip) ∨
            perm'.Touched s.clock ∧ perm'.addr ∈ (toRenew s).map Peer.ip := by
  have fits : 0 + (s.permTable.filter (renewal s.now)).length ≤ stunMaxAttr := by
    have length : (toRenew s).length = (s.permTable.filter (renewal s.now)).length :=
      List.length_map _
    rcases room with nothing | ⟨short, -⟩
    · rw [nothing, List.length_nil] at length
      rw [← length]
      exact Nat.zero_le _
    · omega
  obtain ⟨table', result, keys, entries⟩ := refreshLoop_spec s token s.permTable 0 fits
  refine ⟨{ s with permTable := table' }, ?_, rfl, rfl, rfl,
    ⟨keyed.channels, keyed.perms.sublist keys⟩, ?_⟩
  · unfold refreshPermissions
    rw [result]
    show (if true = true ∧ toRenew s ≠ [] ∧ canSend (toRenew s) = true then _ else _) = _
    by_cases nothing : toRenew s = []
    · rw [if_neg fun all => all.2.1 nothing, if_pos nothing]
    · rw [if_pos ⟨rfl, nothing, (room.resolve_left nothing).2⟩, if_neg nothing]
      rfl
  · intro perm' mem
    rcases entries perm' mem with ⟨mem', due⟩ | ⟨touched, perm, memPerm, same, chosen⟩
    · refine .inl ⟨mem', due, fun asked => ?_⟩
      obtain ⟨perm, memPerm, same, chosen⟩ := mem_toRenew.1 asked
      obtain rfl := List.inj_on_of_nodup_map keyed.perms memPerm mem' same
      unfold renewal at chosen
      rw [due] at chosen
      nomatch chosen
    · exact .inr ⟨touched, mem_toRenew.2 ⟨perm, memPerm, same, chosen⟩⟩

/-- The difference is negative for a LIFETIME below 60, and as an `int` also for one from
2^31 + 60 on. -/
theorem timeout_le (lifetime : UInt32) {timeout : Int}
    (difference : timeout = i32 ((lifetime - turnRefreshSecBefore).toNat : Int))
    (later : 15 ≤ timeout) : timeout.toNat + 15 ≤ lifetime.toNat := by
  have value : (lifetime - turnRefreshSecBefore).toNat = (2 ^ 32 - 60 + lifetime.toNat) % 2 ^ 32 :=
    UInt32.toNat_sub lifetime turnRefreshSecBefore
  unfold i32 Int.bmod at difference
  dsimp only at difference
  split at difference <;> omega

/-- The three subtractions: the timer expires before the lifetime is over, unless the LIFETIME
is 15. -/
theorem onAllocateSuccess_spec (s : TurnSession) (three : 3 ≤ lifetime)
    (other : lifetime ≠ 15) (ready : s.ready = true) :
    ∃ s', onAllocateSuccess s lifetime = s' ∧ s'.chTable = s.chTable ∧ s'.permTable = s.permTable
      ∧ s'.clock.now = s.clock.now ∧ s'.clock.kaInterval = kaIntervalFor lifetime
      ∧ s'.clock.Kept (s.now + kaIntervalFor lifetime * 1000) := by
  have three' : 3 ≤ lifetime.toNat := UInt32.le_iff_toNat_le.1 three
  have other' : lifetime.toNat ≠ 15 := fun same => other (UInt32.toNat_inj.1 same)
  have bound := lifetime.toNat_lt
  have nonzero : lifetime ≠ 0 := by
    rintro rfl
    nomatch three'
  have big : ¬ lifetime ≤ 2 := by
    show ¬ lifetime.toNat ≤ 2
    omega
  refine ⟨_, rfl, ?_⟩
  unfold onAllocateSuccess kaIntervalFor
  rw [if_neg nonzero]
  by_cases short : lifetime.toNat < turnKeepAliveSec
  · rw [if_pos short, if_neg big, if_pos short]
    have fifteen : turnKeepAliveSec = 15 := rfl
    refine ⟨rfl, rfl, rfl, rfl, ready, ?_, rfl, ?_, ?_, lifetime.toNat - 2 - 1, rfl, ?_⟩
    all_goals dsimp only [TurnSession.clock]; omega
  · rw [if_neg short, if_neg short]
    have fifteen : turnKeepAliveSec = 15 := rfl
    rw [fifteen] at short ⊢
    generalize difference : i32 ((lifetime - turnRefreshSecBefore).toNat : Int) = timeout
    have early := timeout_le lifetime difference.symm
    refine ⟨rfl, rfl, rfl, rfl, ready, ?_, rfl, ?_, ?_, _, rfl, ?_⟩
    all_goals dsimp only [TurnSession.clock]
    · omega
    · omega
    · omega
    · refine ⟨Nat.le_refl _, ?_⟩
      split <;> omega

/-- The timer has expired: the channels that were due are bound again, in `s₁`, and then the
permissions are renewed, in `s₂`. -/
structure Scanned (s s₁ s₂ : TurnSession) (bindReqs : List TurnRequest) : Prop where
  binds : BindReqs bindReqs ((s.chTable.filter (Ch.due s.now)).map Ch.addr)
  rebinds : Rebinds HasNumber (Perm.Touched s.clock) s s₁
    ((s.chTable.filter (Ch.due s.now)).map Ch.addr)
  known : ∀ addr ∈ (s.chTable.filter (Ch.due s.now)).map Ch.addr, HasChannel s₁ addr
  clock : s₂.clock = s₁.clock
  keyed : Keyed s₂
  chTable : s₂.chTable = s₁.chTable
  perms : ∀ perm ∈ s₂.permTable,
    (perm ∈ s₁.permTable ∧ perm.due s₁.now = false ∧ perm.addr ∉ (toRenew s₁).map Peer.ip) ∨
      perm.Touched s₁.clock ∧ perm.addr ∈ (toRenew s₁).map Peer.ip

/-- The request for the permissions, if there is any to be renewed. -/
def permReqs (peers : List Peer) : List TurnRequest :=
  if peers = [] then [] else [.createPermission peers]

theorem scan (canSend : List Peer → Bool) (token : Nat) (keyed : Keyed s)
    (numbers : ∀ ch ∈ s.chTable, ch.bound → HasNumber ch)
    (room : toRenew (bindAll s (s.chTable.filter (Ch.due s.now))).1 = [] ∨
      (toRenew (bindAll s (s.chTable.filter (Ch.due s.now))).1).length ≤ stunMaxAttr ∧
        canSend (toRenew (bindAll s (s.chTable.filter (Ch.due s.now))).1) = true) :
    ∃ s₁ s₂ bindReqs, bindAll s (s.chTable.filter (Ch.due s.now)) = (s₁, bindReqs)
      ∧ refreshPermissions canSend s₁ token = (s₂, permReqs (toRenew s₁))
      ∧ Scanned s s₁ s₂ bindReqs := by
  have known : ∀ ch ∈ s.chTable.filter (Ch.due s.now), HasChannel s ch.addr := by
    intro ch mem
    obtain ⟨mem, due⟩ := List.mem_filter.1 mem
    refine ⟨⟨ch, mem, rfl⟩, fun other memOther same => ?_⟩
    obtain rfl := same_of_keyed keyed.channels memOther mem same
    exact numbers other mem (of_decide_eq_true due).1
  obtain ⟨s₁, bindReqs, bound, binds, rebinds⟩ := bindAll_spec keyed known
  rw [bound] at room
  obtain ⟨s₂, refreshed, clock, chTable, -, keyed₂, perms⟩ :=
    refreshPermissions_spec canSend token (rebinds.keyed keyed) room
  refine ⟨s₁, s₂, bindReqs, bound, refreshed, binds, rebinds, ?_, clock, keyed₂, chTable, perms⟩
  intro addr mem
  obtain ⟨ch, memCh, rfl⟩ := List.mem_map.1 mem
  exact rebinds.hasChannel (fun _ => id) (known ch memCh)

theorem permReqs_answered (lifetime : UInt32) (s : TurnSession) (peers : List Peer) :
    ((permReqs peers).foldl (onRequestComplete lifetime) s).clock = s.clock
      ∧ ((permReqs peers).foldl (onRequestComplete lifetime) s).chTable = s.chTable
      ∧ (Keyed s → Keyed ((permReqs peers).foldl (onRequestComplete lifetime) s))
      ∧ ∀ perm ∈ ((permReqs peers).foldl (onRequestComplete lifetime) s).permTable,
          ∃ old ∈ s.permTable, perm =
            if old.addr ∈ peers.map Peer.ip then { old with since := s.now } else old := by
  unfold permReqs
  by_cases nothing : peers = []
  · rw [if_pos nothing, nothing]
    refine ⟨rfl, rfl, id, fun perm mem => ⟨perm, mem, ?_⟩⟩
    exact (if_neg List.not_mem_nil).symm
  · rw [if_neg nothing]
    refine ⟨rfl, rfl, fun keyed => ⟨keyed.channels, ?_⟩, fun perm mem => ?_⟩
    · show ((s.permTable.map _).map Perm.addr).Nodup
      rw [List.map_map]
      refine (congrArg List.Nodup (List.map_congr_left fun perm _ => ?_)).mp keyed.perms
      show perm.addr = (if _ then _ else perm : Perm).addr
      split <;> rfl
    · obtain ⟨old, mem, same⟩ := List.mem_map.1 mem
      exact ⟨old, mem, same.symm⟩

variable {bindReqs : List TurnRequest}

/-- When the timer runs again, from `s₃` on, and the requests have been answered, everything is
ahead for another interval. -/
theorem Scanned.kept {s₁ s₂ s₃ : TurnSession} (lifetime : UInt32)
    (scanned : Scanned s s₁ s₂ bindReqs) (short : s.kaInterval ≤ 15)
    (channels : ∀ ch ∈ s.chTable, ch.bound → ch.Kept s.kaInterval s.now)
    (perms : ∀ perm ∈ s.permTable, perm.renew → perm.Kept s.kaInterval s.now)
    (chTable : s₃.chTable = s₂.chTable) (permTable : s₃.permTable = s₂.permTable)
    (now : s₃.clock.now = s.now) (clock : s₃.clock.Kept (s.now + s₃.clock.kaInterval * 1000))
    (suits : Suits s s₃.clock.kaInterval) :
    Kept (s.now + s₃.clock.kaInterval * 1000)
      ((bindReqs ++ permReqs (toRenew s₁)).foldl (onRequestComplete lifetime) s₃) := by
  have known : ∀ addr ∈ (s.chTable.filter (Ch.due s.now)).map Ch.addr, HasChannel s₃ addr := by
    intro addr mem
    unfold HasChannel
    rw [chTable, scanned.chTable]
    exact scanned.known addr mem
  have answered := bound_all lifetime scanned.binds known
  have keyed₃ : Keyed s₃ :=
    ⟨chTable ▸ scanned.keyed.channels, permTable ▸ scanned.keyed.perms⟩
  rw [List.foldl_append]
  generalize bindReqs.foldl (onRequestComplete lifetime) s₃ = s₄ at answered
  obtain ⟨clock₅, chTable₅, keyed₅, perms₅⟩ := permReqs_answered lifetime s₄ (toRenew s₁)
  generalize (permReqs (toRenew s₁)).foldl (onRequestComplete lifetime) s₄ = s₅ at *
  have clock₅₃ : s₅.clock = s₃.clock := clock₅.trans answered.clock
  have now₄ : s₄.now = s₃.clock.now := congrArg Clock.now answered.clock
  have interval₅ : s₅.kaInterval = s₃.clock.kaInterval := congrArg Clock.kaInterval clock₅₃
  have clock₁ : s₁.clock = s.clock := scanned.rebinds.clock
  have now₁ : s₁.now = s.now := congrArg Clock.now clock₁
  have short₃ := clock.interval.2
  have future : s.now + s₃.clock.kaInterval * 1000 ≤ s₃.clock.now + s₃.clock.kaInterval * 1000 := by
    rw [now]
  -- what was not due has another interval, what was due has been answered
  refine ⟨clock₅₃ ▸ clock, keyed₅ (answered.keyed keyed₃), ?_, ?_⟩
  · rw [chTable₅, interval₅]
    intro ch mem bound
    rcases answered.channels ch mem with ⟨mem, notDue⟩ | ⟨-, installed⟩
    · rw [chTable, scanned.chTable] at mem
      rcases scanned.rebinds.channels ch mem with ⟨mem, -⟩ | ⟨due, -⟩
      · have kept := channels ch mem bound
        have later : ch.due s.now = false := by
          rw [Bool.eq_false_iff]
          intro due
          exact notDue (List.mem_map_of_mem (List.mem_filter.2 ⟨mem, due⟩))
        have ahead : ¬ ch.expiry ≤ s.now := fun early => of_decide_eq_false later ⟨bound, early⟩
        exact ⟨kept.num, kept.interval, kept.backed, by omega, suits.channels ch mem bound later⟩
      · exact absurd due notDue
    · exact installed.kept short₃ future
  · rw [interval₅]
    intro perm mem renew
    obtain ⟨old, memOld, rfl⟩ := perms₅ perm mem
    rcases answered.perms old memOld with ⟨mem, apart⟩ | ⟨-, installed⟩
    · -- its address is not that of a channel that was bound again
      rw [permTable] at mem
      have apart' : ∀ ch ∈ s.chTable, ch.due s.now → ch.addr.ip ≠ old.addr := by
        intro ch mem due same
        exact apart (same ▸ List.mem_map_of_mem
          (List.mem_map_of_mem (List.mem_filter.2 ⟨mem, due⟩)))
      have inSession {other : Perm} (mem : other ∈ s₁.permTable) (same : other.addr = old.addr) :
          other ∈ s.permTable := by
        rcases scanned.rebinds.perms other mem with ⟨mem, -⟩ | ⟨due, -⟩
        · exact mem
        · exact absurd (same ▸ due) apart
      rcases scanned.perms old mem with ⟨mem, later, unasked⟩ | ⟨touched, asked⟩
      · rw [if_neg unasked] at renew ⊢
        have mem := inSession mem rfl
        have kept := perms old mem renew
        rw [now₁] at later
        have ahead : ¬ old.expiry / 1000 ≤ s.now / 1000 + 1 := of_decide_eq_false later
        have suited := suits.perms old mem renew apart'
        rw [if_neg (by rw [later]; simp)] at suited
        exact ⟨kept.interval, kept.backed, by omega, suited⟩
      · rw [if_pos asked] at renew ⊢
        obtain ⟨other, mem, same, chosen⟩ := mem_toRenew.1 asked
        obtain ⟨due, marked⟩ := Bool.and_eq_true_iff.1 chosen
        rw [now₁] at due
        have suited := suits.perms other (inSession mem same) marked (same ▸ apart')
        rw [if_pos due] at suited
        rw [clock₁] at touched
        refine Perm.Touched.kept (c := s.clock) ⟨touched.expiry, touched.interval⟩ ?_ short
          (Nat.le_refl _) suited
        exact now₄.trans now
    · have kept : old.Kept s₃.clock.kaInterval (s.now + s₃.clock.kaInterval * 1000) :=
        installed.toTouched.kept installed.since short₃ future (Nat.le_add_right _ _)
      split
      · have same : { old with since := s₄.now } = old := by
          rw [now₄, ← installed.since]
        rw [same]
        exact kept
      · exact kept

theorem Clock.Kept.again {c : Clock} (kept : c.Kept c.now) (later : ¬ c.expiry ≤ c.now) :
    Clock.Kept { c with timer := some (c.now + c.kaInterval * 1000) }
      (c.now + c.kaInterval * 1000) := by
  obtain ⟨ready, interval, -, -, -, timeout, expiry, since, early⟩ := kept
  refine ⟨ready, interval, rfl, ?_, ?_, timeout, expiry, ?_, early⟩
  all_goals dsimp only; omega

theorem Kept.suits (kept : Kept s.now s) : Suits s s.kaInterval where
  channels := fun ch mem bound _ => (kept.channels ch mem bound).suited
  perms := by
    intro perm mem renew _
    split
    · exact Nat.le_add_right _ _
    · exact (kept.perms perm mem renew).suited

theorem onTimerEvent_eq {s₁ s₂ : TurnSession} (canSend : List Peer → Bool) (ready : s.ready = true)
    (bound : bindAll { s with timer := none } (s.chTable.filter (Ch.due s.now)) = (s₁, bindReqs))
    (refreshed : refreshPermissions canSend s₁ token = (s₂, permReqs (toRenew s₁))) :
    (s.expiry ≤ s.now ∧ ∃ lifetime, onTimerEvent canSend s token =
        (s₂, sendRefresh lifetime :: (bindReqs ++ permReqs (toRenew s₁)))) ∨
      ¬ s.expiry ≤ s.now ∧ ∃ more, (more = [] ∨ more = [.sendIndication]) ∧
        onTimerEvent canSend s token = ({ s₂ with timer := some (s₂.now + s₂.kaInterval * 1000) },
          bindReqs ++ permReqs (toRenew s₁) ++ more) := by
  unfold onTimerEvent
  rw [if_neg (not_not_intro ready), bound]
  dsimp only
  rw [refreshed]
  by_cases refresh : s.expiry ≤ s.now
  · refine .inl ⟨refresh, if s.allocLifetime = 0 then -1 else s.allocLifetime, ?_⟩
    rw [if_pos refresh, if_pos refresh, List.append_assoc]
    rw [List.singleton_append, if_neg fun absent => List.cons_ne_nil _ _ absent.1]
  · refine .inr ⟨refresh, ?_⟩
    rw [if_neg refresh, if_neg refresh, List.nil_append]
    split
    · rename_i idle
      refine ⟨[.sendIndication], .inr rfl, ?_⟩
      rw [idle.1, List.nil_append]
    · exact ⟨[], .inl rfl, by rw [List.append_nil]⟩

theorem BindReqs.createPermission {reqs : List TurnRequest} {addrs : List Peer}
    (binds : BindReqs reqs addrs) (peers : List Peer) : .createPermission peers ∉ reqs := by
  induction binds with
  | nil => nofun
  | cons bind _ ih =>
    obtain ⟨num, rfl⟩ := bind
    intro mem
    rcases List.mem_cons.1 mem with same | mem
    · nomatch same
    · exact ih mem

theorem Scanned.unasked {s₁ s₂ : TurnSession} (keyed : Keyed s)
    (scanned : Scanned s s₁ s₂ bindReqs) (mem : perm ∈ s.permTable)
    (unmarked : perm.renew = false) :
    Unasked perm.addr (bindReqs ++ permReqs (toRenew s₁)) := by
  intro peers sent asked
  rcases List.mem_append.1 sent with sent | sent
  · exact scanned.binds.createPermission peers sent
  · unfold permReqs at sent
    split at sent
    · cases sent
    · cases List.mem_singleton.1 sent
      obtain ⟨other, memOther, same, chosen⟩ := mem_toRenew.1 asked
      obtain ⟨old, memOld, same', marked⟩ :=
        scanned.rebinds.marked other memOther (Bool.and_eq_true_iff.1 chosen).2
      obtain rfl := List.inj_on_of_nodup_map keyed.perms memOld mem (same'.trans same)
      rw [unmarked] at marked
      cases marked

theorem timer_keeps {t : Nat} (canSend : List Peer → Bool) (kept : Kept t s)
    (punctual : Punctual s (.timer lifetime token))
    (orderly : Orderly canSend s (.timer lifetime token)) : ∃ s' reqs,
      turnStep canSend s (.timer lifetime token) = some (s', reqs)
        ∧ KeepsAlive s (.timer lifetime token) s' reqs ∧ ∃ t', Kept t' s' := by
  obtain ⟨due, three⟩ := punctual
  obtain ⟨room, suited⟩ := orderly
  obtain rfl : s.now = t := Option.some.inj (due.symm.trans kept.clock.armed)
  let s₀ : TurnSession := { s with timer := none }
  have keyed₀ : Keyed s₀ := ⟨kept.keyed.channels, kept.keyed.perms⟩
  obtain ⟨s₁, s₂, bindReqs, bound, refreshed, scanned⟩ := scan (s := s₀) canSend token keyed₀
    (fun ch mem bound => (kept.channels ch mem bound).num) room
  have clock₂ : s₂.clock = s₀.clock := scanned.clock.trans scanned.rebinds.clock
  have now₂ : s₂.now = s.now := congrArg Clock.now clock₂
  have short := kept.clock.interval.2
  have unasked (perm : Perm) (mem : perm ∈ s.permTable) (unmarked : perm.renew = false) :=
    scanned.unasked keyed₀ mem unmarked
  rcases onTimerEvent_eq canSend kept.clock.ready bound refreshed with
    ⟨refresh, asked, sent⟩ | ⟨later, more, harmless, sent⟩
  · -- a Refresh, and its response
    obtain ⟨other, suits⟩ := suited refresh
    have ready₂ : s₂.ready = true := (congrArg Clock.ready clock₂).trans kept.clock.ready
    obtain ⟨s₃, granted, chTable, permTable, now₃, interval, clock₃⟩ :=
      onAllocateSuccess_spec s₂ (three refresh) other ready₂
    rw [now₂, ← interval] at clock₃
    have suits₃ : Suits s₀ s₃.clock.kaInterval := by
      rw [interval]
      exact ⟨suits.channels, suits.perms⟩
    have done := scanned.kept lifetime short kept.channels kept.perms chTable permTable
      (now₃.trans now₂) clock₃ suits₃
    let reqs := sendRefresh asked :: (bindReqs ++ permReqs (toRenew s₁))
    have step : turnStep canSend s (.timer lifetime token)
        = some (reqs.foldl (onRequestComplete lifetime) s₂, reqs) := by
      show some (answered lifetime (onTimerEvent canSend s token)) = _
      rw [sent]
      rfl
    have first : reqs.foldl (onRequestComplete lifetime) s₂
        = (bindReqs ++ permReqs (toRenew s₁)).foldl (onRequestComplete lifetime) s₃ := by
      rw [← granted]
      rfl
    rw [← first] at done
    refine ⟨_, reqs, step, ⟨done.timely, ?_⟩, _, done⟩
    intro _ _ _ perm mem unmarked peers sent
    rcases List.mem_cons.1 sent with same | sent
    · nomatch same
    · exact unasked perm mem unmarked peers sent
  · -- the timer is started again
    let s₃ : TurnSession := { s₂ with timer := some (s₂.now + s₂.kaInterval * 1000) }
    have clock₃ : s₃.clock = { s.clock with timer := some (s.now + s.kaInterval * 1000) } :=
      congrArg (fun c : Clock => { c with timer := some (c.now + c.kaInterval * 1000) }) clock₂
    have again : s₃.clock.Kept (s.now + s₃.clock.kaInterval * 1000) := by
      rw [clock₃]
      exact kept.clock.again later
    have suits₃ : Suits s₀ s₃.clock.kaInterval := by
      rw [clock₃]
      exact ⟨kept.suits.channels, kept.suits.perms⟩
    have tables : s₃.chTable = s₂.chTable ∧ s₃.permTable = s₂.permTable := ⟨rfl, rfl⟩
    have done := scanned.kept lifetime short kept.channels kept.perms tables.1 tables.2 now₂ again
      suits₃
    have all : (bindReqs ++ permReqs (toRenew s₁) ++ more).foldl (onRequestComplete lifetime) s₃
        = (bindReqs ++ permReqs (toRenew s₁)).foldl (onRequestComplete lifetime) s₃ := by
      rw [List.foldl_append]
      rcases harmless with rfl | rfl <;> rfl
    rw [← all] at done
    have step : turnStep canSend s (.timer lifetime token)
        = some ((bindReqs ++ permReqs (toRenew s₁) ++ more).foldl (onRequestComplete lifetime) s₃,
          bindReqs ++ permReqs (toRenew s₁) ++ more) := by
      show some (answered lifetime (onTimerEvent canSend s token)) = _
      rw [sent]
      rfl
    refine ⟨_, _, step, ⟨done.timely, ?_⟩, _, done⟩
    intro _ _ _ perm mem unmarked peers sent
    rcases List.mem_append.1 sent with sent | sent
    · exact unasked perm mem unmarked peers sent
    · rcases harmless with rfl | rfl
      · nomatch sent
      · nomatch List.mem_singleton.1 sent

end Timer

/-! ## Runs -/

section Runs

variable {s : TurnSession} {t : Nat}

theorem elapse_kept (kept : Kept t s) {ms : Nat} (early : s.now + ms ≤ t) :
    Kept t { s with now := s.now + ms } := by
  refine ⟨⟨kept.clock.ready, kept.clock.interval, kept.clock.armed, ⟨early, ?_⟩,
    kept.clock.lasting, kept.clock.expiry⟩, ⟨kept.keyed.channels, kept.keyed.perms⟩,
    kept.channels, kept.perms⟩
  have past : t ≤ s.now + s.kaInterval * 1000 := kept.clock.future.2
  show t ≤ s.now + ms + s.kaInterval * 1000
  omega

theorem Perm.Installed.kept {c : Clock} (installed : perm.Installed c)
    (clock : c.Kept t) : perm.Kept c.kaInterval t :=
  installed.toTouched.kept installed.since clock.interval.2 clock.future.2 (Nat.le_add_right _ _)

theorem PermsSet.kept {s' : TurnSession} (set : PermsSet s s') (kept : Kept t s) : Kept t s' := by
  have interval : s'.kaInterval = s.kaInterval := congrArg Clock.kaInterval set.clock
  refine ⟨set.clock ▸ kept.clock, ⟨set.chTable ▸ kept.keyed.channels, set.keyed⟩, ?_, ?_⟩
  · rw [set.chTable, interval]
    exact kept.channels
  · rw [interval]
    intro perm mem renew
    rcases set.perms perm mem with mem | installed
    · exact kept.perms perm mem renew
    · exact installed.kept kept.clock

theorem bindChannel_kept (kept : Kept t s) {addr : Peer} (numbered : Numbered s addr) :
    Kept t (answered 0 (bindRequest s addr)).1 := by
  obtain ⟨s₁, num, sent, asked, exists'⟩ := bindRequest_spec kept.keyed numbered
  have has : HasChannel s₁ addr := by
    refine ⟨exists', fun ch mem same => ?_⟩
    rcases asked.channels ch mem with ⟨-, other⟩ | ⟨-, number⟩
    · exact absurd (List.mem_singleton.2 same) other
    · exact number
  have bound := bound_spec 0 num has
  rw [asked.clock] at bound
  have result : (answered 0 (bindRequest s addr)).1
      = onRequestComplete 0 s₁ (.channelBind num addr) := by
    rw [sent]
    rfl
  rw [result]
  have clock := bound.clock.trans asked.clock
  generalize onRequestComplete 0 s₁ (.channelBind num addr) = s₂ at *
  have interval : s₂.kaInterval = s.kaInterval := congrArg Clock.kaInterval clock
  refine ⟨clock ▸ kept.clock, bound.keyed (asked.keyed kept.keyed), ?_, ?_⟩
  · rw [interval]
    intro ch mem isBound
    rcases bound.channels ch mem with ⟨mem, other⟩ | ⟨-, installed⟩
    · rcases asked.channels ch mem with ⟨mem, -⟩ | ⟨same, -⟩
      · exact kept.channels ch mem isBound
      · exact absurd same other
    · exact installed.kept kept.clock.interval.2 kept.clock.future.2
  · rw [interval]
    intro perm mem renew
    rcases bound.perms perm mem with ⟨mem, other⟩ | ⟨-, installed⟩
    · rcases asked.perms perm mem with ⟨mem, -⟩ | ⟨same, -⟩
      · exact kept.perms perm mem renew
      · exact absurd same other
    · exact installed.kept kept.clock

theorem turnStep_keeps (canSend : List Peer → Bool) {act : TurnAct} (kept : Kept t s)
    (punctual : Punctual s act) (orderly : Orderly canSend s act) : ∃ s' reqs,
      turnStep canSend s act = some (s', reqs) ∧ KeepsAlive s act s' reqs ∧ ∃ t', Kept t' s' := by
  have other {s' : TurnSession} {reqs : List TurnRequest}
      (step : turnStep canSend s act = some (s', reqs)) (kept' : Kept t s')
      (call : ∀ lifetime token, act ≠ .timer lifetime token) : ∃ s' reqs,
        turnStep canSend s act = some (s', reqs) ∧ KeepsAlive s act s' reqs ∧ ∃ t', Kept t' s' :=
    ⟨s', reqs, step, ⟨kept'.timely, fun _ _ same => absurd same (call _ _)⟩, t, kept'⟩
  cases act with
  | elapse ms => exact other rfl (elapse_kept kept (punctual t kept.clock.armed)) nofun
  | setPerm addrs renew token =>
    exact other rfl ((setPerm_spec canSend kept.keyed orderly addrs renew).kept kept) nofun
  | sendto addr token =>
    refine other rfl ?_ nofun
    unfold sendto
    split
    · exact (setPerm_spec canSend kept.keyed orderly [addr] false).kept kept
    · exact kept
  | bindChannel addr =>
    have step : turnStep canSend s (.bindChannel addr)
        = some (answered 0 (bindRequest s addr)) := congrArg some (if_pos kept.clock.ready)
    exact other step (bindChannel_kept kept punctual) nofun
  | timer lifetime token => exact timer_keeps canSend kept punctual orderly

theorem allocated_kept (now : Nat) (three : 3 ≤ lifetime)
    (other : lifetime ≠ 15) (allocLifetime allocKaInterval : Int) :
    ∃ t, Kept t (allocated now lifetime allocLifetime allocKaInterval) := by
  unfold allocated
  obtain ⟨s, granted, chTable, permTable, -, -, clock⟩ := onAllocateSuccess_spec
    ⟨true, now, 0, 0, 0, none, [], [], turnChannelMin, allocLifetime, allocKaInterval, 0⟩
    three other rfl
  rw [granted]
  refine ⟨_, clock, ⟨?_, ?_⟩, ?_, ?_⟩
  all_goals first | rw [chTable] | rw [permTable]
  · exact .nil
  · exact .nil
  · nofun
  · nofun

/-- In every run in which no LIFETIME is 15, none changes the keep-alive interval too much for
what is installed, no token is used twice, and the permissions to be renewed fit into a
request, each Refresh is sent before the LIFETIME is over, and each bound channel and each
permission marked for renewal is refreshed before it times out. -/
theorem refreshed_in_time (canSend : List Peer → Bool) (now : Nat) (granted : UInt32)
    (allocLifetime allocKaInterval : Int) {acts : List TurnAct} (three : 3 ≤ granted)
    (punctual : Along (turnStep canSend) Punctual
      (allocated now granted allocLifetime allocKaInterval) acts)
    (other : granted ≠ 15)
    (orderly : Along (turnStep canSend) (Orderly canSend)
      (allocated now granted allocLifetime allocKaInterval) acts) :
    Timely (allocated now granted allocLifetime allocKaInterval) ∧
      Stepwise (turnStep canSend) KeepsAlive
        (allocated now granted allocLifetime allocKaInterval) acts := by
  obtain ⟨t, kept⟩ := allocated_kept now three other allocLifetime allocKaInterval
  have keeps : ∀ s act, (∃ t, Kept t s) → Punctual s act ∧ Orderly canSend s act →
      ∃ s' reqs, turnStep canSend s act = some (s', reqs) ∧ KeepsAlive s act s' reqs
        ∧ ∃ t', Kept t' s' := by
    rintro s act ⟨t, kept⟩ ⟨punctual, orderly⟩
    exact turnStep_keeps canSend kept punctual orderly
  exact ⟨kept.timely, (punctual.both orderly).stepwise keeps ⟨t, kept⟩⟩

/-- A permission is installed and a channel bound; with the first Refresh the server grants
longer. -/
theorem refreshed_in_time_once : Timely (allocated 1000 20 0 1) ∧
      Stepwise (turnStep fun _ => true) KeepsAlive (allocated 1000 20 0 1)
        [.setPerm [⟨[1], 5⟩, ⟨[2], 5⟩] true 7, .bindChannel ⟨[1], 5⟩, .elapse 15000, .timer 600 9,
          .elapse 15000, .timer 600 11] :=
  refreshed_in_time _ 1000 20 0 1 (by decide) (by decide +kernel) (by decide) (by decide +kernel)

/-- With a LIFETIME of 15 the timer expires when the allocation does. -/
theorem fifteen_seconds_late :
    Along (turnStep fun _ => true) Punctual (allocated 1000 15 0 0) [.elapse 15000, .timer 15 9]
      ∧ ¬ Stepwise (turnStep fun _ => true) KeepsAlive (allocated 1000 15 0 0)
          [.elapse 15000, .timer 15 9] := by
  refine ⟨by decide +kernel, ?_⟩
  rintro ⟨s, reqs, taken, alive, -⟩
  cases taken
  have lasting := alive.timely.lasting
  revert lasting
  decide

end Runs

end Pjsip.Pjnath.Turn
