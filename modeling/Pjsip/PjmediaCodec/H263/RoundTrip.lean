import Mathlib.Logic.Relation
import Pjsip.PjmediaCodec.H263.Safety

/-!
# Bitstreams sent and received

The sender looks only at what is left of the bitstream, which is not overwritten before it is sent.
A payload can be cut off right behind its header, if four zero octets are left and there is no
other place to cut: the receiver refuses the header, and two zeros are lost.
-/

namespace Pjsip.PjmediaCodec.H263

open Pjsip.Base Reader

/-! ## Cutting -/

/-- How many octets behind the header go into a payload. -/
def cut (mtu : Nat) (data : List UInt8) : Nat :=
  if mtu < data.length + 2 then findSyncPointRev data 0 (mtu - 2) else data.length

theorem syncPoint_drop (bits : List UInt8) (d p : Nat) :
    SyncPoint bits (d + p) ↔ SyncPoint (bits.drop d) p := by
  unfold SyncPoint
  simp only [List.getD_eq_getElem?_getD, List.getElem?_drop, Nat.add_assoc]

theorem syncPointRev_drop (bits : List UInt8) (d k : Nat) :
    syncPointRev bits d k = (syncPointRev (bits.drop d) 0 k).map (d + ·) := by
  induction k with
  | zero => rfl
  | succ k ih =>
    have same := syncPoint_drop bits d k
    rw [syncPointRev, syncPointRev, Nat.zero_add]
    by_cases sync : SyncPoint bits (d + k)
    · rw [if_pos sync, if_pos (same.1 sync)]
      rfl
    · rw [if_neg sync, if_neg fun h => sync (same.2 h), ih]

theorem findSyncPointRev_drop (bits : List UInt8) (d len : Nat) :
    findSyncPointRev bits d len = d + findSyncPointRev (bits.drop d) 0 len := by
  unfold findSyncPointRev
  rw [syncPointRev_drop, Nat.zero_add]
  cases syncPointRev (bits.drop d) 0 (len - 1) <;> rfl

theorem syncPointRev_spec (bits : List UInt8) (k : Nat) : match syncPointRev bits 0 k with
    | none => ∀ i < k, ¬ SyncPoint bits i
    | some p => p < k ∧ SyncPoint bits p ∧ ∀ i < k, p < i → ¬ SyncPoint bits i := by
  induction k with
  | zero => exact fun i beyond => absurd beyond (Nat.not_lt_zero _)
  | succ k ih =>
    rw [syncPointRev, Nat.zero_add]
    by_cases sync : SyncPoint bits k
    · rw [if_pos sync]
      exact ⟨Nat.lt_succ_self k, sync, fun i below above => absurd below (by omega)⟩
    · rw [if_neg sync]
      cases found : syncPointRev bits 0 k with
      | none =>
        rw [found] at ih
        intro i below
        rcases Nat.lt_succ_iff_lt_or_eq.1 below with less | rfl
        · exact ih i less
        · exact sync
      | some p =>
        rw [found] at ih
        refine ⟨Nat.lt_succ_of_lt ih.1, ih.2.1, fun i below above => ?_⟩
        rcases Nat.lt_succ_iff_lt_or_eq.1 below with less | rfl
        · exact ih.2.2 i less above
        · exact sync

def Starts (rest : List UInt8) : Prop := 2 < rest.length ∧ SyncPoint rest 0

/-- What is left does not fit a payload and begins with four zero octets; up to the end of the
payload there is no other synchronisation point behind the first two. -/
def Swallowed (mtu : Nat) (rest : List UInt8) : Prop :=
  mtu < rest.length ∧ SyncPoint rest 0 ∧ SyncPoint rest 2
    ∧ ∀ i, 2 < i → i + 2 ≤ mtu → ¬ SyncPoint rest i

variable {mtu : Nat}

theorem cut_bounds (four : 4 ≤ mtu) (data : List UInt8) :
    cut mtu data ≤ data.length ∧ cut mtu data + 2 ≤ mtu := by
  unfold cut
  split
  · have spec := syncPointRev_spec data (mtu - 2 - 1)
    unfold findSyncPointRev
    cases found : syncPointRev data 0 (mtu - 2 - 1) with
    | none =>
      show 0 + (mtu - 2) ≤ _ ∧ 0 + (mtu - 2) + 2 ≤ _
      omega
    | some p =>
      rw [found] at spec
      show p ≤ _ ∧ p + 2 ≤ _
      omega
  · omega

theorem cut_eq_zero_iff (four : 4 ≤ mtu) {data : List UInt8} (nonempty : data ≠ []) :
    cut mtu data = 0 ↔ mtu < data.length + 2 ∧ SyncPoint data 0
      ∧ ∀ i, 0 < i → i + 4 ≤ mtu → ¬ SyncPoint data i := by
  have long := List.length_pos_iff.2 nonempty
  unfold cut
  split
  · next more =>
    have spec := syncPointRev_spec data (mtu - 2 - 1)
    unfold findSyncPointRev
    cases found : syncPointRev data 0 (mtu - 2 - 1) with
    | none =>
      rw [found] at spec
      refine iff_of_false ?_ fun h => spec 0 (by omega) h.2.1
      show ¬ 0 + (mtu - 2) = 0
      omega
    | some p =>
      rw [found] at spec
      show p = 0 ↔ _
      constructor
      · rintro rfl
        exact ⟨more, spec.2.1, fun i above below => spec.2.2 i (by omega) above⟩
      · rintro ⟨-, -, others⟩
        by_contra behind
        exact others p (by omega) (by have := spec.1; omega) spec.2.1
  · next less => exact iff_of_false (by omega) fun h => less h.1

/-! ## Sending -/

theorem drop_header (pre data : List UInt8) (x y : UInt8) (n : Nat) :
    (pre ++ x :: y :: data).drop (pre.length + 2 + n) = data.drop n := by
  rw [Nat.add_assoc, ← List.drop_drop, List.drop_left, Nat.add_comm 2 n]
  rfl

theorem cutPayload_header (four : 4 ≤ mtu) (pre data : List UInt8) (a b x y : UInt8)
    (counted : (pre ++ a :: b :: data).length < 2 ^ 32) :
    ((pre ++ a :: b :: data).set pre.length x).set (pre.length + 1) y = pre ++ x :: y :: data
      ∧ cutPayload mtu (pre ++ x :: y :: data) pre.length
        = (x :: y :: data.take (cut mtu data), pre.length + 2 + cut mtu data) := by
  have bounds := cut_bounds four data
  have rest : (pre ++ x :: y :: data).drop (pre.length + 2) = data :=
    drop_header pre data x y 0
  have long : (pre ++ x :: y :: data).length = pre.length + 2 + data.length := by
    simp only [List.length_append, List.length_cons]
    omega
  have end_ : (if mtu < (pre ++ x :: y :: data).length - pre.length
      then findSyncPointRev (pre ++ x :: y :: data) (pre.length + 2) (mtu - 2)
      else (pre ++ x :: y :: data).length) = pre.length + 2 + cut mtu data := by
    rw [cut, findSyncPointRev_drop, rest, long]
    by_cases more : mtu < data.length + 2
    · rw [if_pos (by omega), if_pos more]
    · rw [if_neg (by omega), if_neg more]
  constructor
  · simp
  · simp only [List.length_append, List.length_cons] at counted
    unfold cutPayload
    dsimp only
    rw [end_, List.drop_left, Nat.mod_eq_of_lt (by omega),
      show pre.length + 2 + cut mtu data - pre.length = cut mtu data + 2 by omega]
    rfl

/-- What one call sends of what is left. -/
inductive Cut (mtu : Nat) : (rest payload rest' : List UInt8) → Prop
  /-- Two zero octets are left out, and replaced by a header that says so. -/
  | sync (data : List UInt8) (more : data ≠ []) :
      Cut mtu (0 :: 0 :: data) (4 :: 0 :: data.take (cut mtu data)) (data.drop (cut mtu data))
  | plain (data : List UInt8) (no : ¬ Starts data) (more : 0 < cut mtu data) :
      Cut mtu data (0 :: 0 :: data.take (cut mtu data)) (data.drop (cut mtu data))

theorem starts_cons {rest : List UInt8} (starts : Starts rest) :
    ∃ data, rest = 0 :: 0 :: data ∧ data ≠ [] := by
  obtain ⟨long, first, second⟩ := starts
  match rest, long with
  | a :: b :: c :: data, _ =>
    cases (show a = 0 from first)
    cases (show b = 0 from second)
    exact ⟨c :: data, rfl, List.cons_ne_nil c data⟩

theorem Cut.small (four : 4 ≤ mtu) {rest payload rest' : List UInt8}
    (cuts : Cut mtu rest payload rest') : payload.length ≤ mtu := by
  cases cuts with
  | sync data more =>
    have bounds := cut_bounds four data
    rw [List.length_cons, List.length_cons, List.length_take]
    omega
  | plain _ no more =>
    have bounds := cut_bounds four rest
    rw [List.length_cons, List.length_cons, List.length_take]
    omega

theorem packetize_cut (four : 4 ≤ mtu) {s : Sending} (counted : s.bits.length < 2 ^ 32)
    (left : s.pos < s.bits.length) (start : s.pos < 2 → Starts (s.bits.drop s.pos)) :
    ∃ payload s', pjmediaH263Packetize mtu s = .ok (payload, s')
      ∧ s'.bits.length = s.bits.length ∧ s.pos < s'.pos ∧ 2 ≤ s'.pos ∧ s'.pos ≤ s.bits.length
      ∧ Cut mtu (s.bits.drop s.pos) payload (s'.bits.drop s'.pos) := by
  have starts_iff : (2 < s.bits.length - s.pos ∧ SyncPoint s.bits s.pos)
      ↔ Starts (s.bits.drop s.pos) := by
    unfold Starts
    rw [List.length_drop, ← syncPoint_drop, Nat.add_zero]
  obtain ⟨bits, pos⟩ := s
  dsimp only at *
  unfold pjmediaH263Packetize
  dsimp only
  by_cases sync : Starts (bits.drop pos)
  · obtain ⟨data, there, more⟩ := starts_cons sync
    obtain ⟨pre, rfl, rfl⟩ : ∃ pre, bits = pre ++ 0 :: 0 :: data ∧ pos = pre.length :=
      ⟨bits.take pos, by rw [← there, List.take_append_drop], by rw [List.length_take]; omega⟩
    obtain ⟨set, cuts⟩ := cutPayload_header four pre data 0 0 4 0 counted
    have bounds := cut_bounds four data
    rw [if_pos (starts_iff.2 sync), set, cuts, there]
    simp only [List.length_append, List.length_cons]
    refine ⟨_, _, rfl, by simp, by dsimp only; omega, by dsimp only; omega, by dsimp only; omega, ?_⟩
    rw [drop_header]
    exact .sync data more
  · -- two octets that have been sent make room for the header
    have behind : 2 ≤ pos := by
      by_contra early
      exact sync (start (by omega))
    obtain ⟨pre, a, b, data, rfl, rfl, there⟩ : ∃ pre a b data, bits = pre ++ a :: b :: data
        ∧ pos = pre.length + 2 ∧ bits.drop pos = data := by
      obtain ⟨a, b, sent⟩ : ∃ a b, bits.drop (pos - 2) = a :: b :: bits.drop pos := by
        refine ⟨bits[pos - 2], bits[pos - 2 + 1], ?_⟩
        rw [List.drop_eq_getElem_cons (by omega), List.drop_eq_getElem_cons (by omega),
          show pos - 2 + 1 + 1 = pos by omega]
      refine ⟨bits.take (pos - 2), a, b, bits.drop pos, ?_, ?_, rfl⟩
      · rw [← sent, List.take_append_drop]
      · rw [List.length_take]
        omega
    obtain ⟨set, cuts⟩ := cutPayload_header four pre data a b 0 0 counted
    have bounds := cut_bounds four data
    have nonempty : data ≠ [] := by
      rintro rfl
      simp at left
    have more : 0 < cut mtu data := by
      by_contra zero
      obtain ⟨long, first, -⟩ := (cut_eq_zero_iff four nonempty).1 (by omega)
      exact sync (there.symm ▸ ⟨by omega, first⟩)
    rw [if_neg fun h => sync (starts_iff.1 h), if_neg (by omega),
      show pre.length + 2 - 2 = pre.length by omega,
      show pre.length + 2 - 1 = pre.length + 1 by omega, set, cuts, there]
    simp only [List.length_append, List.length_cons]
    refine ⟨_, _, rfl, by simp, by dsimp only; omega, by dsimp only; omega, by dsimp only; omega, ?_⟩
    rw [drop_header]
    exact .plain data (there ▸ sync) more

/-! ## Receiving -/

section Received

variable {r : Receiving} {data : List UInt8}

/-- At the start of a picture, the last synchronisation point is forgotten. -/
def Receiving.reset (r : Receiving) : Receiving :=
  if r.pos = 0 then { r with unpackLastSyncPos := 0 } else r

theorem Receiving.reset_fields : r.reset.pos = r.pos ∧ r.reset.bitsSize = r.bitsSize
    ∧ r.reset.bits = r.bits ∧ r.reset.unpackPrevLost = r.unpackPrevLost := by
  unfold Receiving.reset
  split <;> exact ⟨rfl, rfl, rfl, rfl⟩

theorem unpacketize_plain {b0 : UInt8} (header : headerEnd b0 0 = 2) (no : plenOf b0 0 = 0)
    (more : data ≠ []) (fits : r.pos + data.length + 2 ≤ r.bitsSize.1) :
    (pjmediaH263Unpacketize r (b0 :: 0 :: data).length).run (b0 :: 0 :: data)
      = (if b0 &&& 0x04 ≠ 0 then writePayload r.reset true r.pos 2 data.length
        else do
          let (s, q) ← resume r.reset 0 2
          writeResumed s q 2 data.length : PayloadReader _).run (b0 :: 0 :: data) := by
  obtain ⟨pos, size, -, -⟩ := r.reset_fields
  have long := List.length_pos_iff.2 more
  have first : (octet 0 : PayloadReader UInt8).run (b0 :: 0 :: data) = .value b0 :=
    octet_value.2 rfl
  have second : (octet 1 : PayloadReader UInt8).run (b0 :: 0 :: data) = .value 0 :=
    octet_value.2 rfl
  have length : (b0 :: 0 :: data).length = data.length + 2 := rfl
  have reset : (if r.pos = 0 then { r with unpackLastSyncPos := 0 } else r) = r.reset := rfl
  rw [pjmediaH263Unpacketize, if_neg (by simp), run_bind, reset, first, bind_value, run_bind,
    second, bind_value]
  rw [header, no, length, if_neg (by omega), pos, size, if_neg (by omega), Nat.add_sub_cancel]

theorem step_sync (more : data ≠ []) (fits : r.pos + data.length + 2 ≤ r.bitsSize.1) :
    step r (.payload (4 :: 0 :: data)) = some (written r.reset true r.pos data, .ok ()) := by
  have whole : (List.drop 2 (4 :: 0 :: data)).take data.length = data := List.take_length
  rw [step, unpacketize_plain (by decide) (by decide) more fits, if_pos (by decide),
    writePayload_run r.reset true r.pos (by simp; omega), whole]

theorem step_header : step r (.payload [4, 0]) = some (r.reset.lost, .error .einval) := rfl

theorem step_plain (more : data ≠ []) (fits : r.pos + data.length + 2 ≤ r.bitsSize.1)
    (begun : r.pos ≠ 0) (here : r.unpackPrevLost = false) :
    step r (.payload (0 :: 0 :: data)) = some (written r false r.pos data, .ok ()) := by
  have whole : (List.drop 2 (0 :: 0 :: data)).take data.length = data := List.take_length
  have same : r.reset = r := if_neg begun
  rw [step, unpacketize_plain (by decide) (by decide) more fits, if_neg (by decide), same,
    run_bind, resume, if_neg begun, run_pure, bind_value]
  dsimp only
  rw [writeResumed, here, if_neg (by simp), if_neg (by simp),
    writePayload_run r false r.pos (by simp; omega), whole]

theorem slice_written (r : Receiving) (sync : Bool) (q : Nat) (data : List UInt8) :
    (written r sync q data).bits.slice 0 ((if sync then q + 2 else q) + data.length)
      = r.bits.slice 0 q ++ ((if sync then [0, 0] else []) ++ data) := by
  cases sync with
  | true =>
    have zeros : (r.bits.store q [0, 0]).slice 0 (q + 2) = r.bits.slice 0 q ++ [0, 0] :=
      r.bits.slice_store_last q [0, 0]
    show ((r.bits.store q [0, 0]).store (q + 2) data).slice 0 (q + 2 + data.length) = _
    rw [Buffer.slice_store_last, zeros, List.append_assoc]
    rfl
  | false => exact r.bits.slice_store_last q data

theorem swallowed_iff {mtu : Nat} (four : 4 ≤ mtu) (more : data ≠ []) :
    Swallowed mtu (0 :: 0 :: data) ↔ cut mtu data = 0 := by
  have behind (i : Nat) : SyncPoint (0 :: 0 :: data) (2 + i) ↔ SyncPoint data i :=
    syncPoint_drop (0 :: 0 :: data) 2 i
  rw [cut_eq_zero_iff four more]
  constructor
  · rintro ⟨long, -, second, others⟩
    refine ⟨long, (behind 0).1 second, fun i above below sync => ?_⟩
    exact others (2 + i) (by omega) (by omega) ((behind i).2 sync)
  · rintro ⟨long, second, others⟩
    refine ⟨long, ⟨rfl, rfl⟩, (behind 0).2 second, fun i above below sync => ?_⟩
    obtain ⟨i, rfl⟩ := Nat.exists_eq_add_of_lt above
    exact others (i + 1) (by omega) (by omega) ((behind (i + 1)).1
      (by rw [show 2 + (i + 1) = 2 + i + 1 by omega]; exact sync))

/-- What a payload does to the receiver: it is appended, or its two zeros are lost. -/
inductive Received (mtu : Nat) (r : Receiving) (rest rest' : List UInt8) (r' : Receiving) : Prop
  | appended (front : List UInt8) (kept : ¬ Swallowed mtu rest) (split : rest = front ++ rest')
      (some : front ≠ []) (pos : r'.pos = r.pos + front.length)
      (octets : r'.bits.slice 0 r'.pos = r.bits.slice 0 r.pos ++ front)
      (here : r'.unpackPrevLost = false)
  | refused (swallowed : Swallowed mtu rest) (starts : Starts rest')
      (less : rest.length = rest'.length + 2) (pos : r'.pos = r.pos)

theorem Cut.received {mtu : Nat} (four : 4 ≤ mtu) {rest payload rest' : List UInt8}
    (cuts : Cut mtu rest payload rest') (fits : r.pos + rest.length + 2 ≤ r.bitsSize.1)
    (ready : r.pos = 0 ∨ r.unpackPrevLost = true → Starts rest) :
    ∃ r' status, step r (.payload payload) = some (r', status) ∧ r'.bitsSize = r.bitsSize
      ∧ Received mtu r rest rest' r' := by
  obtain ⟨pos, size, bits, -⟩ := r.reset_fields
  have counted := r.bitsSize.2
  cases cuts with
  | sync data more =>
    have bounds := cut_bounds four data
    simp only [List.length_cons] at fits
    by_cases zero : cut mtu data = 0
    · rw [zero]
      refine ⟨_, _, step_header, size, .refused ((swallowed_iff four more).2 zero) ?_ rfl pos⟩
      obtain ⟨long, second, -⟩ := (cut_eq_zero_iff four more).1 zero
      exact ⟨by rw [List.drop_zero]; omega, second⟩
    · have long : (data.take (cut mtu data)).length = cut mtu data := by
        rw [List.length_take]
        omega
      have nonempty : data.take (cut mtu data) ≠ [] := by
        rw [← List.length_pos_iff]
        omega
      have end_ : (r.pos + 2 + cut mtu data) % 2 ^ 32 = r.pos + 2 + cut mtu data :=
        Nat.mod_eq_of_lt (by omega)
      refine ⟨_, _, step_sync nonempty (by omega), size, .appended (0 :: 0 :: data.take (cut mtu data))
        (fun h => zero ((swallowed_iff four more).1 h)) ?_ (List.cons_ne_nil _ _) ?_ ?_ rfl⟩
      · simp
      · show (r.pos + 2 + (data.take (cut mtu data)).length) % 2 ^ 32 = _
        simp only [List.length_cons, long]
        omega
      · have slice := slice_written r.reset true r.pos (data.take (cut mtu data))
        rw [if_pos rfl, if_pos rfl, long, bits] at slice
        show Buffer.slice _ 0 ((r.pos + 2 + (data.take (cut mtu data)).length) % 2 ^ 32) = _
        rw [long, end_]
        exact slice
  | plain _ no more =>
    have bounds := cut_bounds four rest
    have long : (rest.take (cut mtu rest)).length = cut mtu rest := by
      rw [List.length_take]
      omega
    have nonempty : rest.take (cut mtu rest) ≠ [] := by
      rw [← List.length_pos_iff]
      omega
    have end_ : (r.pos + cut mtu rest) % 2 ^ 32 = r.pos + cut mtu rest :=
      Nat.mod_eq_of_lt (by omega)
    have begun : r.pos ≠ 0 := fun start => no (ready (.inl start))
    have here : r.unpackPrevLost = false := by
      by_contra lost
      exact no (ready (.inr (by simpa using lost)))
    refine ⟨_, _, step_plain nonempty (by omega) begun here, rfl, .appended (rest.take (cut mtu rest))
      (fun swallowed => no ⟨by have := swallowed.1; omega, swallowed.2.1⟩) ?_ nonempty ?_ ?_ rfl⟩
    · exact (List.take_append_drop _ _).symm
    · show (r.pos + (rest.take (cut mtu rest)).length) % 2 ^ 32 = _
      rw [long, end_]
    · have slice := slice_written r false r.pos (rest.take (cut mtu rest))
      show Buffer.slice _ 0 ((r.pos + (rest.take (cut mtu rest)).length) % 2 ^ 32) = _
      rw [long, end_]
      rw [long] at slice
      exact slice

end Received

/-! ## Whole bitstreams -/

/-- A call for a bitstream of which something is left. -/
def Next (mtu : Nat) (s s' : Sending) : Prop :=
  s.pos < s.bits.length ∧ ∃ payload, pjmediaH263Packetize mtu s = .ok (payload, s')

/-- No call from this one on finds four zero octets, and no other place to cut. -/
def NoneSwallowed (mtu : Nat) (s : Sending) : Prop :=
  ∀ t, Relation.ReflTransGen (Next mtu) s t → ¬ Swallowed mtu (t.bits.drop t.pos)

theorem noneSwallowed_next {mtu : Nat} {s s' : Sending} {payload : List UInt8}
    (left : s.pos < s.bits.length) (call : pjmediaH263Packetize mtu s = .ok (payload, s')) :
    NoneSwallowed mtu s ↔ ¬ Swallowed mtu (s.bits.drop s.pos) ∧ NoneSwallowed mtu s' := by
  constructor
  · intro noneFound
    exact ⟨noneFound s .refl, fun t reached => noneFound t (.head ⟨left, payload, call⟩ reached)⟩
  · rintro ⟨here, later⟩ t reached
    rcases reached.cases_head with rfl | ⟨s₁, ⟨-, _, call₁⟩, reached⟩
    · exact here
    · rw [call] at call₁
      cases call₁
      exact later t reached

theorem noneSwallowed_end {mtu : Nat} {s : Sending} (done : ¬ s.pos < s.bits.length) :
    NoneSwallowed mtu s := by
  intro t reached
  rcases reached.cases_head with rfl | ⟨_, ⟨left, -⟩, -⟩
  · rintro ⟨long, -⟩
    rw [List.length_drop] at long
    omega
  · exact absurd left done

/-- The receiver has what the sender has sent, or less after a payload that it refused; then the
next one begins at a synchronisation point. -/
structure Ready (r : Receiving) (s : Sending) : Prop where
  room : r.pos + (s.bits.length - s.pos) + 2 ≤ r.bitsSize.1
  starts : r.pos = 0 ∨ r.unpackPrevLost = true → s.pos < s.bits.length → Starts (s.bits.drop s.pos)

/-- The payloads are received, in order, and what they make of the buffer. -/
structure Delivered (mtu : Nat) (s : Sending) (payloads : List (List UInt8)) (r r' : Receiving) :
    Prop where
  run : exec step r (payloads.map .payload) = some r'
  whole : NoneSwallowed mtu s → r'.pos = r.pos + (s.bits.length - s.pos)
    ∧ r'.bits.slice 0 r'.pos = r.bits.slice 0 r.pos ++ s.bits.drop s.pos
  less : ¬ NoneSwallowed mtu s → r'.pos < r.pos + (s.bits.length - s.pos)

theorem packetizeAll_delivered {mtu : Nat} (four : 4 ≤ mtu) (fuel : Nat) (s : Sending)
    (counted : s.bits.length < 2 ^ 32) (enough : s.bits.length - s.pos < fuel)
    (start : s.pos < 2 → s.pos < s.bits.length → Starts (s.bits.drop s.pos)) :
    ∃ payloads, packetizeAll mtu fuel s = some payloads
      ∧ (∀ payload ∈ payloads, payload.length ≤ mtu)
      ∧ ∀ r, Ready r s → ∃ r', Delivered mtu s payloads r r' := by
  -- by induction on the calls that are left
  induction fuel generalizing s with
  | zero => exact absurd enough (Nat.not_lt_zero _)
  | succ fuel ih =>
    rw [packetizeAll]
    by_cases left : s.pos < s.bits.length
    · obtain ⟨payload, s', call, same, moved, behind, inside, cuts⟩ :=
        packetize_cut four counted left fun early => start early left
      obtain ⟨payloads, rest, small, delivered⟩ :=
        ih s' (by omega) (by omega) fun early => absurd early (by omega)
      rw [if_pos left, call]
      dsimp only
      rw [rest]
      refine ⟨_, rfl, List.forall_mem_cons.2 ⟨?_, small⟩, fun r ready => ?_⟩
      · exact cuts.small four
      · have room := ready.room
        have left_ : (s.bits.drop s.pos).length = s.bits.length - s.pos := List.length_drop
        have left_' : (s'.bits.drop s'.pos).length = s'.bits.length - s'.pos := List.length_drop
        obtain ⟨r₁, status, taken, size, received⟩ :=
          cuts.received four (by omega) fun lost => ready.starts lost left
        have none_iff := noneSwallowed_next left call
        cases received with
        | appended front kept split swallows pos octets here =>
          have length := congrArg List.length split
          rw [List.length_append] at length
          have next : Ready r₁ s' := by
            refine ⟨by rw [size]; omega, ?_⟩
            rintro (start | lost)
            · omega
            · exact absurd (here.symm.trans lost) (by decide)
          obtain ⟨r', later⟩ := delivered r₁ next
          refine ⟨r', ?_, fun unswallowed => ?_, fun swallows => ?_⟩
          · show (step r (.payload payload)).bind _ = _
            rw [taken]
            exact later.run
          · obtain ⟨pos', octets'⟩ := later.whole (none_iff.1 unswallowed).2
            refine ⟨by omega, ?_⟩
            rw [octets', octets, split, List.append_assoc]
          · have less := later.less fun unswallowed => swallows (none_iff.2 ⟨kept, unswallowed⟩)
            omega
        | refused swallowed starts fewer pos =>
          obtain ⟨r', later⟩ := delivered r₁ ⟨by rw [size]; omega, fun _ _ => starts⟩
          refine ⟨r', ?_, fun unswallowed => absurd swallowed (none_iff.1 unswallowed).1, fun _ => ?_⟩
          · show (step r (.payload payload)).bind _ = _
            rw [taken]
            exact later.run
          · by_cases unswallowed : NoneSwallowed mtu s'
            · have whole := (later.whole unswallowed).1
              omega
            · have less := later.less unswallowed
              omega
    · rw [if_neg left]
      refine ⟨[], rfl, nofun, fun r _ => ⟨r, rfl, fun _ => ⟨by omega, ?_⟩, ?_⟩⟩
      · rw [List.drop_eq_nil_of_le (by omega), List.append_nil]
      · exact fun swallows => absurd (noneSwallowed_end left) swallows

/-- A bitstream that begins with two zero octets, and whose positions an `unsigned` can count. -/
structure Bitstream where
  bits : List UInt8
  starts : Starts bits
  counted : bits.length < 2 ^ 32

/-- A payload has room for its header and for two octets. -/
abbrev Mtu := { mtu : Nat // 4 ≤ mtu }

/-- A receiver at the start of a picture, with room for a bitstream and two more octets. -/
structure Receiver (stream : Bitstream) where
  receiving : Receiving
  start : receiving.pos = 0
  room : stream.bits.length + 2 ≤ receiving.bitsSize.1

/-- The payloads put the bitstream together again, whatever has been received before. -/
def Rebuilds (payloads : List (List UInt8)) (stream : Bitstream) (r : Receiving) : Prop :=
  ∃ r', exec step r (payloads.map .payload) = some r' ∧ r'.pos = stream.bits.length
    ∧ r'.bits.slice 0 stream.bits.length = stream.bits

/-- The loop ends, with payloads that are small enough. They rebuild the bitstream exactly if no
call finds four zero octets and no other place to cut. -/
theorem packetizeAll_rebuilds_iff (stream : Bitstream) (mtu : Mtu) :
    ∃ payloads, packetizeAll mtu.1 (stream.bits.length + 1) ⟨stream.bits, 0⟩ = some payloads
      ∧ (∀ payload ∈ payloads, payload.length ≤ mtu.1)
      ∧ ∀ receiver : Receiver stream, Rebuilds payloads stream receiver.receiving
        ↔ NoneSwallowed mtu.1 ⟨stream.bits, 0⟩ := by
  obtain ⟨payloads, sent, small, delivered⟩ := packetizeAll_delivered mtu.2
    (stream.bits.length + 1) ⟨stream.bits, 0⟩ stream.counted (by simp)
    fun _ _ => stream.starts
  refine ⟨payloads, sent, small, fun receiver => ?_⟩
  have start := receiver.start
  obtain ⟨r', delivered⟩ := delivered receiver.receiving
    ⟨by rw [start]; have := receiver.room; simp; omega, fun _ _ => stream.starts⟩
  by_cases none : NoneSwallowed mtu.1 ⟨stream.bits, 0⟩
  · refine iff_of_true ⟨r', delivered.run, ?_, ?_⟩ none
    · have whole := (delivered.whole none).1
      rw [start] at whole
      simpa using whole
    · obtain ⟨pos, octets⟩ := delivered.whole none
      rw [pos, start] at octets
      simpa [Buffer.slice] using octets
  · refine iff_of_false ?_ none
    rintro ⟨r₁, run, pos, -⟩
    have less := delivered.less none
    rw [delivered.run] at run
    cases run
    rw [start, pos] at less
    simp at less

/-- The round trip, and what the receiver does with any other payloads. -/
theorem h263_rebuilds_iff_and_inside_iff (stream : Bitstream) (mtu : Mtu) (cells : Nat → UInt8)
    (events : List Event) :
    (∃ payloads, packetizeAll mtu.1 (stream.bits.length + 1) ⟨stream.bits, 0⟩ = some payloads
        ∧ (∀ payload ∈ payloads, payload.length ≤ mtu.1)
        ∧ ∀ receiver : Receiver stream, Rebuilds payloads stream receiver.receiving
          ↔ NoneSwallowed mtu.1 ⟨stream.bits, 0⟩)
    ∧ (Throughout step Receiving.Inside (Receiving.create cells) events
        ↔ Along step Fits (Receiving.create cells) events) :=
  ⟨packetizeAll_rebuilds_iff stream mtu, receiver_inside_iff cells events⟩

/-- Four zeros and an octet that does not fit: the receiver is left with three octets of five. And
a picture that begins with an extra header of two octets: with a buffer of three octets, four are
written to. -/
theorem zeros_lost_and_header_overruns :
    ¬ (∃ payloads, packetizeAll 4 6 ⟨[0, 0, 0, 0, 1], 0⟩ = some payloads
      ∧ ∃ r', exec step { Receiving.create (fun _ => 0) with bitsSize := ⟨7, by decide⟩ }
          (payloads.map .payload) = some r' ∧ r'.pos = 5)
    ∧ ¬ Throughout step Receiving.Inside (Receiving.create fun _ => 0)
        [.newPicture ⟨3, by decide⟩, .payload [0, 0x10, 7, 7, 1]] := by
  constructor
  · rintro ⟨payloads, sent, r', run, pos⟩
    have calls : packetizeAll 4 6 ⟨[0, 0, 0, 0, 1], 0⟩ = some [[4, 0], [4, 0, 1]] := by decide
    rw [calls] at sent
    cases sent
    cases run
    exact absurd pos (by decide)
  · rintro ⟨-, s₁, _, ⟨⟩, -, s₂, _, ⟨⟩, inside⟩
    exact absurd (inside 3 (by decide)) (by decide)

end Pjsip.PjmediaCodec.H263
