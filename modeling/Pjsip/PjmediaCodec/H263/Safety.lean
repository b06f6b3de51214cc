import Pjsip.Base.Run
import Pjsip.PjmediaCodec.H263.Packetizer

/-!
# Where the receiver reads and writes

A payload is read inside of it, whatever its octets are. The payload itself is counted against the
size of the buffer before it is written, the extra picture header in front of it is not.
-/

namespace Pjsip.PjmediaCodec.H263

open Pjsip.Base Reader

/-! ## Searching for a synchronisation point -/

/-- The index of the first two zero octets. -/
def syncIn : List UInt8 → Option Nat
  | a :: b :: rest => if a = 0 ∧ b = 0 then some 0 else (syncIn (b :: rest)).map (· + 1)
  | [_] => none
  | [] => none

theorem syncIn_inside {data : List UInt8} {k : Nat} (found : syncIn data = some k) :
    k + 2 ≤ data.length := by
  induction data using syncIn.induct generalizing k with
  | case1 a b rest zeros =>
    rw [syncIn, if_pos zeros] at found
    cases found
    simp
  | case2 a b rest other ih =>
    rw [syncIn, if_neg other, Option.map_eq_some_iff] at found
    obtain ⟨k, found, rfl⟩ := found
    have inside := ih found
    rw [List.length_cons]
    omega
  | case3 a => nomatch found
  | case4 => nomatch found

variable {payload : List UInt8}

theorem findSyncPoint_run (k p : Nat) (left : (payload.drop p).length = k + 1) :
    (findSyncPoint k p).run payload
      = .value ((syncIn (payload.drop p)).map fun sync => p + sync) := by
  induction k generalizing p with
  | zero =>
    obtain ⟨a, one⟩ := List.length_eq_one_iff.1 left
    rw [one]
    rfl
  | succ k ih =>
    have inside : p + 1 < payload.length := by
      rw [List.length_drop] at left
      omega
    have there : payload.drop p = payload[p] :: payload[p + 1] :: payload.drop (p + 2) := by
      rw [List.drop_eq_getElem_cons (by omega), List.drop_eq_getElem_cons inside]
    have first : (octet p : PayloadReader UInt8).run payload = .value payload[p] :=
      octet_value.2 (List.getElem?_eq_getElem (by omega))
    have second : (octet (p + 1) : PayloadReader UInt8).run payload = .value payload[p + 1] :=
      octet_value.2 (List.getElem?_eq_getElem inside)
    have next : payload.drop (p + 1) = payload[p + 1] :: payload.drop (p + 2) :=
      List.drop_eq_getElem_cons inside
    have onwards : (findSyncPoint k (p + 1)).run payload
        = .value (((syncIn (payload.drop (p + 1))).map (· + 1)).map fun sync => p + sync) := by
      rw [ih (p + 1) (by rw [List.length_drop] at left ⊢; omega), Option.map_map]
      congr 3
      funext sync
      show p + 1 + sync = p + (sync + 1)
      omega
    rw [findSyncPoint, run_bind, first, bind_value, there, syncIn, ← next]
    by_cases zero : payload[p] = 0
    · rw [if_neg (by simpa using zero), run_bind, second, bind_value]
      by_cases zero' : payload[p + 1] = 0
      · rw [if_neg (by simpa using zero'), if_pos ⟨zero, zero'⟩]
        rfl
      · rw [if_pos zero', if_neg fun both => zero' both.2, onwards]
    · rw [if_pos zero, if_neg fun both => zero both.1, onwards]

/-! ## What a call does -/

/-- The buffer, and the position, behind the octets that are written from `q` on. -/
def written (s : Receiving) (sync : Bool) (q : Nat) (bytes : List UInt8) : Receiving :=
  let s := if sync then
      { s with unpackLastSyncPos := q % 2 ^ 32, bits := s.bits.store q [0, 0] }
    else s
  let q := if sync then q + 2 else q
  { s with
    bits := s.bits.store q bytes
    pos := (q + bytes.length) % 2 ^ 32
    unpackPrevLost := false }

variable {p len : Nat}

theorem writePayload_run (s : Receiving) (sync : Bool) (q : Nat) (fits : p + len ≤ payload.length) :
    (writePayload s sync q p len).run payload
      = .value (written s sync q ((payload.drop p).take len), .ok ()) := by
  obtain ⟨bytes, read, same⟩ := octets_inside (ε := Empty) fits
  rw [writePayload, run_bind, read, bind_value, ← same]
  have length := bytes.2
  unfold written
  rw [length]
  rfl

/-- The extra picture header, written behind two zeros. -/
def headed (s : Receiving) (header : List UInt8) : Receiving :=
  { s.lost with bits := (s.bits.store 0 [0, 0]).store 2 header }

theorem startPicture_run (s : Receiving) {plen : Nat} (more : plen ≠ 0)
    (behind : plen ≤ p) (fits : p ≤ payload.length) :
    ∃ header, header.length = plen
      ∧ (startPicture s plen p).run payload = .value (headed s header, 2 + plen) := by
  obtain ⟨header, read, -⟩ := octets_inside (ε := Empty) (show p - plen + plen ≤ payload.length by
    omega)
  refine ⟨header.1, header.2, ?_⟩
  rw [startPicture, if_pos more, run_bind, read]
  rfl

variable {s : Receiving}

theorem writeResumed_run (lost : s.unpackPrevLost = true) (q : Nat)
    (more : 0 < len) (whole : p + len = payload.length) :
    (writeResumed s q p len).run payload = .value (match syncIn (payload.drop p) with
      | none => (s, .error .eignored)
      | some k => (written s true q (payload.drop (p + k + 2)), .ok ())) := by
  have left : (payload.drop p).length = len - 1 + 1 := by
    rw [List.length_drop]
    omega
  rw [writeResumed, if_pos lost, run_bind, findSyncPoint_run _ _ left, bind_value]
  cases found : syncIn (payload.drop p) with
  | none => rfl
  | some k =>
    have inside := syncIn_inside found
    dsimp only [Option.map_some]
    rw [writePayload_run s true q (by omega), List.take_of_length_le]
    rw [List.length_drop]
    omega

/-! ## Staying below the size of the buffer -/

def Receiving.Inside (s : Receiving) : Prop := ∀ i ∈ s.bits.stored, i < s.bitsSize.1

/-- The last synchronisation point is not behind the position, but in a new picture. -/
structure Receiving.Sound (s : Receiving) : Prop where
  inside : s.Inside
  ordered : s.pos ≠ 0 → s.unpackLastSyncPos ≤ s.pos

theorem Receiving.create_sound (cells : Nat → UInt8) : (Receiving.create cells).Sound where
  inside _ stored := absurd stored List.not_mem_nil
  ordered _ := Nat.zero_le _

theorem Receiving.Sound.lost (sound : s.Sound) : s.lost.Sound :=
  ⟨sound.inside, sound.ordered⟩

theorem mem_stored_written {sync : Bool} {q i : Nat} {bytes : List UInt8} :
    i ∈ (written s sync q bytes).bits.stored ↔ i ∈ s.bits.stored
      ∨ q ≤ i ∧ i < (if sync then q + 2 else q) + bytes.length := by
  cases sync with
  | true =>
    show i ∈ ((s.bits.store q [0, 0]).store (q + 2) bytes).stored ↔ _
    rw [Buffer.mem_stored_store, Buffer.mem_stored_store, if_pos rfl, or_assoc]
    show _ ∨ q ≤ i ∧ i < q + 2 ∨ _ ↔ _
    exact or_congr_right (by omega)
  | false =>
    show i ∈ (s.bits.store q bytes).stored ↔ _
    rw [Buffer.mem_stored_store, if_neg (by simp)]

theorem written_sound {sync : Bool} {q : Nat} {bytes : List UInt8}
    (inside : s.Inside) (before : sync = false → s.unpackLastSyncPos ≤ q)
    (fits : (if sync then q + 2 else q) + bytes.length ≤ s.bitsSize.1) :
    (written s sync q bytes).Sound where
  inside i stored := by
    have size : (written s sync q bytes).bitsSize = s.bitsSize := by
      cases sync <;> rfl
    rw [mem_stored_written] at stored
    rw [size]
    rcases stored with old | new
    · exact inside i old
    · omega
  ordered _ := by
    have counted := s.bitsSize.2
    cases sync with
    | true =>
      rw [if_pos rfl] at fits
      show q % 2 ^ 32 ≤ (q + 2 + bytes.length) % 2 ^ 32
      rw [Nat.mod_eq_of_lt (by omega), Nat.mod_eq_of_lt (by omega)]
      omega
    | false =>
      rw [if_neg (by simp)] at fits
      show s.unpackLastSyncPos ≤ (q + bytes.length) % 2 ^ 32
      rw [Nat.mod_eq_of_lt (by omega)]
      exact (before rfl).trans (Nat.le_add_right _ _)

theorem mem_stored_headed {header : List UInt8} {i : Nat} :
    i ∈ (headed s header).bits.stored ↔ i ∈ s.bits.stored ∨ i < 2 + header.length := by
  show i ∈ ((s.bits.store 0 [0, 0]).store 2 header).stored ↔ _
  rw [Buffer.mem_stored_store, Buffer.mem_stored_store, or_assoc]
  exact or_congr_right (by simp; omega)

def usable (data : List UInt8) : Nat := (syncIn data).elim 0 fun k => data.length - k

/-- At the start of a picture, the payload itself fits, but not with its extra picture header and
what is used of it. -/
def Overrun (s : Receiving) (payload : List UInt8) : Prop :=
  ∃ b0 b1 rest, payload = b0 :: b1 :: rest ∧ s.pos = 0 ∧ b0 &&& 0x04 = 0 ∧ plenOf b0 b1 ≠ 0
    ∧ headerEnd b0 b1 < payload.length
    ∧ payload.length - headerEnd b0 b1 + 2 ≤ s.bitsSize.1
    ∧ s.bitsSize.1 < 2 + plenOf b0 b1 + usable (payload.drop (headerEnd b0 b1))

/-- What a call comes to, in a state and with a payload. -/
structure Unpacked (s : Receiving) (payload : List UInt8) (s' : Receiving) : Prop where
  sound : ¬ Overrun s payload → s'.Sound
  overrun : Overrun s payload → ¬ s'.Inside

theorem usable_le (data : List UInt8) : usable data ≤ data.length := by
  unfold usable
  cases syncIn data with
  | none => exact Nat.zero_le _
  | some k => exact Nat.sub_le _ _

theorem writeResumed_usable (lost : s.unpackPrevLost = true) (q : Nat)
    (more : 0 < len) (whole : p + len = payload.length) :
    ∃ s' status, (writeResumed s q p len).run payload = .value (s', status)
      ∧ (s.Sound → q + usable (payload.drop p) ≤ s.bitsSize.1 → s'.Sound)
      ∧ s'.bitsSize = s.bitsSize
      ∧ ∀ i, i ∈ s'.bits.stored ↔ i ∈ s.bits.stored ∨ q ≤ i ∧ i < q + usable (payload.drop p) := by
  have run := writeResumed_run lost q more whole
  cases found : syncIn (payload.drop p) with
  | none =>
    rw [found] at run
    have nothing : usable (payload.drop p) = 0 := by
      rw [usable, found]
      rfl
    refine ⟨s, _, run, fun sound _ => sound, rfl, fun i => ?_⟩
    constructor
    · exact Or.inl
    · rintro (old | new)
      · exact old
      · omega
  | some k =>
    rw [found] at run
    have inside := syncIn_inside found
    have measured : usable (payload.drop p) = 2 + (payload.drop (p + k + 2)).length := by
      rw [usable, found]
      show (payload.drop p).length - k = _
      rw [List.length_drop] at inside ⊢
      rw [List.length_drop]
      omega
    refine ⟨_, _, run, fun sound fits => ?_, rfl, fun i => ?_⟩
    · refine written_sound sound.inside nofun ?_
      rw [if_pos rfl]
      omega
    · rw [mem_stored_written, if_pos rfl, measured]
      exact or_congr_right (by omega)

theorem resumed_unpacked (sound : s.Sound) {b0 b1 : UInt8} {rest : List UInt8}
    (noSync : b0 &&& 0x04 = 0) (header : p = headerEnd b0 b1)
    (whole : p + len = (b0 :: b1 :: rest).length) (more : 0 < len)
    (fits : s.pos + len + 2 ≤ s.bitsSize.1) :
    ∃ s' status, (do
        let (s, q) ← resume s (plenOf b0 b1) p
        writeResumed s q p len : PayloadReader (Receiving × Status)).run (b0 :: b1 :: rest)
          = .value (s', status)
      ∧ Unpacked s (b0 :: b1 :: rest) s' := by
  have behind : plenOf b0 b1 ≤ p := by
    rw [header]
    exact Nat.le_add_left _ _
  have overrun_iff : Overrun s (b0 :: b1 :: rest) ↔ s.pos = 0 ∧ plenOf b0 b1 ≠ 0
      ∧ s.bitsSize.1 < 2 + plenOf b0 b1 + usable ((b0 :: b1 :: rest).drop p) := by
    constructor
    · rintro ⟨_, _, _, ⟨⟩, start, -, extra, -, -, beyond⟩
      rw [← header] at beyond
      exact ⟨start, extra, beyond⟩
    · rintro ⟨start, extra, beyond⟩
      rw [header] at beyond
      exact ⟨b0, b1, rest, rfl, start, noSync, extra, by omega, by omega, beyond⟩
  have left := usable_le ((b0 :: b1 :: rest).drop p)
  rw [List.length_drop] at left
  generalize b0 :: b1 :: rest = payload at whole overrun_iff left ⊢
  rw [run_bind]
  by_cases start : s.pos = 0
  · rw [resume, if_pos start]
    by_cases extra : plenOf b0 b1 = 0
    · -- without an extra header, the payload is what is written
      obtain ⟨s', status, run, kept, -, -⟩ :=
        writeResumed_usable (s := s.lost) rfl 0 more whole
      rw [startPicture, if_neg (Decidable.not_not.2 extra)]
      refine ⟨s', status, run, fun _ => kept sound.lost ?_, fun beyond => ?_⟩
      · show 0 + _ ≤ s.bitsSize.1
        omega
      · exact absurd extra (overrun_iff.1 beyond).2.1
    · -- the extra header has been written when the payload is looked at
      obtain ⟨extraHeader, long, read⟩ := startPicture_run s extra behind (show p ≤ payload.length by
        omega)
      obtain ⟨s', status, run, kept, size, stored⟩ :=
        writeResumed_usable (s := headed s extraHeader) rfl (2 + plenOf b0 b1) more whole
      rw [read]
      refine ⟨s', status, run, fun fine => ?_, fun beyond => ?_⟩
      · have room : 2 + plenOf b0 b1 + usable (payload.drop p) ≤ s.bitsSize.1 := by
          by_contra short
          exact fine (overrun_iff.2 ⟨start, extra, by omega⟩)
        refine kept ⟨fun i stored => ?_, sound.ordered⟩ room
        show i < s.bitsSize.1
        rcases mem_stored_headed.1 stored with old | new
        · exact sound.inside i old
        · omega
      · intro inside
        have short := (overrun_iff.1 beyond).2.2
        have last := inside (2 + plenOf b0 b1 + usable (payload.drop p) - 1) ((stored _).2 ?_)
        · rw [size] at last
          change _ < s.bitsSize.1 at last
          omega
        · rw [mem_stored_headed, long]
          omega
  · have fine : ¬ Overrun s payload := fun beyond => start (overrun_iff.1 beyond).1
    rw [resume, if_neg start, run_pure, bind_value]
    dsimp only
    by_cases lost : s.unpackPrevLost = true
    · obtain ⟨s', status, run, kept, -, -⟩ :=
        writeResumed_usable lost s.unpackLastSyncPos more whole
      have ordered := sound.ordered start
      rw [if_pos lost]
      exact ⟨s', status, run, fun _ => kept sound (by omega), fun beyond => absurd beyond fine⟩
    · rw [if_neg lost, writeResumed, if_neg lost, writePayload_run s false s.pos (by omega)]
      refine ⟨_, _, rfl, fun _ => written_sound sound.inside (fun _ => sound.ordered start) ?_,
        fun beyond => absurd beyond fine⟩
      rw [if_neg (by simp), List.length_take]
      omega

theorem unpacketize_unpacked (sound : s.Sound) (payload : List UInt8) :
    ∃ s' status, (pjmediaH263Unpacketize s payload.length).run payload = .value (s', status)
      ∧ Unpacked s payload s' := by
  -- what is refused is not written
  have refused {s' : Receiving} (sound : s'.Sound) (fine : ¬ Overrun s payload) :
      Unpacked s payload s' :=
    ⟨fun _ => sound, fun beyond => absurd beyond fine⟩
  rw [pjmediaH263Unpacketize]
  match payload with
  | [] => exact ⟨_, _, rfl, refused sound.lost (by rintro ⟨_, _, _, ⟨⟩, -⟩)⟩
  | [_] => exact ⟨_, _, rfl, refused sound.lost (by rintro ⟨_, _, _, ⟨⟩, -⟩)⟩
  | b0 :: b1 :: rest =>
    have first : (octet 0 : PayloadReader UInt8).run (b0 :: b1 :: rest) = .value b0 :=
      octet_value.2 rfl
    have second : (octet 1 : PayloadReader UInt8).run (b0 :: b1 :: rest) = .value b1 :=
      octet_value.2 rfl
    obtain ⟨s₀, reset, sound₀, pos, size⟩ : ∃ s₀ : Receiving,
        (if s.pos = 0 then { s with unpackLastSyncPos := 0 } else s) = s₀ ∧ s₀.Sound
          ∧ s₀.pos = s.pos ∧ s₀.bitsSize = s.bitsSize := by
      split
      · exact ⟨_, rfl, ⟨sound.inside, fun _ => Nat.zero_le _⟩, rfl, rfl⟩
      · exact ⟨s, rfl, sound, rfl, rfl⟩
    have same : Overrun s₀ (b0 :: b1 :: rest) ↔ Overrun s (b0 :: b1 :: rest) := by
      unfold Overrun
      rw [pos, size]
    rw [if_neg (by simp), run_bind, reset, first, bind_value, run_bind, second, bind_value]
    by_cases short : (b0 :: b1 :: rest).length ≤ headerEnd b0 b1
    · rw [if_pos short]
      refine ⟨_, _, rfl, refused sound₀.lost ?_⟩
      rintro ⟨_, _, _, ⟨⟩, -, -, -, long, -⟩
      omega
    · rw [if_neg short]
      by_cases full : s₀.bitsSize.1 < s₀.pos + ((b0 :: b1 :: rest).length - headerEnd b0 b1) + 2
      · rw [if_pos full]
        refine ⟨_, _, rfl, refused sound₀.lost ?_⟩
        rintro ⟨_, _, _, ⟨⟩, start, -, -, -, fits, -⟩
        rw [pos, size, start] at full
        omega
      · rw [if_neg full]
        by_cases sync : b0 &&& 0x04 ≠ 0
        · rw [if_pos sync, writePayload_run s₀ true s₀.pos (by omega)]
          refine ⟨_, _, rfl, refused (written_sound sound₀.inside nofun ?_) ?_⟩
          · rw [if_pos rfl, List.length_take]
            omega
          · rintro ⟨_, _, _, ⟨⟩, -, noSync, -⟩
            exact sync noSync
        · rw [if_neg sync]
          have whole := Nat.add_sub_of_le (Nat.le_of_not_le short)
          obtain ⟨s', status, run, unpacked⟩ := resumed_unpacked sound₀
            (Decidable.not_not.1 sync) rfl whole (by omega) (Nat.not_lt.1 full)
          exact ⟨s', status, run, fun fine => unpacked.sound fun beyond => fine (same.1 beyond),
            fun beyond => unpacked.overrun (same.2 beyond)⟩

/-! ## Runs -/

/-- A call that is no overrun. -/
def Fits (s : Receiving) : Event → Prop
  | .payload octets => ¬ Overrun s octets
  | .lost => True
  | .newPicture _ => True

/-- The calls of a run read inside of their payloads and write below the size of the buffer
exactly if none of them is an overrun. -/
theorem receiver_inside_iff (cells : Nat → UInt8) (events : List Event) :
    Throughout step Receiving.Inside (Receiving.create cells) events
      ↔ Along step Fits (Receiving.create cells) events := by
  have allowed (s : Receiving) : Along step (fun _ _ => True) s events := by
    induction events generalizing s with
    | nil => trivial
    | cons event events ih => exact ⟨trivial, fun s' _ _ => ih s'⟩
  refine Along.throughout_iff_breaks (fun s sound => Receiving.Sound.inside sound) ?_ ?_
    (allowed _) (Receiving.create_sound cells)
  · intro s event sound _ fits
    cases event with
    | payload octets =>
      obtain ⟨s', status, run, unpacked⟩ := unpacketize_unpacked sound octets
      exact ⟨s', status, by rw [step, run], unpacked.sound fits⟩
    | lost => exact ⟨_, _, rfl, sound.lost⟩
    | newPicture bitsSize =>
      refine ⟨_, _, rfl, ⟨fun _ stored => absurd stored List.not_mem_nil, fun start => ?_⟩⟩
      exact absurd rfl start
  · intro s event s' status sound _ overrun taken
    cases event with
    | payload octets =>
      obtain ⟨found, _, run, unpacked⟩ := unpacketize_unpacked sound octets
      rw [step, run] at taken
      cases taken
      exact unpacked.overrun (not_not.1 overrun)
    | lost => exact absurd trivial overrun
    | newPicture bitsSize => exact absurd trivial overrun

end Pjsip.PjmediaCodec.H263
