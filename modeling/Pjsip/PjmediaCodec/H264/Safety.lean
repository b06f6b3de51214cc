import Pjsip.Base.Run
import Pjsip.PjmediaCodec.H264.Unpacketizer

/-!
# Where the receiver reads and writes

What is written is counted against the size of the buffer on every path. Reading goes one octet too
far when one is left behind the NAL units of an aggregation packet, and a payload of a type that is
not supported takes the position back to the start without the synchronisation position.
-/

namespace Pjsip.PjmediaCodec.H264

open Pjsip.Base Reader

variable {nalStart : NalStart}

/-- What has been written to is below the size of the buffer, and the synchronisation position is
not behind the position. -/
structure Receiving.Safe (s : Receiving) : Prop where
  inside : ∀ i ∈ s.bits.stored, i < s.bitsLen.1
  ordered : s.unpackLastSyncPos ≤ s.bitsPos

/-- Behind the NAL units of a payload and their sizes, one octet is left, and there is room for
them and for another start code. -/
inductive OneOver (nalStart : NalStart) : (room : Nat) → (rest : List UInt8) → Prop
  | last (x : UInt8) {room : Nat} (fits : nalStart.1 ≤ room) : OneOver nalStart room [x]
  | nal (a b : UInt8) (nal rest : List UInt8) {room : Nat}
      (size : nal.length = a.toNat * 256 + b.toNat) (fits : nalStart.1 + nal.length ≤ room)
      (beyond : OneOver nalStart (room - (nalStart.1 + nal.length)) rest) :
      OneOver nalStart room (a :: b :: (nal ++ rest))

theorem oneOver_nil {room : Nat} : ¬ OneOver nalStart room [] := nofun

theorem OneOver.room {room : Nat} {rest : List UInt8} (beyond : OneOver nalStart room rest) :
    nalStart.1 ≤ room := by
  cases beyond with
  | last x fits => exact fits
  | nal a b nal rest size fits beyond => omega

theorem oneOver_singleton {room : Nat} {x : UInt8} :
    OneOver nalStart room [x] ↔ nalStart.1 ≤ room :=
  ⟨OneOver.room, .last x⟩

theorem oneOver_cons {room : Nat} {a b : UInt8} {tail : List UInt8} {size : Nat}
    (own : size = a.toNat * 256 + b.toNat) :
    OneOver nalStart room (a :: b :: tail) ↔ nalStart.1 + size ≤ room ∧ size ≤ tail.length
      ∧ OneOver nalStart (room - (nalStart.1 + size)) (tail.drop size) := by
  constructor
  · generalize whole : a :: b :: tail = all
    intro beyond
    cases beyond with
    | last x fits => cases whole
    | nal a' b' nal rest long fits beyond =>
      cases whole
      rw [← own] at long
      refine ⟨by omega, by rw [List.length_append]; omega, ?_⟩
      rw [List.drop_left' long, ← long]
      exact beyond
  · rintro ⟨fits, inside, beyond⟩
    have long : (tail.take size).length = size := by
      rw [List.length_take]
      omega
    rw [← long] at fits beyond
    have nal := OneOver.nal a b (tail.take size) (tail.drop (tail.take size).length)
      (long.trans own) fits beyond
    rw [long, List.take_append_drop] at nal
    exact nal

/-! ## Writing -/

/-- A state in which the position is inside of the buffer. -/
structure Receiving.Sound (s : Receiving) : Prop extends s.Safe where
  within : s.bitsPos ≤ s.bitsLen.1

section Sound

variable {s : Receiving}

theorem Receiving.Sound.lost (sound : s.Sound) : s.lost.Sound :=
  ⟨⟨sound.inside, sound.ordered⟩, sound.within⟩

theorem Receiving.Sound.arrived (sound : s.Sound) : s.arrived.Sound :=
  ⟨⟨sound.inside, sound.ordered⟩, sound.within⟩

theorem Receiving.Sound.sync (sound : s.Sound) : s.sync.Sound :=
  ⟨⟨sound.inside, Nat.le_refl _⟩, sound.within⟩

theorem Receiving.Sound.write (sound : s.Sound) (p : Nat) (octets : List UInt8)
    (fits : p + octets.length ≤ s.bitsLen.1) : (s.write p octets).Sound where
  inside i stored := by
    show i < s.bitsLen.1
    rcases s.bits.mem_stored_store.1 stored with old | new
    · exact sound.inside i old
    · omega
  ordered := sound.ordered
  within := sound.within

theorem Receiving.Sound.moveTo (sound : s.Sound) (p : Nat) (onwards : s.bitsPos ≤ p)
    (fits : p ≤ s.bitsLen.1) : (s.moveTo p).Sound := by
  have counted := s.bitsLen.2
  have small : p % 2 ^ 32 = p := Nat.mod_eq_of_lt (by omega)
  refine ⟨⟨sound.inside, ?_⟩, ?_⟩
  · show s.unpackLastSyncPos ≤ p % 2 ^ 32
    have ordered := sound.ordered
    omega
  · show p % 2 ^ 32 ≤ s.bitsLen.1
    omega

end Sound

theorem nalStart_pos (nalStart : NalStart) : 3 ≤ nalStart.1 ∧ nalStart.1 ≤ 4 := by
  rcases nalStart.2 with three | four <;> omega

theorem nalStartCode_length (nalStart : NalStart) : (nalStartCode nalStart).length = nalStart.1 := by
  rw [nalStartCode, List.length_drop]
  show 4 - _ = _
  omega

/-! ## Calls -/

/-- Read inside of the payload, it comes to a sound state. -/
def Returns (payload : List UInt8) (r : PayloadReader (Receiving × Status)) : Prop :=
  ∃ s' status, r.run payload = .value (s', status) ∧ s'.Sound

section Calls

variable {s : Receiving} {payload : List UInt8}

theorem returns_pure {status : Status} (sound : s.Sound) : Returns payload (return (s, status)) :=
  ⟨s, status, rfl, sound⟩

theorem returns_octet {pos : Nat} {next : UInt8 → PayloadReader (Receiving × Status)}
    (inside : pos < payload.length) (then_ : ∀ q, Returns payload (next q)) :
    Returns payload (octet pos >>= next) := by
  obtain ⟨q, read⟩ : ∃ q, (octet pos : PayloadReader UInt8).run payload = .value q :=
    octet_inside (by omega)
  unfold Returns
  rw [run_bind, read]
  exact then_ q

theorem returns_octets {pos n : Nat} {next : Octets n → PayloadReader (Receiving × Status)}
    (inside : pos + n ≤ payload.length) (then_ : ∀ bytes, Returns payload (next bytes)) :
    Returns payload (octets pos n >>= next) := by
  obtain ⟨bytes, read, -⟩ := octets_inside (ε := Fault) inside
  unfold Returns
  rw [run_bind, read]
  exact then_ bytes

theorem unpackSingleNal_returns (sound : s.Sound) :
    Returns payload (unpackSingleNal nalStart s payload.length) := by
  have code := nalStartCode_length nalStart
  have positive := nalStart_pos nalStart
  unfold unpackSingleNal
  by_cases short : s.bitsLen.1 - s.bitsPos < payload.length + nalStart.1
  · rw [if_pos short]
    exact returns_pure sound
  · rw [if_neg short]
    refine returns_octets (by omega) fun nal => returns_pure ?_
    have length := nal.2
    have start := sound.write s.bitsPos (nalStartCode nalStart) (by omega)
    have whole := start.write (s.bitsPos + nalStart.1) nal.1 (show _ ≤ s.bitsLen.1 by omega)
    exact (whole.moveTo (s.bitsPos + nalStart.1 + payload.length) (show s.bitsPos ≤ _ by omega) (show _ ≤ s.bitsLen.1 by omega)).sync.arrived

theorem fragmentStart_length (nalStart : NalStart) (indicator header : UInt8) :
    (if header &&& 0x80 ≠ 0 then
      nalStartCode nalStart ++ [nalOctet indicator header] else []).length ≤ nalStart.1 + 1 := by
  split
  · rw [List.length_append, nalStartCode_length]
    exact Nat.le_refl _
  · exact Nat.zero_le _

theorem unpackFuA_returns (sound : s.Sound) (two : 2 ≤ payload.length) :
    Returns payload (unpackFuA nalStart s payload.length) := by
  have within := sound.within
  unfold unpackFuA
  by_cases short : s.bitsLen.1 - s.bitsPos < payload.length + nalStart.1
  · rw [if_pos short]
    exact returns_pure sound.lost
  · rw [if_neg short]
    refine returns_octet (by omega) fun indicator => returns_octet (by omega) fun header => ?_
    by_cases ignored : header &&& 0x80 = 0 ∧ s.unpackPrevLost = true
    · -- back to the synchronisation position
      rw [if_pos ignored]
      exact returns_pure ⟨⟨sound.inside, Nat.le_refl _⟩, sound.ordered.trans within⟩
    · rw [if_neg ignored]
      refine returns_octets (by omega) fun fragment => ?_
      generalize start_ : (if header &&& 0x80 ≠ 0 then
        nalStartCode nalStart ++ [nalOctet indicator header] else []) = start
      have few := fragmentStart_length nalStart indicator header
      rw [start_] at few
      have first := sound.write s.bitsPos start (by omega)
      have whole := first.write (s.bitsPos + start.length) fragment.1
        (show _ ≤ s.bitsLen.1 by omega)
      have moved := whole.moveTo (s.bitsPos + start.length + (payload.length - 2))
        (show s.bitsPos ≤ _ by omega) (show _ ≤ s.bitsLen.1 by omega)
      refine returns_pure ?_
      split
      · exact moved.sync.arrived
      · exact moved.arrived

theorem unpackStapA_returns (nalStart : NalStart) (payload : List UInt8) (fuel q : Nat)
    (sound : s.Sound)
    (enough : payload.length < fuel + q) (used : 0 < fuel) :
    (OneOver nalStart (s.bitsLen.1 - s.bitsPos) (payload.drop q)
      → (unpackStapA nalStart payload.length fuel q s).run payload = .outside)
    ∧ (¬ OneOver nalStart (s.bitsLen.1 - s.bitsPos) (payload.drop q)
      → Returns payload (unpackStapA nalStart payload.length fuel q s)) := by
  induction fuel generalizing q s with
  | zero => omega
  | succ fuel ih =>
    have code := nalStartCode_length nalStart
    have positive := nalStart_pos nalStart
    unfold unpackStapA
    by_cases more : q < payload.length ∧ s.bitsPos < s.bitsLen.1
    · rw [if_pos more]
      by_cases full : s.bitsLen.1 < s.bitsPos + nalStart.1
      · rw [if_pos full]
        refine ⟨fun beyond => ?_, fun _ => returns_pure sound⟩
        have room := beyond.room
        omega
      · rw [if_neg full]
        have started := sound.write s.bitsPos (nalStartCode nalStart) (by omega)
        obtain ⟨q0, first⟩ : ∃ q0, (octet q : PayloadReader UInt8).run payload = .value q0 :=
          octet_inside (by omega)
        unfold Returns
        rw [run_bind, first, bind_value]
        by_cases last : q + 1 = payload.length
        · -- the size is behind the payload
          obtain ⟨x, one⟩ : ∃ x, payload.drop q = [x] := by
            rw [← List.length_eq_one_iff, List.length_drop]
            omega
          rw [one, oneOver_singleton]
          refine ⟨fun _ => ?_, fun short => absurd (by omega) short⟩
          have beyond : (octet (q + 1) : PayloadReader UInt8).run payload = .outside := by
            by_contra inside
            have := octet_ne_outside.1 inside
            omega
          rw [run_bind, beyond]
          rfl
        · have second : (octet (q + 1) : PayloadReader UInt8).run payload
              = .value payload[q + 1] := octet_value.2 (List.getElem?_eq_getElem (by omega))
          have same : payload[q]? = some q0 := octet_value.1 first
          have there : payload.drop q = q0 :: payload[q + 1] :: payload.drop (q + 2) := by
            rw [List.drop_eq_getElem_cons (show q < payload.length by omega),
              List.drop_eq_getElem_cons (show q + 1 < payload.length by omega)]
            rw [List.getElem?_eq_getElem (show q < payload.length by omega)] at same
            cases same
            rfl
          rw [run_bind, second, bind_value, there]
          generalize payload[q + 1] = q1
          obtain ⟨size, own⟩ : ∃ size, size = q0.toNat * 256 + q1.toNat := ⟨_, rfl⟩
          rw [← own, oneOver_cons own, List.length_drop, List.drop_drop]
          -- the size is checked against the buffer and the payload before anything is copied
          by_cases bad : s.bitsLen.1 < s.bitsPos + nalStart.1 + size ∨ payload.length < q + 2 + size
          · rw [if_pos bad]
            exact ⟨fun beyond => absurd beyond.1 (by omega), fun _ => returns_pure started⟩
          · rw [if_neg bad]
            obtain ⟨nal, read, -⟩ := octets_inside (ε := Fault)
              (show q + 2 + size ≤ payload.length by omega)
            have written := started.write (s.bitsPos + nalStart.1) nal.1
              (show _ ≤ s.bitsLen.1 by omega)
            have moved := (written.moveTo (s.bitsPos + nalStart.1 + size)
              (show s.bitsPos ≤ _ by omega) (show _ ≤ s.bitsLen.1 by omega)).sync
            have next := ih (q + 2 + size) moved (by omega) (by omega)
            have counted := s.bitsLen.2
            have room : s.bitsLen.1 - (s.bitsPos + nalStart.1 + size) % 2 ^ 32
                = s.bitsLen.1 - s.bitsPos - (nalStart.1 + size) := by
              omega
            change (OneOver nalStart (s.bitsLen.1 - (s.bitsPos + nalStart.1 + size) % 2 ^ 32) _
              → _) ∧ (¬ OneOver nalStart
                (s.bitsLen.1 - (s.bitsPos + nalStart.1 + size) % 2 ^ 32) _ → _) at next
            rw [room] at next
            rw [run_bind, read, bind_value]
            refine ⟨fun beyond => next.1 beyond.2.2, fun fine => next.2 fun beyond => fine ?_⟩
            exact ⟨by omega, by omega, beyond⟩
    · rw [if_neg more]
      refine ⟨fun beyond => ?_, fun _ => returns_pure sound.arrived⟩
      have room := beyond.room
      have done : payload.drop q = [] := List.drop_eq_nil_of_le (by omega)
      rw [done] at beyond
      exact absurd beyond oneOver_nil

end Calls

/-- An aggregation packet that fits the buffer, with an octet behind its NAL units. -/
def Overreads (nalStart : NalStart) (s : Receiving) (payload : List UInt8) : Prop :=
  ∃ first rest, payload = first :: rest ∧ first &&& 0x1F = nalTypeStapA
    ∧ s.bitsPos + payload.length + 32 ≤ s.bitsLen.1
    ∧ OneOver nalStart (s.bitsLen.1 - s.bitsPos) rest

/-- A payload of another type, behind NAL units that are complete. -/
def GoesBack (s : Receiving) (payload : List UInt8) : Prop :=
  ∃ first rest, payload = first :: rest ∧ rest ≠ []
    ∧ ¬ (nalTypeSingleNalMin ≤ first &&& 0x1F ∧ first &&& 0x1F ≤ nalTypeSingleNalMax)
    ∧ first &&& 0x1F ≠ nalTypeStapA ∧ first &&& 0x1F ≠ nalTypeFuA ∧ s.unpackLastSyncPos ≠ 0

/-- What a call comes to, in a state and with a payload. -/
structure Unpacked (nalStart : NalStart) (s : Receiving) (payload : List UInt8) : Prop where
  overreads : Overreads nalStart s payload
    → (pjmediaH264Unpacketize nalStart s payload.length).run payload = .outside
  goesBack : GoesBack s payload → ∃ s' status,
    (pjmediaH264Unpacketize nalStart s payload.length).run payload = .value (s', status) ∧ ¬ s'.Safe
  returns : ¬ Overreads nalStart s payload → ¬ GoesBack s payload
    → Returns payload (pjmediaH264Unpacketize nalStart s payload.length)

theorem Receiving.Sound.reset {s : Receiving} (sound : s.Sound) : s.reset = s := by
  have ordered := sound.ordered
  unfold Receiving.reset
  split
  · have same : s.unpackLastSyncPos = 0 := by omega
    rw [← same]
  · rfl

theorem unpacketize_run (nalStart : NalStart) (s : Receiving) (first second : UInt8) (rest : List UInt8) :
    (pjmediaH264Unpacketize nalStart s (first :: second :: rest).length).run
        (first :: second :: rest)
      = (unpackByType nalStart s.reset (first :: second :: rest).length (first &&& 0x1F)).run
        (first :: second :: rest) := by
  have read : (octet 0 : PayloadReader UInt8).run (first :: second :: rest) = .value first :=
    octet_value.2 rfl
  rw [pjmediaH264Unpacketize, if_neg (by simp), run_bind, read, bind_value]

theorem unpacketize_unpacked (nalStart : NalStart) {s : Receiving} (sound : s.Sound) (payload : List UInt8) :
    Unpacked nalStart s payload := by
  match payload with
  | [] =>
    refine ⟨?_, ?_, fun _ _ => returns_pure sound.lost⟩
    · rintro ⟨_, _, ⟨⟩, -⟩
    · rintro ⟨_, _, ⟨⟩, -⟩
  | [_] =>
    refine ⟨?_, ?_, fun _ _ => returns_pure sound.lost⟩
    · rintro ⟨_, _, ⟨⟩, -, -, beyond⟩
      exact absurd beyond oneOver_nil
    · rintro ⟨_, _, ⟨⟩, nonempty, -⟩
      exact absurd rfl nonempty
  | first :: second :: rest =>
    have run := unpacketize_run nalStart s first second rest
    have two : 2 ≤ (first :: second :: rest).length := by simp
    rw [sound.reset] at run
    unfold unpackByType at run
    have stap : ¬ (nalTypeSingleNalMin ≤ nalTypeStapA ∧ nalTypeStapA ≤ nalTypeSingleNalMax) := by
      decide
    by_cases single : nalTypeSingleNalMin ≤ first &&& 0x1F ∧ first &&& 0x1F ≤ nalTypeSingleNalMax
    · rw [if_pos single] at run
      refine ⟨?_, ?_, fun _ _ => ?_⟩
      · rintro ⟨_, _, ⟨⟩, type, -⟩
        exact absurd (type ▸ single) stap
      · rintro ⟨_, _, ⟨⟩, -, other, -⟩
        exact absurd single other
      · unfold Returns
        rw [run]
        exact unpackSingleNal_returns sound
    · rw [if_neg single] at run
      by_cases type : first &&& 0x1F = nalTypeStapA
      · rw [if_pos type] at run
        have noBack : ¬ GoesBack s (first :: second :: rest) := by
          rintro ⟨_, _, ⟨⟩, -, -, other, -⟩
          exact other type
        by_cases short : s.bitsLen.1 - s.bitsPos < (first :: second :: rest).length + 32
        · rw [if_pos short] at run
          refine ⟨?_, fun back => absurd back noBack, fun _ _ => ?_⟩
          · rintro ⟨_, _, ⟨⟩, -, fits, -⟩
            omega
          · unfold Returns
            rw [run]
            exact returns_pure sound
        · rw [if_neg short] at run
          obtain ⟨beyond, fine⟩ := unpackStapA_returns nalStart (first :: second :: rest)
            (first :: second :: rest).length 1 sound (by omega) (by omega)
          refine ⟨?_, fun back => absurd back noBack, fun fits _ => ?_⟩
          · rintro ⟨_, _, ⟨⟩, -, -, left⟩
            rw [run]
            exact beyond left
          · unfold Returns
            rw [run]
            exact fine fun left => fits ⟨first, _, rfl, type, by omega, left⟩
      · rw [if_neg type] at run
        have noOver : ¬ Overreads nalStart s (first :: second :: rest) := by
          rintro ⟨_, _, ⟨⟩, same, -⟩
          exact type same
        by_cases fragment : first &&& 0x1F = nalTypeFuA
        · rw [if_pos fragment] at run
          refine ⟨fun beyond => absurd beyond noOver, ?_, fun _ _ => ?_⟩
          · rintro ⟨_, _, ⟨⟩, -, -, -, other, -⟩
            exact absurd fragment other
          · unfold Returns
            rw [run]
            exact unpackFuA_returns sound two
        · rw [if_neg fragment] at run
          refine ⟨fun beyond => absurd beyond noOver, ?_, fun _ stays => ?_⟩
          · rintro ⟨_, _, ⟨⟩, -, -, -, -, behind⟩
            refine ⟨_, _, run, fun safe => behind ?_⟩
            exact Nat.le_zero.1 safe.ordered
          · have start : s.unpackLastSyncPos = 0 := by
              by_contra behind
              exact stays ⟨first, _, rfl, List.cons_ne_nil _ _, single, type, fragment, behind⟩
            unfold Returns
            rw [run]
            exact returns_pure ⟨⟨sound.inside, start ▸ Nat.zero_le 0⟩, Nat.zero_le _⟩

/-! ## Runs -/

/-- A call that neither reads behind the payload nor leaves the synchronisation position behind. -/
def Careful (nalStart : NalStart) (s : Receiving) : Event → Prop
  | .payload octets => ¬ Overreads nalStart s octets ∧ ¬ GoesBack s octets
  | .lost => True

/-- A buffer before a picture is received. -/
def Receiving.start (bits : Nat → UInt8) (bitsLen : BitsLen) (prevLost : Bool) : Receiving where
  unpackLastSyncPos := 0
  unpackPrevLost := prevLost
  bits := { cells := bits, stored := [] }
  bitsLen := bitsLen
  bitsPos := 0

/-- The calls of a run read inside of their payloads, write below the size of the buffer and keep
the positions in order exactly if each of them is careful. -/
theorem receiver_safe_iff (nalStart : NalStart) (bits : Nat → UInt8) (bitsLen : BitsLen)
    (prevLost : Bool) (events : List Event) :
    Throughout (step nalStart) Receiving.Safe (Receiving.start bits bitsLen prevLost) events
      ↔ Along (step nalStart) (Careful nalStart) (Receiving.start bits bitsLen prevLost)
        events := by
  have allowed (s : Receiving) : Along (step nalStart) (fun _ _ => True) s events := by
    induction events generalizing s with
    | nil => trivial
    | cons event events ih => exact ⟨trivial, fun s' _ _ => ih s'⟩
  have start : (Receiving.start bits bitsLen prevLost).Sound :=
    ⟨⟨fun _ stored => absurd stored List.not_mem_nil, Nat.le_refl _⟩, Nat.zero_le _⟩
  refine Along.throughout_iff_breaks (fun s sound => Receiving.Sound.toSafe sound) ?_ ?_
    (allowed _) start
  · intro s event sound _ careful
    cases event with
    | payload octets =>
      obtain ⟨s', status, run, sound'⟩ :=
        (unpacketize_unpacked nalStart sound octets).returns careful.1 careful.2
      exact ⟨s', status, by rw [step, run], sound'⟩
    | lost => exact ⟨_, _, rfl, sound.lost⟩
  · intro s event s' status sound _ careless taken
    cases event with
    | payload octets =>
      have unpacked := unpacketize_unpacked nalStart sound octets
      by_cases beyond : Overreads nalStart s octets
      · rw [step, unpacked.overreads beyond] at taken
        cases taken
      · have back : GoesBack s octets := by
          by_contra stays
          exact careless ⟨beyond, stays⟩
        obtain ⟨found, _, run, unsafe_⟩ := unpacked.goesBack back
        rw [step, run] at taken
        cases taken
        exact unsafe_
    | lost => exact absurd trivial careless

end Pjsip.PjmediaCodec.H264
