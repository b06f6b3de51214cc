import Pjsip.PjmediaCodec.H264.Safety
import Mathlib.Data.List.Sublists

/-!
# NAL units in packets

What the packets of a picture are, however they have been made: single NAL units, aggregation
packets, and the fragments of a NAL unit one after the other. Some of the packets are lost on the
way.
-/

namespace Pjsip.PjmediaCodec.H264

open Pjsip.Base Reader

/-- A NAL unit: its octet, with the forbidden bit clear and a type from 1 to 23, and the rest. -/
structure NalUnit where
  octet : UInt8
  rest : List UInt8
  forbidden : octet &&& 0x80 = 0
  typed : nalTypeSingleNalMin ≤ octet &&& 0x1F ∧ octet &&& 0x1F ≤ nalTypeSingleNalMax
  deriving DecidableEq

def NalUnit.octets (unit : NalUnit) : List UInt8 := unit.octet :: unit.rest

/-- A NAL unit behind its start code. -/
def NalUnit.coded (nalStart : NalStart) (unit : NalUnit) : List UInt8 :=
  nalStartCode nalStart ++ unit.octets

def sizeOctets (size : Nat) : List UInt8 := [UInt8.ofNat (size / 256), UInt8.ofNat (size % 256)]

abbrev SizedUnit := { unit : NalUnit // unit.octets.length < 65536 }

def aggregated (units : List SizedUnit) : List UInt8 :=
  units.flatMap fun unit => sizeOctets unit.1.octets.length ++ unit.1.octets

abbrev StapAHeader := { header : UInt8 // header &&& 0x1F = nalTypeStapA }

/-- A packet, with what it carries. -/
inductive Packet where
  | single (unit : NalUnit)
  | stapA (header : StapAHeader) (units : List SizedUnit)
  | fuA (unit : NalUnit) (s e : Bool) (fragment : List UInt8)
  deriving DecidableEq

def fuIndicator (octet : UInt8) : UInt8 := (octet &&& 0x60) ||| nalTypeFuA

def fuHeader (octet : UInt8) (s e : Bool) : UInt8 :=
  (octet &&& 0x1F) ||| (if s then 0x80 else 0) ||| (if e then 0x40 else 0)

def Packet.octets : Packet → List UInt8
  | .single unit => unit.octets
  | .stapA header units => header.1 :: aggregated units
  | .fuA unit s e fragment => fuIndicator unit.octet :: fuHeader unit.octet s e :: fragment

/-- The packets of the NAL units of a picture, from one on of which fragments have been sent, if
there is one. -/
inductive Stream : (unfinished : Option (NalUnit × List UInt8)) → (units : List NalUnit) →
    (packets : List Packet) → Prop
  | done : Stream none [] []
  | single (unit : NalUnit) {units : List NalUnit} {packets : List Packet}
      (rest : Stream none units packets) :
      Stream none (unit :: units) (.single unit :: packets)
  | stapA (header : StapAHeader) (own : List SizedUnit) {units : List NalUnit}
      {packets : List Packet} (rest : Stream none units packets) :
      Stream none (own.map Subtype.val ++ units) (.stapA header own :: packets)
  | first (unit : NalUnit) (fragment : List UInt8) {units : List NalUnit} {packets : List Packet}
      (rest : Stream (some (unit, fragment)) units packets) :
      Stream none (unit :: units) (.fuA unit true false fragment :: packets)
  | middle (unit : NalUnit) (sent fragment : List UInt8) {units : List NalUnit}
      {packets : List Packet} (rest : Stream (some (unit, sent ++ fragment)) units packets) :
      Stream (some (unit, sent)) units (.fuA unit false false fragment :: packets)
  | last (unit : NalUnit) (sent fragment : List UInt8) {units : List NalUnit}
      {packets : List Packet} (whole : sent ++ fragment = unit.rest)
      (rest : Stream none units packets) :
      Stream (some (unit, sent)) units (.fuA unit false true fragment :: packets)

/-- A packet that begins a NAL unit. -/
def Packet.Begins : Packet → Prop
  | .single _ => True
  | .stapA _ _ => True
  | .fuA _ s _ _ => s = true

/-- A packet that completes a NAL unit. -/
def Packet.Completes : Packet → Prop
  | .single _ => True
  | .stapA _ _ => True
  | .fuA _ _ e _ => e = true

/-- The receiver is called with a packet, or with a null pointer where it was lost. -/
def stepPacket (nalStart : NalStart) (s : Receiving) (packet : Option Packet) :
    Option (Receiving × Status) :=
  step nalStart s (packet.elim .lost fun packet => .payload packet.octets)

/-- Some of the packets have arrived. -/
def Arrives (packets : List Packet) (arrivals : List (Option Packet)) : Prop :=
  List.Forall₂ (fun packet arrival => arrival = some packet ∨ arrival = none) packets arrivals

/-! ## The octets of a fragment -/

theorem fragment_octets (octet : UInt8) (forbidden : octet &&& 0x80 = 0) : ∀ s e : Bool,
    fuIndicator octet &&& 0x1F = nalTypeFuA
      ∧ nalOctet (fuIndicator octet) (fuHeader octet s e) = octet
      ∧ (fuHeader octet s e &&& 0x80 ≠ 0 ↔ s = true)
      ∧ (fuHeader octet s e &&& 0x40 ≠ 0 ↔ e = true) := by
  revert forbidden
  exact forall_octet (P := fun octet => octet &&& 0x80 = 0 → ∀ s e : Bool,
    fuIndicator octet &&& 0x1F = nalTypeFuA
      ∧ nalOctet (fuIndicator octet) (fuHeader octet s e) = octet
      ∧ (fuHeader octet s e &&& 0x80 ≠ 0 ↔ s = true)
      ∧ (fuHeader octet s e &&& 0x40 ≠ 0 ↔ e = true)) (by decide +kernel) octet

end Pjsip.PjmediaCodec.H264

/-!
# Receiving a picture of which packets are lost

Whichever packets are lost, what is below the synchronisation position are complete NAL units of the
picture. A fragment that comes after a loss brings the position back there. A packet that begins a
NAL unit does not, and an unfinished NAL unit in front of it stays in the buffer.
-/

namespace Pjsip.PjmediaCodec.H264

open Pjsip.Base Reader

variable {nalStart : NalStart}

/-! ## The position that a call goes out from -/

section Reset

variable (s : Receiving)

@[simp] theorem Receiving.reset_bitsPos : s.reset.bitsPos = s.bitsPos := by
  unfold Receiving.reset
  split <;> rfl

@[simp] theorem Receiving.reset_bits : s.reset.bits = s.bits := by
  unfold Receiving.reset
  split <;> rfl

@[simp] theorem Receiving.reset_prevLost : s.reset.unpackPrevLost = s.unpackPrevLost := by
  unfold Receiving.reset
  split <;> rfl

/-- The synchronisation position, once it is reset for a new picture. -/
def Receiving.synced : Nat := if s.bitsPos = 0 then 0 else s.unpackLastSyncPos

theorem Receiving.reset_lastSync : s.reset.unpackLastSyncPos = s.synced := by
  unfold Receiving.reset Receiving.synced
  split <;> rfl

@[simp] theorem Receiving.reset_synced : s.reset.synced = s.synced := by
  unfold Receiving.reset Receiving.synced
  split <;> simp_all

end Reset

/-! ## What is below the synchronisation position -/

/-- What has been written since: nothing, or the beginning of a NAL unit. -/
def Unfinished (nalStart : NalStart) : Option (NalUnit × List UInt8) → List UInt8
  | none => []
  | some (unit, sent) => nalStartCode nalStart ++ unit.octet :: sent

/-- Complete NAL units are below the synchronisation position. What has been received of another
one is behind them, if no packet of it was lost. -/
structure Holds (nalStart : NalStart) (unfinished : Option (NalUnit × List UInt8))
    (units : List NalUnit) (s : Receiving) : Prop where
  synced : s.bits.slice 0 s.synced = units.flatMap (NalUnit.coded nalStart)
  ordered : s.synced ≤ s.bitsPos
  current : s.unpackPrevLost = false → s.bits.slice 0 s.bitsPos
    = units.flatMap (NalUnit.coded nalStart) ++ Unfinished nalStart unfinished

/-- The octets below the position are complete NAL units of the picture, in order. -/
def Complete (nalStart : NalStart) (picture : List NalUnit) (s : Receiving) : Prop :=
  ∃ units : List NalUnit, units.Sublist picture
    ∧ s.bits.slice 0 s.bitsPos = units.flatMap (NalUnit.coded nalStart)

/-- A packet that begins a NAL unit finds the position at the synchronisation position, or at the
start. -/
def Tidy (s : Receiving) (arrival : Option Packet) : Prop :=
  ∀ packet, arrival = some packet → packet.Begins → s.bitsPos = 0 ∨ s.bitsPos = s.unpackLastSyncPos

variable {packet : Packet}

section Steps

variable {s : Receiving} {units : List NalUnit} {unfinished : Option (NalUnit × List UInt8)}

theorem Tidy.synced (tidy : Tidy s (some packet)) (begins : packet.Begins) :
    s.synced = s.bitsPos := by
  unfold Receiving.synced
  rcases tidy packet rfl begins with start | same
  · rw [if_pos start, start]
  · split
    · next start => exact start.symm
    · exact same.symm

theorem Holds.lost (holds : Holds nalStart unfinished units s)
    (later : Option (NalUnit × List UInt8)) : Holds nalStart later units s.lost :=
  ⟨holds.synced, holds.ordered, nofun⟩

theorem Holds.reset (holds : Holds nalStart unfinished units s) :
    Holds nalStart unfinished units s.reset := by
  obtain ⟨synced, ordered, current⟩ := holds
  constructor
  · simpa using synced
  · simpa using ordered
  · simpa using current

theorem Holds.tidied (holds : Holds nalStart unfinished units s) (tidy : s.synced = s.bitsPos) :
    s.bits.slice 0 s.bitsPos = units.flatMap (NalUnit.coded nalStart) := by
  rw [← tidy]
  exact holds.synced

end Steps

/-! ## What a call appends -/

/-- Octets have been written behind the position, which is moved behind them. -/
structure Appends (s s' : Receiving) (octets : List UInt8) : Prop where
  pos : s'.bitsPos = s.bitsPos + octets.length
  slice : s'.bits.slice 0 s'.bitsPos = s.bits.slice 0 s.bitsPos ++ octets
  before : ∀ n ≤ s.bitsPos, s'.bits.slice 0 n = s.bits.slice 0 n

section Appends

variable {s s' s'' : Receiving}

theorem appends_nil (pos : s'.bitsPos = s.bitsPos)
    (before : ∀ n ≤ s.bitsPos, s'.bits.slice 0 n = s.bits.slice 0 n) : Appends s s' [] where
  pos := pos
  slice := by
    rw [pos, before _ (Nat.le_refl _), List.append_nil]
  before := before

theorem Appends.trans {first second : List UInt8} (one : Appends s s' first)
    (two : Appends s' s'' second) : Appends s s'' (first ++ second) where
  pos := by
    rw [two.pos, one.pos, List.length_append, Nat.add_assoc]
  slice := by
    rw [two.slice, one.slice, List.append_assoc]
  before n within := by
    rw [two.before n (by rw [one.pos]; omega), one.before n within]

theorem appends_write (first second : List UInt8) {p : Nat}
    (behind : p = s.bitsPos + first.length) (fits : p + second.length ≤ s.bitsLen.1) :
    Appends s (((s.write s.bitsPos first).write p second).moveTo (p + second.length))
      (first ++ second) := by
  subst behind
  have counted := s.bitsLen.2
  have small : (s.bitsPos + first.length + second.length) % 2 ^ 32
      = s.bitsPos + first.length + second.length := Nat.mod_eq_of_lt (by omega)
  refine ⟨?_, ?_, fun n within => ?_⟩
  · show _ % 2 ^ 32 = _
    rw [small, List.length_append, Nat.add_assoc]
  · show Buffer.slice ((s.bits.store s.bitsPos first).store (s.bitsPos + first.length) second) 0
      (_ % 2 ^ 32) = _
    rw [small, Buffer.slice_store_last, Buffer.slice_store_last, List.append_assoc]
  · show Buffer.slice ((s.bits.store s.bitsPos first).store (s.bitsPos + first.length) second) 0 n
      = _
    rw [Buffer.slice_store_before _ (by omega), Buffer.slice_store_before _ (by omega)]

end Appends

section Calls

variable {s : Receiving}

theorem unpackSingleNal_run (nalStart : NalStart) (s : Receiving) (payload : List UInt8) :
    (unpackSingleNal nalStart s payload.length).run payload = .value (s, .error .etoosmall)
    ∨ ∃ s', (unpackSingleNal nalStart s payload.length).run payload = .value (s', .ok ())
      ∧ Appends s s' (nalStartCode nalStart ++ payload) ∧ s'.unpackLastSyncPos = s'.bitsPos := by
  unfold unpackSingleNal
  by_cases short : s.bitsLen.1 - s.bitsPos < payload.length + nalStart.1
  · left
    rw [if_pos short]
    rfl
  · right
    have code := nalStartCode_length nalStart
    have whole : (octets 0 payload.length : PayloadReader _).run payload = .value ⟨payload, rfl⟩ :=
      octets_between [] ⟨payload, rfl⟩ [] (List.append_nil _).symm rfl
    rw [if_neg short, run_bind, whole, bind_value]
    have appends := appends_write (s := s) (nalStartCode nalStart) payload
      (show s.bitsPos + nalStart.1 = _ by rw [code]) (by omega)
    exact ⟨_, rfl, { appends with }, rfl⟩

/-- A fragment is refused, or ignored after a loss if it is not the first one, or appended; the
last one moves the synchronisation position. -/
theorem unpackFuA_run (nalStart : NalStart) (s : Receiving) (indicator header : UInt8) (fragment : List UInt8) :
    (unpackFuA nalStart s (indicator :: header :: fragment).length).run
        (indicator :: header :: fragment) = .value (s.lost, .error .etoosmall)
    ∨ (header &&& 0x80 = 0 ∧ s.unpackPrevLost = true
      ∧ (unpackFuA nalStart s (indicator :: header :: fragment).length).run
        (indicator :: header :: fragment)
          = .value ({ s with bitsPos := s.unpackLastSyncPos }, .error .eignored))
    ∨ (¬ (header &&& 0x80 = 0 ∧ s.unpackPrevLost = true)
      ∧ ∃ s', (unpackFuA nalStart s (indicator :: header :: fragment).length).run
        (indicator :: header :: fragment) = .value (s', .ok ())
      ∧ Appends s s' ((if header &&& 0x80 ≠ 0 then
          nalStartCode nalStart ++ [nalOctet indicator header] else []) ++ fragment)
      ∧ s'.unpackLastSyncPos
        = if header &&& 0x40 ≠ 0 then s'.bitsPos else s.unpackLastSyncPos) := by
  have length : (indicator :: header :: fragment).length = fragment.length + 2 := rfl
  rw [length]
  unfold unpackFuA
  by_cases short : s.bitsLen.1 - s.bitsPos < fragment.length + 2 + nalStart.1
  · left
    rw [if_pos short]
    rfl
  · right
    have one : (octet 0 : PayloadReader UInt8).run (indicator :: header :: fragment)
        = .value indicator := octet_value.2 rfl
    have two : (octet 1 : PayloadReader UInt8).run (indicator :: header :: fragment)
        = .value header := octet_value.2 rfl
    have three : (octets 2 fragment.length : PayloadReader _).run (indicator :: header :: fragment)
        = .value ⟨fragment, rfl⟩ :=
      octets_between [indicator, header] ⟨fragment, rfl⟩ [] (by simp) rfl
    rw [if_neg short, run_bind, one, bind_value, run_bind, two, bind_value]
    by_cases ignored : header &&& 0x80 = 0 ∧ s.unpackPrevLost = true
    · left
      rw [if_pos ignored]
      exact ⟨ignored.1, ignored.2, rfl⟩
    · right
      rw [if_neg ignored, Nat.add_sub_cancel, run_bind, three, bind_value]
      refine ⟨ignored, _, rfl, ?_⟩
      generalize start_ : (if header &&& 0x80 ≠ 0 then
        nalStartCode nalStart ++ [nalOctet indicator header] else []) = start
      have few := fragmentStart_length nalStart indicator header
      rw [start_] at few
      have appends := appends_write (s := s) start fragment rfl (by omega)
      split
      · exact ⟨{ appends with }, rfl⟩
      · exact ⟨{ appends with }, rfl⟩

theorem size_read {size : Nat} (small : size < 65536) :
    (UInt8.ofNat (size / 256)).toNat * 256 + (UInt8.ofNat (size % 256)).toNat = size := by
  rw [UInt8.toNat_ofNat', UInt8.toNat_ofNat']
  omega

theorem aggregated_length (units : List SizedUnit) : units.length ≤ (aggregated units).length := by
  induction units with
  | nil => exact Nat.le_refl _
  | cons unit units ih =>
    rw [aggregated, List.flatMap_cons, List.length_append, List.length_append, List.length_cons]
    have two : (sizeOctets unit.1.octets.length).length = 2 := rfl
    change units.length ≤ (units.flatMap _).length at ih
    omega

/-- Some of the NAL units of an aggregation packet are appended, from the first one on: the others
may not fit. By induction on those that are left. -/
theorem unpackStapA_run (nalStart : NalStart) (units : List SizedUnit) (before : List UInt8)
    (fuel : Nat) {payloadLen : Nat}
    (whole : (before ++ aggregated units).length = payloadLen) (enough : units.length < fuel)
    (synced : s.unpackLastSyncPos = s.bitsPos) :
    ∃ s' status front, (unpackStapA nalStart payloadLen fuel before.length s).run
        (before ++ aggregated units) = .value (s', status)
      ∧ List.Sublist front (units.map Subtype.val)
      ∧ Appends s s' (front.flatMap (NalUnit.coded nalStart))
      ∧ s'.unpackLastSyncPos = s'.bitsPos := by
  induction units generalizing before fuel s with
  | nil =>
    obtain ⟨fuel, rfl⟩ := Nat.exists_eq_succ_of_ne_zero (Nat.ne_of_gt enough)
    have ends : ¬ (before.length < payloadLen ∧ s.bitsPos < s.bitsLen.1) := by
      have last : before.length = payloadLen := by
        rw [← whole]
        simp [aggregated]
      omega
    refine ⟨s.arrived, .ok (), [], ?_, .refl _, appends_nil rfl fun _ _ => rfl, synced⟩
    rw [unpackStapA, if_neg ends]
    rfl
  | cons unit units ih =>
    obtain ⟨fuel, rfl⟩ := Nat.exists_eq_succ_of_ne_zero (Nat.ne_of_gt (Nat.zero_lt_of_lt enough))
    obtain ⟨size, own⟩ : ∃ size, size = unit.1.octets.length := ⟨_, rfl⟩
    have small : size < 65536 := own ▸ unit.2
    have octets : before ++ aggregated (unit :: units)
        = (before ++ (sizeOctets size ++ unit.1.octets)) ++ aggregated units := by
      rw [own]
      simp [aggregated]
    have code := nalStartCode_length nalStart
    rw [unpackStapA]
    by_cases more : before.length < payloadLen ∧ s.bitsPos < s.bitsLen.1
    · rw [if_pos more]
      by_cases full : s.bitsLen.1 < s.bitsPos + nalStart.1
      · rw [if_pos full]
        exact ⟨_, _, [], rfl, List.nil_sublist _, appends_nil rfl fun _ _ => rfl, synced⟩
      · have first : (octet before.length : PayloadReader UInt8).run
            (before ++ aggregated (unit :: units)) = .value (UInt8.ofNat (size / 256)) :=
          octet_between before _ (UInt8.ofNat (size % 256) :: (unit.1.octets
            ++ aggregated units)) (by rw [octets]; simp [sizeOctets]) rfl
        have second : (octet (before.length + 1) : PayloadReader UInt8).run
            (before ++ aggregated (unit :: units)) = .value (UInt8.ofNat (size % 256)) :=
          octet_between (before ++ [UInt8.ofNat (size / 256)]) _ (unit.1.octets
            ++ aggregated units) (by rw [octets]; simp [sizeOctets]) (by simp)
        rw [if_neg full, run_bind, first, bind_value, run_bind, second, bind_value, size_read small]
        by_cases bad : s.bitsLen.1 < s.bitsPos + nalStart.1 + size
            ∨ payloadLen < before.length + 2 + size
        · -- the start code is written, but not counted
          rw [if_pos bad]
          refine ⟨_, _, [], rfl, List.nil_sublist _, appends_nil rfl fun n within => ?_, synced⟩
          exact Buffer.slice_store_before _ (by omega)
        · have nal : (Reader.octets (before.length + 2) size : PayloadReader _).run
              (before ++ aggregated (unit :: units)) = .value ⟨unit.1.octets, own.symm⟩ :=
            octets_between (before ++ sizeOctets size) ⟨unit.1.octets, own.symm⟩
              (aggregated units) (by rw [octets]; simp) (by simp [sizeOctets])
          have appends := appends_write (s := s) (nalStartCode nalStart) unit.1.octets
            (show s.bitsPos + nalStart.1 = _ by rw [code]) (by omega)
          rw [← own] at appends
          have next : before.length + 2 + size
              = (before ++ (sizeOctets size ++ unit.1.octets)).length := by
            simp only [List.length_append, sizeOctets, List.length_cons, List.length_nil, ← own]
            omega
          rw [if_neg bad, run_bind, nal, bind_value, next]
          rw [octets] at whole ⊢
          obtain ⟨s', status, front, run, sub, more_, synced'⟩ := ih
            (before ++ (sizeOctets size ++ unit.1.octets)) fuel whole (by simpa using enough)
            (s := (((s.write s.bitsPos (nalStartCode nalStart)).write (s.bitsPos + nalStart.1)
              unit.1.octets).moveTo (s.bitsPos + nalStart.1 + size)).sync) rfl
          refine ⟨s', status, unit.1 :: front, run, sub.cons_cons _, ?_, synced'⟩
          have written : Appends s (((s.write s.bitsPos (nalStartCode nalStart)).write
              (s.bitsPos + nalStart.1) unit.1.octets).moveTo (s.bitsPos + nalStart.1 + size)).sync
              (unit.1.coded nalStart) :=
            { appends with }
          rw [List.flatMap_cons]
          exact written.trans more_
    · rw [if_neg more]
      exact ⟨_, _, [], rfl, List.nil_sublist _, appends_nil rfl fun _ _ => rfl, synced⟩

end Calls

/-! ## One packet -/

section Packets

variable {s : Receiving} {units : List NalUnit}

theorem Appends.holds {s' : Receiving} {front : List NalUnit}
    (appends : Appends s s' (front.flatMap (NalUnit.coded nalStart)))
    (tidied : s.bits.slice 0 s.bitsPos = units.flatMap (NalUnit.coded nalStart))
    (synced : s'.unpackLastSyncPos = s'.bitsPos) :
    Holds nalStart none (units ++ front) s' ∧ s'.synced = s'.bitsPos := by
  have same : s'.synced = s'.bitsPos := by
    unfold Receiving.synced
    split
    · next start => exact start.symm
    · exact synced
  have slice : s'.bits.slice 0 s'.bitsPos = (units ++ front).flatMap (NalUnit.coded nalStart) := by
    rw [appends.slice, tidied, List.flatMap_append]
  refine ⟨⟨by rw [same, slice], Nat.le_of_eq same, fun _ => ?_⟩, same⟩
  rw [slice]
  exact (List.append_nil _).symm

theorem stepPacket_run {first second : UInt8} {rest : List UInt8}
    (octets : packet.octets = first :: second :: rest) :
    stepPacket nalStart s (some packet)
      = match (unpackByType nalStart s.reset (first :: second :: rest).length (first &&& 0x1F)).run
          (first :: second :: rest) with
        | .value result => some result
        | .error _ => none
        | .outside => none := by
  rw [← unpacketize_run, ← octets]
  rfl

/-- What has been received is a part of what has been sent, and has been received whole. -/
def Received (nalStart : NalStart) (sent : List NalUnit) (s : Receiving) : Prop :=
  ∃ units : List NalUnit, units.Sublist sent ∧ Holds nalStart none units s ∧ s.synced = s.bitsPos

theorem single_received (holds : Holds nalStart none units s) (unit : NalUnit)
    (tidy : s.synced = s.bitsPos) :
    ∃ s' status, stepPacket nalStart s (some (.single unit)) = some (s', status)
      ∧ Received nalStart (units ++ [unit]) s' := by
  have tidied := holds.tidied tidy
  have refused := List.sublist_append_left units [unit]
  match octets : unit.rest with
  | [] =>
    -- a NAL unit of one octet is refused
    have short : (Packet.single unit).octets = [unit.octet] := by
      show unit.octet :: unit.rest = _
      rw [octets]
    refine ⟨s.lost, .error .einval, ?_, units, refused, holds.lost none, tidy⟩
    show step nalStart s (.payload (Packet.single unit).octets) = _
    rw [short]
    rfl
  | second :: rest =>
    have payload : (Packet.single unit).octets = unit.octet :: second :: rest := by
      show unit.octet :: unit.rest = _
      rw [octets]
    rw [stepPacket_run payload, unpackByType, if_pos unit.typed, ← payload]
    rcases unpackSingleNal_run nalStart s.reset (Packet.single unit).octets with
      run | ⟨s', run, appends, synced⟩
    · rw [run]
      exact ⟨s.reset, _, rfl, units, refused, holds.reset, by simpa using tidy⟩
    · have own : Appends s.reset s' ([unit].flatMap (NalUnit.coded nalStart)) := by
        rw [List.flatMap_singleton]
        exact appends
      rw [run]
      exact ⟨s', _, rfl, units ++ [unit], .refl _, own.holds (by simpa using tidied) synced⟩

theorem stapA_received (holds : Holds nalStart none units s) (header : StapAHeader)
    (own : List SizedUnit) (tidy : s.synced = s.bitsPos) :
    ∃ s' status, stepPacket nalStart s (some (.stapA header own)) = some (s', status)
      ∧ Received nalStart (units ++ own.map Subtype.val) s' := by
  have tidied := holds.tidied tidy
  have refused := List.sublist_append_left units (own.map Subtype.val)
  match aggregate : aggregated own with
  | [] =>
    have short : (Packet.stapA header own).octets = [header.1] := by
      show header.1 :: aggregated own = _
      rw [aggregate]
    refine ⟨s.lost, .error .einval, ?_, units, refused, holds.lost none, tidy⟩
    show step nalStart s (.payload (Packet.stapA header own).octets) = _
    rw [short]
    rfl
  | second :: rest =>
    have payload : (Packet.stapA header own).octets = header.1 :: second :: rest := by
      show header.1 :: aggregated own = _
      rw [aggregate]
    have other : ¬ (nalTypeSingleNalMin ≤ nalTypeStapA ∧ nalTypeStapA ≤ nalTypeSingleNalMax) := by
      decide
    have few := aggregated_length own
    rw [stepPacket_run payload, unpackByType, header.2, if_neg other, if_pos rfl]
    by_cases short : s.reset.bitsLen.1 - s.reset.bitsPos < (header.1 :: second :: rest).length + 32
    · rw [if_pos short]
      exact ⟨s.reset, _, rfl, units, refused, holds.reset, by simpa using tidy⟩
    · have synced : s.reset.unpackLastSyncPos = s.reset.bitsPos := by
        rw [s.reset_lastSync, tidy, s.reset_bitsPos]
      obtain ⟨s', status, front, run, sub, appends, synced'⟩ := unpackStapA_run
        nalStart own [header.1] (header.1 :: second :: rest).length (by rw [aggregate])
        (by rw [aggregate] at few; exact Nat.lt_succ_of_le few) synced
      rw [aggregate] at run
      rw [if_neg short]
      change (unpackStapA nalStart (header.1 :: second :: rest).length _ 1 s.reset).run
        (header.1 :: second :: rest) = _ at run
      rw [run]
      refine ⟨s', status, rfl, units ++ front, (List.Sublist.refl units).append sub, ?_⟩
      exact appends.holds (by simpa using tidied) synced'

theorem stepPacket_fuA (unit : NalUnit) (first last : Bool) (fragment : List UInt8) :
    stepPacket nalStart s (some (.fuA unit first last fragment))
      = match (unpackFuA nalStart s.reset (fuIndicator unit.octet
            :: fuHeader unit.octet first last :: fragment).length).run
          (fuIndicator unit.octet :: fuHeader unit.octet first last :: fragment) with
        | .value result => some result
        | .error _ => none
        | .outside => none := by
  have type := (fragment_octets unit.octet unit.forbidden first last).1
  have other : ¬ (nalTypeSingleNalMin ≤ nalTypeFuA ∧ nalTypeFuA ≤ nalTypeSingleNalMax)
      ∧ nalTypeFuA ≠ nalTypeStapA := by
    decide
  rw [stepPacket_run rfl, unpackByType, type, if_neg other.1, if_neg other.2, if_pos rfl]

theorem Appends.unmoved {s' : Receiving} {octets : List UInt8}
    {unfinished : Option (NalUnit × List UInt8)} (appends : Appends s.reset s' octets)
    (holds : Holds nalStart unfinished units s) (moved : s'.bitsPos ≠ 0)
    (sync : s'.unpackLastSyncPos = s.reset.unpackLastSyncPos) :
    s'.bits.slice 0 s'.synced = units.flatMap (NalUnit.coded nalStart)
      ∧ s'.synced ≤ s'.bitsPos := by
  have same : s'.synced = s.synced := by
    rw [Receiving.synced, if_neg moved, sync, s.reset_lastSync]
  have ordered := holds.ordered
  have pos := appends.pos
  have before := appends.before s.synced (by simpa using ordered)
  rw [s.reset_bits] at before
  rw [s.reset_bitsPos] at pos
  rw [same, before]
  exact ⟨holds.synced, by omega⟩

theorem first_received (holds : Holds nalStart none units s) (unit : NalUnit)
    (fragment : List UInt8) (tidy : s.synced = s.bitsPos) :
    ∃ s' status, stepPacket nalStart s (some (.fuA unit true false fragment)) = some (s', status)
      ∧ Holds nalStart (some (unit, fragment)) units s' := by
  obtain ⟨-, octet, start, end_⟩ := fragment_octets unit.octet unit.forbidden true false
  rw [stepPacket_fuA]
  rcases unpackFuA_run nalStart s.reset (fuIndicator unit.octet) (fuHeader unit.octet true false)
    fragment with run | ⟨other, -, -⟩ | ⟨-, s', run, appends, sync⟩
  · rw [run]
    exact ⟨_, _, rfl, holds.reset.lost _⟩
  · exact absurd other (start.2 rfl)
  · rw [if_neg fun h => nomatch end_.1 h] at sync
    rw [if_pos (start.2 rfl), octet] at appends
    have moved : s'.bitsPos ≠ 0 := by
      rw [appends.pos]
      simp only [List.length_append, List.length_cons]
      omega
    obtain ⟨synced, ordered⟩ := appends.unmoved holds moved sync
    rw [run]
    refine ⟨s', _, rfl, synced, ordered, fun _ => ?_⟩
    rw [appends.slice, s.reset_bits, s.reset_bitsPos, holds.tidied tidy]
    simp [Unfinished]

/-- A fragment that is not the first one: there is no room for it, or it is ignored after a loss,
or it is behind what has been received. -/
theorem later_received (nalStart : NalStart) (s : Receiving) (unit : NalUnit) (last : Bool)
    (fragment : List UInt8) :
    ∃ s' status, stepPacket nalStart s (some (.fuA unit false last fragment)) = some (s', status)
      ∧ (s' = s.reset.lost ∧ status = .error .etoosmall
        ∨ s' = { s.reset with bitsPos := s.reset.unpackLastSyncPos } ∧ s.unpackPrevLost = true
        ∨ Appends s.reset s' fragment ∧ s.unpackPrevLost = false ∧ s'.unpackLastSyncPos
            = if last = true then s'.bitsPos else s.reset.unpackLastSyncPos) := by
  obtain ⟨-, -, start, end_⟩ := fragment_octets unit.octet unit.forbidden false last
  have noStart : ¬ fuHeader unit.octet false last &&& 0x80 ≠ 0 := fun h => nomatch start.1 h
  rw [stepPacket_fuA]
  rcases unpackFuA_run nalStart s.reset (fuIndicator unit.octet) (fuHeader unit.octet false last)
    fragment with run | ⟨-, lost, run⟩ | ⟨here, s', run, appends, sync⟩
  · rw [run]
    exact ⟨_, _, rfl, .inl ⟨rfl, rfl⟩⟩
  · rw [run]
    exact ⟨_, _, rfl, .inr (.inl ⟨rfl, by simpa using lost⟩)⟩
  · rw [if_neg noStart, List.nil_append] at appends
    rw [run]
    refine ⟨s', _, rfl, .inr (.inr ⟨appends, ?_, ?_⟩)⟩
    · by_contra lost
      exact here ⟨Decidable.not_not.1 noStart, by simpa using lost⟩
    · rw [sync]
      by_cases ends : last = true
      · rw [if_pos ends, if_pos (end_.2 ends)]
      · rw [if_neg ends, if_neg fun h => ends (end_.1 h)]

theorem Holds.back {unfinished : Option (NalUnit × List UInt8)}
    (holds : Holds nalStart unfinished units s) (lost : s.unpackPrevLost = true)
    (later : Option (NalUnit × List UInt8)) :
    Holds nalStart later units { s.reset with bitsPos := s.reset.unpackLastSyncPos }
      ∧ Receiving.synced { s.reset with bitsPos := s.reset.unpackLastSyncPos }
        = s.reset.unpackLastSyncPos := by
  have same : Receiving.synced { s.reset with bitsPos := s.reset.unpackLastSyncPos }
      = s.reset.unpackLastSyncPos := by
    show (if s.reset.unpackLastSyncPos = 0 then 0 else s.reset.unpackLastSyncPos) = _
    split
    · next start => exact start.symm
    · rfl
  refine ⟨⟨?_, Nat.le_of_eq same, fun here => ?_⟩, same⟩
  · rw [same]
    show s.reset.bits.slice 0 s.reset.unpackLastSyncPos = _
    rw [s.reset_bits, s.reset_lastSync]
    exact holds.synced
  · change s.reset.unpackPrevLost = false at here
    rw [s.reset_prevLost, lost] at here
    nomatch here

variable {sent : List UInt8}

variable {unit : NalUnit}

theorem Holds.begun
    (holds : Holds nalStart (some (unit, sent)) units s) (here : s.unpackPrevLost = false) :
    s.bitsPos ≠ 0 := by
  have length := congrArg List.length (holds.current here)
  have code := nalStartCode_length nalStart
  have positive := nalStart_pos nalStart
  rw [Buffer.slice_length, List.length_append, Unfinished, List.length_append] at length
  omega

theorem middle_received
    (holds : Holds nalStart (some (unit, sent)) units s) (fragment : List UInt8) :
    ∃ s' status, stepPacket nalStart s (some (.fuA unit false false fragment)) = some (s', status)
      ∧ Holds nalStart (some (unit, sent ++ fragment)) units s' := by
  obtain ⟨s', status, taken, outcome⟩ := later_received nalStart s unit false fragment
  refine ⟨s', status, taken, ?_⟩
  rcases outcome with ⟨rfl, -⟩ | ⟨rfl, lost⟩ | ⟨appends, here, sync⟩
  · exact holds.reset.lost _
  · exact (holds.back lost _).1
  · have pos := appends.pos
    rw [s.reset_bitsPos] at pos
    have begun := holds.begun here
    obtain ⟨synced, ordered⟩ := appends.unmoved holds (by omega) sync
    refine ⟨synced, ordered, fun _ => ?_⟩
    rw [appends.slice, s.reset_bits, s.reset_bitsPos, holds.current here]
    simp [Unfinished]

/-- The last fragment completes the NAL unit, or is ignored; if there is no room for it, what has
been received stays. -/
theorem last_received
    (holds : Holds nalStart (some (unit, sent)) units s) (fragment : List UInt8)
    (whole : sent ++ fragment = unit.rest) :
    ∃ s' status, stepPacket nalStart s (some (.fuA unit false true fragment)) = some (s', status)
      ∧ (status = .error .etoosmall ∧ Holds nalStart none units s'
        ∨ Received nalStart (units ++ [unit]) s') := by
  obtain ⟨s', status, taken, outcome⟩ := later_received nalStart s unit true fragment
  refine ⟨s', status, taken, ?_⟩
  rcases outcome with ⟨rfl, refused⟩ | ⟨rfl, lost⟩ | ⟨appends, here, sync⟩
  · exact .inl ⟨refused, holds.reset.lost _⟩
  · exact .inr ⟨units, List.sublist_append_left .., holds.back lost _⟩
  · have slice : s'.bits.slice 0 s'.bitsPos
        = (units ++ [unit]).flatMap (NalUnit.coded nalStart) := by
      rw [appends.slice, s.reset_bits, s.reset_bitsPos, holds.current here, List.flatMap_append,
        List.flatMap_singleton, NalUnit.coded, NalUnit.octets, ← whole]
      simp [Unfinished]
    have same : s'.synced = s'.bitsPos := by
      unfold Receiving.synced
      split
      · next start => exact start.symm
      · exact sync
    refine .inr ⟨units ++ [unit], .refl _, ⟨by rw [same, slice], Nat.le_of_eq same, fun _ => ?_⟩,
      same⟩
    rw [slice]
    exact (List.append_nil _).symm

end Packets

/-! ## The packets of a picture -/

/-- A state with complete NAL units, of those that have been sent. -/
def Keeps (nalStart : NalStart) (unfinished : Option (NalUnit × List UInt8))
    (sent : List NalUnit) (s : Receiving) : Prop :=
  ∃ units : List NalUnit, units.Sublist sent ∧ Holds nalStart unfinished units s

/-- After a packet that completes a NAL unit and is not refused for want of room, there are only
complete NAL units of the picture. -/
def Completed (nalStart : NalStart) (picture : List NalUnit) (_s : Receiving)
    (arrival : Option Packet) (s' : Receiving) (status : Status) : Prop :=
  ∀ packet, arrival = some packet → packet.Completes → status ≠ .error .etoosmall
    → Complete nalStart picture s'

theorem Received.complete {sent picture : List NalUnit} {s : Receiving}
    (received : Received nalStart sent s) (part : sent.Sublist picture) :
    Complete nalStart picture s := by
  obtain ⟨units, sub, holds, tidy⟩ := received
  exact ⟨units, sub.trans part, holds.tidied tidy⟩

theorem stepwise_arrival {picture : List NalUnit} {s : Receiving}
    {arrival : Option Packet} {arrivals : List (Option Packet)}
    (arrives : arrival = some packet ∨ arrival = none)
    (tidy : Along (stepPacket nalStart) Tidy s (arrival :: arrivals))
    (delivered : Tidy s (some packet) → ∃ s' status,
      stepPacket nalStart s (some packet) = some (s', status)
        ∧ (packet.Completes → status ≠ .error .etoosmall → Complete nalStart picture s')
        ∧ (Along (stepPacket nalStart) Tidy s' arrivals
          → Stepwise (stepPacket nalStart) (Completed nalStart picture) s' arrivals))
    (lost : Along (stepPacket nalStart) Tidy s.lost arrivals
      → Stepwise (stepPacket nalStart) (Completed nalStart picture) s.lost arrivals) :
    Stepwise (stepPacket nalStart) (Completed nalStart picture) s (arrival :: arrivals) := by
  obtain ⟨here, later⟩ := tidy
  rcases arrives with rfl | rfl
  · obtain ⟨s', status, taken, complete, rest⟩ := delivered here
    refine ⟨s', status, taken, ?_, rest (later s' status taken)⟩
    rintro _ ⟨⟩
    exact complete
  · exact ⟨s.lost, .ok (), rfl, nofun, lost (later s.lost (.ok ()) rfl)⟩

theorem stream_completed {unfinished : Option (NalUnit × List UInt8)} {units : List NalUnit}
    {packets : List Packet} (stream : Stream unfinished units packets)
    {arrivals : List (Option Packet)} (arrives : Arrives packets arrivals)
    {picture sent : List NalUnit}
    (whole : sent ++ (unfinished.elim [] fun open_ => [open_.1]) ++ units = picture)
    {s : Receiving} (keeps : Keeps nalStart unfinished sent s)
    (tidy : Along (stepPacket nalStart) Tidy s arrivals) :
    Stepwise (stepPacket nalStart) (Completed nalStart picture) s arrivals := by
  -- by induction on the packets that are left. The NAL units of the packets before them are in
  -- `sent`, but for the one that is being received.
  induction stream generalizing arrivals sent s with
  | done =>
    cases arrives
    trivial
  | @single unit units packets rest ih =>
    cases arrives with
    | cons here later =>
      obtain ⟨kept, sub, holds⟩ := keeps
      have whole' : sent ++ [unit] ++ [] ++ units = picture := by
        rw [← whole]
        simp
      have part : (sent ++ [unit]).Sublist picture := by
        rw [← whole', List.append_nil]
        exact List.sublist_append_left ..
      refine stepwise_arrival here tidy (fun tidy => ?_) fun tidy => ?_
      · obtain ⟨s', status, taken, received⟩ := single_received holds unit (tidy.synced trivial)
        obtain ⟨kept', sub', holds', synced'⟩ := received
        have sub'' := sub'.trans (sub.append (.refl [unit]))
        exact ⟨s', status, taken, fun _ _ => Received.complete ⟨kept', sub'', holds', synced'⟩
          part, ih later whole' ⟨kept', sub'', holds'⟩⟩
      · exact ih later whole' ⟨kept, sub.trans (List.sublist_append_left ..), holds.lost none⟩ tidy
  | @stapA header own units packets rest ih =>
    cases arrives with
    | cons here later =>
      obtain ⟨kept, sub, holds⟩ := keeps
      have whole' : sent ++ own.map Subtype.val ++ [] ++ units = picture := by
        rw [← whole]
        simp
      have part : (sent ++ own.map Subtype.val).Sublist picture := by
        rw [← whole', List.append_nil]
        exact List.sublist_append_left ..
      refine stepwise_arrival here tidy (fun tidy => ?_) fun tidy => ?_
      · obtain ⟨s', status, taken, received⟩ :=
          stapA_received holds header own (tidy.synced trivial)
        obtain ⟨kept', sub', holds', synced'⟩ := received
        have sub'' := sub'.trans (sub.append (.refl (own.map Subtype.val)))
        exact ⟨s', status, taken, fun _ _ => Received.complete ⟨kept', sub'', holds', synced'⟩
          part, ih later whole' ⟨kept', sub'', holds'⟩⟩
      · exact ih later whole' ⟨kept, sub.trans (List.sublist_append_left ..), holds.lost none⟩ tidy
  | @first unit fragment units packets rest ih =>
    cases arrives with
    | cons here later =>
      obtain ⟨kept, sub, holds⟩ := keeps
      have whole' : sent ++ [unit] ++ units = picture := by
        rw [← whole]
        simp
      refine stepwise_arrival here tidy (fun tidy => ?_) fun tidy => ?_
      · obtain ⟨s', status, taken, holds'⟩ :=
          first_received holds unit fragment (tidy.synced rfl)
        exact ⟨s', status, taken, nofun, ih later whole' ⟨kept, sub, holds'⟩⟩
      · exact ih later whole' ⟨kept, sub, holds.lost _⟩ tidy
  | @middle unit before fragment units packets rest ih =>
    cases arrives with
    | cons here later =>
      obtain ⟨kept, sub, holds⟩ := keeps
      refine stepwise_arrival here tidy (fun tidy => ?_) fun tidy => ?_
      · obtain ⟨s', status, taken, holds'⟩ := middle_received holds fragment
        exact ⟨s', status, taken, nofun, ih later whole ⟨kept, sub, holds'⟩⟩
      · exact ih later whole ⟨kept, sub, holds.lost _⟩ tidy
  | @last unit before fragment units packets complete rest ih =>
    cases arrives with
    | cons here later =>
      obtain ⟨kept, sub, holds⟩ := keeps
      have whole' : sent ++ [unit] ++ [] ++ units = picture := by
        rw [← whole]
        simp
      have part : (sent ++ [unit]).Sublist picture := by
        rw [← whole', List.append_nil]
        exact List.sublist_append_left ..
      have refused := sub.trans (List.sublist_append_left sent [unit])
      refine stepwise_arrival here tidy (fun tidy => ?_) fun tidy => ?_
      · obtain ⟨s', status, taken, outcome⟩ := last_received holds fragment complete
        rcases outcome with ⟨small, holds'⟩ | ⟨kept', sub', holds', synced'⟩
        · exact ⟨s', status, taken, fun _ fits => absurd small fits,
            ih later whole' ⟨kept, refused, holds'⟩⟩
        · have sub'' := sub'.trans (sub.append (.refl [unit]))
          exact ⟨s', status, taken, fun _ _ => Received.complete
            ⟨kept', sub'', holds', synced'⟩ part, ih later whole' ⟨kept', sub'', holds'⟩⟩
      · exact ih later whole' ⟨kept, refused, holds.lost none⟩ tidy

/-- At the start of a picture, whatever has been received before, some packets of the picture
arrive. -/
structure Reception (nalStart : NalStart) where
  picture : List NalUnit
  packets : List Packet
  stream : Stream none picture packets
  arrivals : List (Option Packet)
  arrives : Arrives packets arrivals
  receiving : Receiving
  start : receiving.bitsPos = 0

theorem reception_completed (reception : Reception nalStart)
    (tidy : Along (stepPacket nalStart) Tidy reception.receiving reception.arrivals) :
    Stepwise (stepPacket nalStart) (Completed nalStart reception.picture) reception.receiving
      reception.arrivals := by
  have synced : reception.receiving.synced = 0 := if_pos reception.start
  have whole : [] ++ [] ++ reception.picture = reception.picture := rfl
  refine stream_completed reception.stream reception.arrives whole
    ⟨[], .refl _, ?_, ?_, fun _ => ?_⟩ tidy
  · rw [synced]
    rfl
  · rw [synced]
    exact Nat.zero_le _
  · rw [reception.start]
    rfl

/-- What the receiver does with any payloads, and with those of a picture. -/
theorem receiver_safe_iff_and_completes (nalStart : NalStart) :
    (∀ (bits : Nat → UInt8) (bitsLen : BitsLen) (prevLost : Bool) (events : List Event),
        Throughout (step nalStart) Receiving.Safe (Receiving.start bits bitsLen prevLost) events
          ↔ Along (step nalStart) (Careful nalStart) (Receiving.start bits bitsLen prevLost)
            events)
    ∧ ∀ reception : Reception nalStart,
        Along (stepPacket nalStart) Tidy reception.receiving reception.arrivals
          → Stepwise (stepPacket nalStart) (Completed nalStart reception.picture)
            reception.receiving reception.arrivals :=
  ⟨receiver_safe_iff nalStart, reception_completed⟩

section Examples

/-- A NAL unit of three octets, that is sent in two fragments. -/
def fragmented : NalUnit where
  octet := 0x65
  rest := [1, 2]
  forbidden := by decide
  typed := by decide

def following : NalUnit where
  octet := 0x41
  rest := [3]
  forbidden := by decide
  typed := by decide

/-- The first of two fragments and the NAL unit behind them arrive, the second fragment does not. -/
def twoUnits : Reception ⟨3, .inl rfl⟩ where
  picture := [fragmented, following]
  packets := [.fuA fragmented true false [1], .fuA fragmented false true [2], .single following]
  stream := .first fragmented [1] (.last fragmented [1] [2] rfl (.single following .done))
  arrivals := [some (.fuA fragmented true false [1]), none, some (.single following)]
  arrives := .cons (.inl rfl) (.cons (.inr rfl) (.cons (.inl rfl) .nil))
  receiving := Receiving.start (fun _ => 0) ⟨64, by decide⟩ false
  start := rfl

/-- A NAL unit that is sent in three fragments. -/
def longer : NalUnit where
  octet := 0x65
  rest := [1, 2, 4]
  forbidden := by decide
  typed := by decide

/-- It comes between two others, and the fragment in its middle does not arrive. -/
def middleLost : Reception ⟨3, .inl rfl⟩ where
  picture := [following, longer, following]
  packets := [.single following, .fuA longer true false [1], .fuA longer false false [2],
    .fuA longer false true [4], .single following]
  stream := .single following (.first longer [1] (.middle longer [1] [2]
    (.last longer [1, 2] [4] rfl (.single following .done))))
  arrivals := [some (.single following), some (.fuA longer true false [1]), none,
    some (.fuA longer false true [4]), some (.single following)]
  arrives := .cons (.inl rfl) (.cons (.inl rfl) (.cons (.inr rfl) (.cons (.inl rfl)
    (.cons (.inl rfl) .nil))))
  receiving := Receiving.start (fun _ => 0) ⟨64, by decide⟩ false
  start := rfl

theorem receiver_completes_following :
    Stepwise (stepPacket ⟨3, .inl rfl⟩) (Completed ⟨3, .inl rfl⟩ middleLost.picture)
      middleLost.receiving middleLost.arrivals := by
  refine (receiver_safe_iff_and_completes ⟨3, .inl rfl⟩).2 middleLost ⟨fun _ _ _ => .inl rfl, ?_⟩
  rintro _ _ ⟨⟩
  refine ⟨fun _ _ _ => .inr rfl, ?_⟩
  rintro _ _ ⟨⟩
  refine ⟨nofun, ?_⟩
  rintro _ _ ⟨⟩
  refine ⟨?_, ?_⟩
  · rintro _ ⟨⟩ ⟨⟩
  rintro _ _ ⟨⟩
  exact ⟨fun _ _ _ => .inr rfl, fun _ _ _ => trivial⟩

/-- An aggregation packet with one octet behind its header is read behind its end. A payload of
type 0 behind a NAL unit takes the position back to 0, and leaves the synchronisation position at
5. The first of two fragments stays in front of the next NAL unit. -/
theorem receiver_reads_behind_and_keeps_truncated : ¬ Throughout (step ⟨3, .inl rfl⟩) Receiving.Safe
        (Receiving.start (fun _ => 0) ⟨64, by decide⟩ false) [.payload [24, 0]]
    ∧ ¬ Throughout (step ⟨3, .inl rfl⟩) Receiving.Safe
        (Receiving.start (fun _ => 0) ⟨64, by decide⟩ false) [.payload [1, 2], .payload [0, 0]]
    ∧ ¬ Stepwise (stepPacket ⟨3, .inl rfl⟩) (Completed ⟨3, .inl rfl⟩ [fragmented, following])
        twoUnits.receiving twoUnits.arrivals := by
  refine ⟨?_, ?_, ?_⟩
  · rintro ⟨-, s', status, taken, -⟩
    nomatch taken
  · rintro ⟨-, s₁, _, ⟨⟩, -, s₂, _, ⟨⟩, safe⟩
    exact absurd safe.ordered (by decide)
  · rintro ⟨s₁, _, ⟨⟩, -, s₂, _, ⟨⟩, -, s₃, _, ⟨⟩, completed, -⟩
    obtain ⟨units, sub, octets⟩ := completed (.single following) rfl trivial nofun
    have lengths : ∀ units ∈ [fragmented, following].sublists,
        (units.flatMap (NalUnit.coded ⟨3, .inl rfl⟩)).length ≠ 10 := by
      decide
    have length := congrArg List.length octets
    rw [Buffer.slice_length] at length
    exact lengths units (List.mem_sublists.2 sub) length.symm

end Examples

end Pjsip.PjmediaCodec.H264
