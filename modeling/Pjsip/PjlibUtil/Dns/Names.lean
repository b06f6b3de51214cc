import Pjsip.PjlibUtil.Dns.Packet

/-!
# The two walks through a name

Where `get_name_len` finds a length, `get_name` copies just as many octets: labels, dots,
and what a pointer leads to, loops of pointers included. Both look outside of the packet
only at a pointer whose first octet is the last one of the packet.
-/

namespace Pjsip.PjlibUtil.Dns

open Pjsip.Base Reader

variable {pkt : List UInt8}

/-! ## The same length -/

theorem nameLoop_agrees {jumpLen : Nat → DnsReader (Nat × Nat)}
    {jump : Nat → List UInt8 → DnsReader (List UInt8)}
    (agrees : ∀ offset parsedLen nameLen, (jumpLen offset).run pkt = .value (parsedLen, nameLen) →
      ∀ name, ∃ copied, (jump offset name).run pkt = .value (name ++ copied)
        ∧ copied.length = nameLen)
    (fuel : Nat) : ∀ p parsedLen nameLen parsedLen' nameLen',
    (nameLenLoop pkt.length jumpLen fuel p parsedLen nameLen).run pkt
      = .value (parsedLen', nameLen') →
    ∀ name, ∃ copied, (nameLoop pkt.length jump fuel p name).run pkt = .value (name ++ copied)
      ∧ nameLen + copied.length = nameLen' := by
  induction fuel with
  | zero =>
    intro p parsedLen nameLen parsedLen' nameLen' walked
    cases walked
  | succ fuel ih =>
    intro p parsedLen nameLen parsedLen' nameLen' walked name
    unfold nameLenLoop at walked
    rw [run_bind, bind_eq_value] at walked
    obtain ⟨octet, read, walked⟩ := walked
    unfold nameLoop
    rw [run_bind, read, bind_value]
    split at walked
    · -- the root
      next root =>
      cases walked
      rw [if_pos root]
      exact ⟨[], by simp, rfl⟩
    · next inner =>
      rw [if_neg inner]
      split at walked
      · next pointer =>
        rw [if_pos pointer]
        rw [run_bind, bind_eq_value] at walked
        obtain ⟨offset, readOffset, walked⟩ := walked
        rw [run_bind, readOffset, bind_value]
        split at walked
        · cases walked
        · next within =>
          rw [if_neg within]
          rw [run_bind, bind_eq_value] at walked
          obtain ⟨⟨inner, ptrLen⟩, jumped, last⟩ := walked
          cases last
          obtain ⟨copied, ran, size⟩ := agrees offset inner ptrLen jumped name
          exact ⟨copied, ran, by rw [size]⟩
      · next label =>
        rw [if_neg label]
        split at walked
        · cases walked
        · next fits =>
          rw [if_neg fits]
          rw [run_bind, bind_eq_value] at walked
          obtain ⟨next, readNext, walked⟩ := walked
          have read : ∃ bytes : Octets octet.toNat,
              (Reader.octets (p + 1) octet.toNat : DnsReader _).run pkt = .value bytes ∧ _ :=
            octets_inside (by omega)
          obtain ⟨bytes, readBytes, -⟩ := read
          rw [run_bind, readBytes, bind_value, run_bind, readNext, bind_value]
          -- the label is copied, with a dot unless it is the last one
          split at walked
          · next dot =>
            rw [if_pos dot]
            obtain ⟨copied, ran, size⟩ := ih _ _ _ _ _ walked (name ++ bytes.1 ++ [0x2E])
            refine ⟨bytes.1 ++ [0x2E] ++ copied, ?_, ?_⟩
            · rw [ran]
              simp
            · simp only [List.length_append, bytes.2, List.length_singleton]
              omega
          · next last =>
            rw [if_neg last]
            obtain ⟨copied, ran, size⟩ := ih _ _ _ _ _ walked (name ++ bytes.1)
            refine ⟨bytes.1 ++ copied, ?_, ?_⟩
            · rw [ran]
              simp
            · rw [List.length_append, bytes.2]
              omega

theorem getName_agrees (depth : Nat) : ∀ start parsedLen nameLen,
    (getNameLen pkt.length depth start).run pkt = .value (parsedLen, nameLen) →
    ∀ name, ∃ copied, (getName pkt.length depth start name).run pkt = .value (name ++ copied)
      ∧ copied.length = nameLen := by
  induction depth with
  | zero =>
    intro start parsedLen nameLen walked
    cases walked
  | succ depth ih =>
    intro start parsedLen nameLen walked name
    unfold getNameLen at walked
    unfold getName
    split at walked
    · cases walked
    · next within =>
      rw [if_neg within]
      obtain ⟨copied, ran, size⟩ := nameLoop_agrees ih pkt.length _ _ _ _ _ walked name
      exact ⟨copied, ran, by omega⟩

/-! ## Pointers that are cut off -/

/-- From `p` on, no pointer of the name is cut off by the end of the packet; `jump` is this for
where a pointer leads to. -/
def LoopWhole (pkt : List UInt8) (jump : Nat → Prop) : (fuel p : Nat) → Prop
  | 0, _ => True
  | fuel + 1, p => ∀ octet, pkt[p]? = some octet → octet ≠ 0 →
      if isPointer octet then
        p + 2 ≤ pkt.length ∧ ∀ offset, (pointerOffset p).run pkt = .value offset →
          offset < pkt.length → jump offset
      else
        p + 1 + octet.toNat + 1 ≤ pkt.length → LoopWhole pkt jump fuel (p + (octet.toNat + 1))

/-- No pointer of the name at `start` is cut off by the end of the packet, as far as the name is
followed. -/
def NameWhole (pkt : List UInt8) : (depth start : Nat) → Prop
  | 0, _ => True
  | depth + 1, start =>
    start < pkt.length → LoopWhole pkt (NameWhole pkt depth) pkt.length start

theorem pointerOffset_inside {p : Nat} :
    (pointerOffset p).run pkt ≠ .outside ↔ p + 2 ≤ pkt.length := by
  constructor
  · intro inside
    by_contra short
    refine inside ?_
    show Read.bind ((octets p 2).run pkt >>= _) _ = _
    have beyond : (octets p 2 : DnsReader _).run pkt = .outside := dif_neg short
    rw [beyond]
    rfl
  · intro fits outside
    obtain ⟨bytes, read, -⟩ := octets_inside (ε := DnsStatus) fits
    unfold pointerOffset field16 at outside
    rw [run_bind, run_bind, read] at outside
    cases outside

theorem nameLenLoop_inside {jump : Nat → DnsReader (Nat × Nat)} {whole : Nat → Prop}
    (jumps : ∀ offset, (jump offset).run pkt ≠ .outside ↔ whole offset) (fuel : Nat) :
    ∀ p parsedLen nameLen, p < pkt.length → pkt.length ≤ p + fuel →
      ((nameLenLoop pkt.length jump fuel p parsedLen nameLen).run pkt ≠ .outside
        ↔ LoopWhole pkt whole fuel p) := by
  induction fuel with
  | zero =>
    intro p parsedLen nameLen inPkt enough
    omega
  | succ fuel ih =>
    intro p parsedLen nameLen inPkt enough
    have here : pkt[p]? = some pkt[p] := List.getElem?_eq_getElem inPkt
    have read : (octet p : DnsReader UInt8).run pkt = .value pkt[p] := octet_value.2 here
    unfold nameLenLoop LoopWhole
    rw [run_bind, read, bind_value]
    have only : ∀ P : UInt8 → Prop, (∀ octet, pkt[p]? = some octet → P octet) ↔ P pkt[p] := by
      intro P
      rw [here]
      exact ⟨fun all => all _ rfl, fun one octet same => Option.some.inj same ▸ one⟩
    rw [only]
    generalize pkt[p] = octet
    split
    · next root => exact iff_of_true nofun fun inner => absurd root inner
    · next inner =>
      rw [forall_prop_of_true inner]
      split
      · rw [bind_ne_outside, pointerOffset_inside]
        refine and_congr_right fun _ => forall_congr' fun offset => forall_congr' fun _ => ?_
        split
        · next beyond =>
          exact iff_of_true nofun fun within => absurd within (by omega)
        · next within =>
          rw [forall_prop_of_true (by omega), bind_ne_outside, jumps]
          exact ⟨And.left, fun holds => ⟨holds, fun _ _ => nofun⟩⟩
      · split
        · next long => exact iff_of_true nofun fun fits => absurd fits (by omega)
        · next fits =>
          rw [forall_prop_of_true (by omega), bind_ne_outside]
          have next : p + (octet.toNat + 1) < pkt.length := by omega
          have readNext : (Reader.octet (p + (octet.toNat + 1)) : DnsReader UInt8).run pkt
              = .value pkt[p + (octet.toNat + 1)] :=
            octet_value.2 (List.getElem?_eq_getElem next)
          rw [readNext]
          have rest := ih (p + (octet.toNat + 1)) (parsedLen + (octet.toNat + 1))
            (nameLen + if pkt[p + (octet.toNat + 1)] ≠ 0 then octet.toNat + 1 else octet.toNat)
            next (by omega)
          rw [← rest]
          constructor
          · rintro ⟨-, inside⟩
            exact inside _ rfl
          · intro inside
            refine ⟨nofun, fun other same => ?_⟩
            cases same
            exact inside

theorem getNameLen_inside (depth : Nat) : ∀ start,
    (getNameLen pkt.length depth start).run pkt ≠ .outside ↔ NameWhole pkt depth start := by
  induction depth with
  | zero => exact fun start => iff_of_true nofun trivial
  | succ depth ih =>
    intro start
    unfold getNameLen NameWhole
    split
    · next beyond => exact iff_of_true nofun fun within => absurd within (by omega)
    · next within =>
      rw [forall_prop_of_true (by omega)]
      exact nameLenLoop_inside ih pkt.length start 0 0 (by omega) (by omega)

theorem parseName_inside (start : Nat) :
    (parseName pkt.length start).run pkt ≠ .outside ↔ NameWhole pkt nameDepth start := by
  rw [parseName, bind_ne_outside, getNameLen_inside]
  refine and_iff_left fun lengths walked => ?_
  obtain ⟨copied, ran, -⟩ := getName_agrees nameDepth start _ _ walked []
  rw [run_bind, ran]
  nofun

theorem parseName_value {start : Nat} {name : List UInt8} {namePartLen : Nat}
    (read : (parseName pkt.length start).run pkt = .value (name, namePartLen)) :
    (getNameLen pkt.length nameDepth start).run pkt = .value (namePartLen, name.length) := by
  rw [parseName, run_bind, bind_eq_value] at read
  obtain ⟨⟨partLen, nameLen⟩, walked, read⟩ := read
  obtain ⟨copied, ran, size⟩ := getName_agrees nameDepth start _ _ walked []
  rw [run_bind, ran] at read
  cases read
  rw [walked, ← size]
  rfl

end Pjsip.PjlibUtil.Dns
