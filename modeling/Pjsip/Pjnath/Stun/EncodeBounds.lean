import Pjsip.Pjnath.Stun.Printed

/-!
# Printing inside the buffer

ERROR-CODE and UNKNOWN-ATTRIBUTES are compared with the room before their padding is
counted, and the padding is taken off the room all the same. Where such an attribute ends
in the last three octets of the buffer the room goes below zero, and from there on every
comparison passes.
-/

namespace Pjsip.Pjnath.Stun

open Pjsip.Base

/-- Whether, with `room` octets left, some attribute has its turn that passes the comparison
without having room for its padding. -/
def overruns : (room : Nat) → List Attr → Bool
  | _, [] => false
  | room, a :: rest =>
    !a.stops && !a.refused && a.checked ≤ room % 2 ^ 32
      && (room < a.size || overruns (room - a.size) rest)

theorem overruns_kind {room : Nat} {attrs : List Attr} (exceeds : overruns room attrs = true) :
    ∃ a ∈ attrs, (attrKind a.type = some .errcode ∨ attrKind a.type = some .unknown)
      ∧ a.checked < a.size := by
  induction attrs generalizing room with
  | nil => nomatch exceeds
  | cons a rest ih =>
    simp only [overruns, Bool.and_eq_true, Bool.or_eq_true, decide_eq_true_eq] at exceeds
    obtain ⟨⟨-, passes⟩, short | later⟩ := exceeds
    · have below : a.checked < a.size := by
        omega
      refine ⟨a, List.mem_cons_self, ?_, below⟩
      by_contra other
      rw [not_or] at other
      exact absurd (Attr.checked_eq_size other.1 other.2) (by omega)
    · obtain ⟨b, mem, kind⟩ := ih later
      exact ⟨b, List.mem_cons_of_mem _ mem, kind⟩

/-! ## Two conditions on the state -/

/-- All is inside a buffer of `n` octets, and the room is what is left of it. -/
structure Within (n : Nat) (e : Enc) : Prop where
  header : 20 ≤ n
  size : n < 2 ^ 64
  room : e.pos + e.room = n
  stored : ∀ i ∈ e.mem.stored, i < n
  counted : e.wrapped = false

theorem Within.advance {n : Nat} {e : Enc} (within : Within n e) {stored : List UInt8}
    {printed : Nat} (fits : printed ≤ e.room) (inside : stored.length ≤ printed) :
    Within n (e.advance stored printed) := by
  have left : (e.room + 2 ^ 64 - printed) % 2 ^ 64 = e.room - printed := by
    have := within.size
    have := within.room
    rw [show e.room + 2 ^ 64 - printed = (e.room - printed) + 2 ^ 64 by omega,
      Nat.add_mod_right, Nat.mod_eq_of_lt (by omega)]
  have sum := within.room
  refine ⟨within.header, within.size, ?_, ?_, ?_⟩
  · show e.pos + printed + (e.room + 2 ^ 64 - printed) % 2 ^ 64 = n
    omega
  · intro i mem
    rcases (Buffer.mem_stored_store e.mem).1 mem with mem | ⟨-, below⟩
    · exact within.stored i mem
    · omega
  · show (e.wrapped || decide (e.room < printed)) = false
    rw [within.counted]
    simpa using fits

/-- A condition that the printing of MESSAGE-INTEGRITY and FINGERPRINT keeps, and what is
left of it when printing fails. -/
structure Steady (good failed : Enc → Prop) : Prop where
  prints : ∀ {e need stored}, good e → stored.length = need → Ends (fun _ => good) (fun _ => failed)
      ((emit (.unlessShort (e.room % 2 ^ 32) need stored need)).run e)
  patch : ∀ {e length}, good e → good (e.patch length)
  failed : ∀ {e}, good e → failed e

theorem steady_within (n : Nat) : Steady (Within n) (fun e => e.wrapped = false) where
  prints := by
    intro e need stored within whole
    by_cases enough : need ≤ e.room % 2 ^ 32
    · rw [Emit.unlessShort_enough enough]
      have := Nat.mod_le e.room (2 ^ 32)
      exact within.advance (by omega) (Nat.le_of_eq whole)
    · rw [Emit.unlessShort_short (Nat.lt_of_not_le enough)]
      exact within.counted
  patch := by
    intro e length within
    refine ⟨within.header, within.size, within.room, ?_, within.counted⟩
    intro i mem
    have header := within.header
    rcases (Buffer.mem_stored_store e.mem).1 mem with mem | ⟨-, below⟩
    · exact within.stored i mem
    · rw [put16_length] at below
      omega
  failed := Within.counted

theorem steady_wrapped : Steady (fun e => e.wrapped = true) (fun e => e.wrapped = true) where
  prints := by
    intro e need stored wrapped _
    by_cases enough : need ≤ e.room % 2 ^ 32
    · rw [Emit.unlessShort_enough enough]
      show (e.wrapped || _) = true
      rw [wrapped]
      rfl
    · rw [Emit.unlessShort_short (Nat.lt_of_not_le enough)]
      exact wrapped
  patch := fun wrapped => wrapped
  failed := fun wrapped => wrapped

/-! ## The attributes -/

section Encode

variable {env : StunEnv} {msghdr : MsgHdr} {attrs : List Attr}

theorem encodeAttrs_within {n : Nat} {e : Enc} (within : Within n e)
    (fits : overruns e.room attrs = false) :
    Ends (fun _ => Within n) (fun _ e => e.wrapped = false)
      ((encodeAttrs env msghdr attrs).run e) := by
  induction attrs generalizing e with
  | nil => exact within
  | cons a rest ih =>
    unfold encodeAttrs
    cases stops : a.stops with
    | true => exact within
    | false =>
      show Ends _ _ ((emit (a.encode env msghdr (e.room % 2 ^ 32))
        >>= fun _ => encodeAttrs env msghdr rest).run e)
      rcases emit_attr env msghdr a e with
        ⟨taken, passes, printed⟩ | ⟨-, status, mem, failed⟩
      · simp only [overruns, stops, taken, passes, Bool.not_false, Bool.and_self,
          decide_true, Bool.true_and, Bool.or_eq_false_iff, decide_eq_false_iff_not] at fits
        have room : a.size ≤ e.room := Nat.not_lt.1 fits.1
        have next := within.advance room (Attr.wire_length env msghdr taken)
        have left : (e.advance (a.wire env msghdr) a.size).room = e.room - a.size := by
          have := within.room
          have := next.room
          change e.pos + a.size + _ = n at this
          omega
        rw [bind_run_ok printed]
        exact ih next (by rw [left]; exact fits.2)
      · rw [bind_run_error failed]
        exact within.counted

theorem encodeAttrs_wrapped {e : Enc} (wrapped : e.wrapped = true) :
    Ends (fun _ e => e.wrapped = true) (fun _ e => e.wrapped = true)
      ((encodeAttrs env msghdr attrs).run e) := by
  induction attrs generalizing e with
  | nil => exact wrapped
  | cons a rest ih =>
    unfold encodeAttrs
    cases a.stops with
    | true => exact wrapped
    | false =>
      show Ends _ _ ((emit (a.encode env msghdr (e.room % 2 ^ 32))
        >>= fun _ => encodeAttrs env msghdr rest).run e)
      rcases emit_attr env msghdr a e with
        ⟨-, -, printed⟩ | ⟨-, status, mem, failed⟩
      · rw [bind_run_ok printed]
        apply ih
        show (e.wrapped || _) = true
        rw [wrapped]
        rfl
      · rw [bind_run_error failed]
        exact wrapped

theorem encodeAttrs_overruns {e : Enc} (small : e.room < 2 ^ 64)
    (exceeds : overruns e.room attrs = true) :
    Ends (fun _ e => e.wrapped = true) (fun _ e => e.wrapped = true)
      ((encodeAttrs env msghdr attrs).run e) := by
  induction attrs generalizing e with
  | nil => nomatch exceeds
  | cons a rest ih =>
    simp only [overruns, Bool.and_eq_true, Bool.or_eq_true, decide_eq_true_eq,
      Bool.not_eq_true'] at exceeds
    obtain ⟨⟨⟨stops, taken⟩, passes⟩, exceeds⟩ := exceeds
    unfold encodeAttrs
    rw [if_neg (by simp [stops])]
    show Ends _ _ ((emit (a.encode env msghdr (e.room % 2 ^ 32))
      >>= fun _ => encodeAttrs env msghdr rest).run e)
    rcases emit_attr env msghdr a e with
      ⟨-, -, printed⟩ | ⟨fails, -⟩
    · rw [bind_run_ok printed]
      by_cases short : e.room < a.size
      · -- here it goes below zero
        apply encodeAttrs_wrapped
        show (e.wrapped || decide (e.room < a.size)) = true
        rw [decide_eq_true short, Bool.or_true]
      · have left : (e.advance (a.wire env msghdr) a.size).room = e.room - a.size := by
          show (e.room + 2 ^ 64 - a.size) % 2 ^ 64 = e.room - a.size
          rw [show e.room + 2 ^ 64 - a.size = (e.room - a.size) + 2 ^ 64 by omega,
            Nat.add_mod_right, Nat.mod_eq_of_lt (by omega)]
        apply ih
        · omega
        · rw [left]
          exact exceeds.resolve_left short
    · exact absurd ⟨taken, passes⟩ fails

end Encode

/-! ## The rest of the message -/

section Rest

variable {env : StunEnv} {good failed : Enc → Prop} (steady : Steady good failed)

include steady

variable {e : Enc}

theorem Steady.printMsgint (holds : good e) (key : List UInt8) (a : Attr) :
    Ends (fun _ => good) (fun _ => failed) ((printMsgint env key a).run e) := by
  show Ends _ _ ((emit (.unlessShort (e.room % 2 ^ 32) 24 _ 24) >>= fun _ => pure _).run e)
  refine Ends.bind (steady.prints holds ?_) fun _ e' kept => kept
  simp [(env.hmacSha1 key (e.mem.slice 0 e.pos)).2]

theorem Steady.printFingerprint (holds : good e) (a : Attr) :
    Ends (fun _ => good) (fun _ => failed) ((printFingerprint env a).run e) := by
  refine Ends.bind_ran rfl ?_
  refine Ends.bind_ran rfl ?_
  show Ends _ _ ((emit (.unlessShort (e.room % 2 ^ 32) 8 _ 8) >>= fun _ => pure _).run _)
  exact Ends.bind (steady.prints (steady.patch holds) rfl) fun _ e kept => kept

theorem Steady.printIntegrity (holds : good e) (attrs : List Attr) (i : Nat)
    (key : Option (List UInt8)) (found : Protection) :
    Ends (fun _ => good) (fun _ => failed) ((printIntegrity env attrs i key found).run e) := by
  unfold Stun.printIntegrity
  split
  · exact holds
  · split
    · exact steady.failed holds
    · cases checkLast attrs i found with
      | error status => exact steady.failed holds
      | ok found' =>
        refine Ends.bind_ran rfl ?_
        exact Ends.bind (steady.printMsgint holds _ _) fun _ e kept => kept

theorem Steady.printChecksum (holds : good e) (found : Protection) :
    Ends (fun _ => good) (fun _ => failed) ((printChecksum env found).run e) := by
  unfold Stun.printChecksum
  split
  · exact holds
  · exact Ends.bind (steady.printFingerprint holds _) fun _ e' kept => kept

theorem Steady.encodeBody (env : StunEnv) (msg : StunMsg) (key : Option (List UInt8))
    (attrs : Ends (fun _ => good) (fun _ => failed) ((encodeAttrs env msg.hdr msg.attrs).run e)) :
    Ends (fun result e => good e ∧ result.2 = e.pos) (fun _ => failed)
      ((encodeBody env msg key).run e) := by
  refine Ends.bind attrs fun rest e holds => ?_
  cases scanRest rest.tail (stoppedAt rest) with
  | error status => exact steady.failed holds
  | ok found =>
    refine Ends.bind_ran rfl ?_
    refine Ends.bind_ran rfl ?_
    refine Ends.bind_ran rfl ?_
    refine Ends.bind (steady.printIntegrity (steady.patch holds) _ _ _ _) fun integrity e holds => ?_
    refine Ends.bind (steady.printChecksum holds _) fun crc e holds => ?_
    exact ⟨holds, rfl⟩

end Rest

/-- What is promised of printing into a buffer of `n` octets. -/
def StaysInside (n : Nat) : EStateM.Result StunStatus Enc (StunMsg × Nat) → Prop
  | .ok result e => result.2 ≤ n ∧ (∀ i ∈ e.mem.stored, i < n) ∧ e.wrapped = false
  | .error _ e => e.wrapped = false

instance (n : Nat) (r : EStateM.Result StunStatus Enc (StunMsg × Nat)) :
    Decidable (StaysInside n r) :=
  match r with
  | .ok .. => inferInstanceAs (Decidable (_ ∧ _ ∧ _))
  | .error .. => inferInstanceAs (Decidable (_ = _))

theorem afterHeader_within (msg : StunMsg) (cells : Nat → UInt8) {n : Nat} (header : 20 ≤ n)
    (size : n < 2 ^ 64) : Within n (afterHeader msg cells n) := by
  have start : Within n ⟨⟨cells, []⟩, 0, n, false⟩ :=
    ⟨header, size, Nat.zero_add n, nofun, rfl⟩
  exact start.advance header (Nat.le_of_eq (hdrOctets_length _ _))

theorem pjStunMsgEncode_stays_iff (env : StunEnv) (msg : StunMsg) (cells : Nat → UInt8) (bufSize : UInt64)
    (key : Option (List UInt8)) :
    StaysInside bufSize.toNat (pjStunMsgEncode env msg cells bufSize 0 key)
      ↔ overruns (bufSize.toNat - 20) msg.attrs = false := by
  have small := bufSize.toNat_lt
  unfold pjStunMsgEncode
  by_cases header : 20 ≤ bufSize.toNat
  · have roomy : bufSize ≠ 0 := by
      intro zero
      rw [zero] at header
      exact absurd header (by decide)
    rw [if_neg (by simpa using roomy), if_neg (by omega)]
    have within := afterHeader_within msg cells header small
    have room : (afterHeader msg cells bufSize.toNat).room = bufSize.toNat - 20 := by
      have := within.room
      change 0 + 20 + _ = _ at this
      omega
    show StaysInside _ ((encodeBody env msg key).run (afterHeader msg cells bufSize.toNat)) ↔ _
    cases exceeds : overruns (bufSize.toNat - 20) msg.attrs with
    | false =>
      refine iff_of_true ?_ rfl
      have ended := (steady_within bufSize.toNat).encodeBody env msg key
        (encodeAttrs_within within (by rw [room]; exact exceeds))
      cases ran : (encodeBody env msg key).run (afterHeader msg cells bufSize.toNat) with
      | ok result e =>
        rw [ran] at ended
        obtain ⟨within, len⟩ := ended
        refine ⟨?_, within.stored, within.counted⟩
        have := within.room
        omega
      | error status e =>
        rw [ran] at ended
        exact ended
    | true =>
      refine iff_of_false ?_ (by decide)
      have ended := steady_wrapped.encodeBody env msg key
        (encodeAttrs_overruns (by rw [room]; omega) (by rw [room]; exact exceeds))
      intro stays
      cases ran : (encodeBody env msg key).run (afterHeader msg cells bufSize.toNat) with
      | ok result e =>
        rw [ran] at ended stays
        have wrapped : e.wrapped = true := ended.1
        rw [stays.2.2] at wrapped
        cases wrapped
      | error status e =>
        rw [ran] at ended stays
        have wrapped : e.wrapped = true := ended
        rw [stays] at wrapped
        cases wrapped
  · -- nothing is printed
    have fits : overruns (bufSize.toNat - 20) msg.attrs = false := by
      rw [show bufSize.toNat - 20 = 0 by omega]
      cases msg.attrs with
      | nil => rfl
      | cons a rest =>
        have := a.four_le_checked
        simp [overruns, show a.checked ≠ 0 by omega]
    refine iff_of_true ?_ fits
    split
    · rfl
    · rw [if_pos (by omega)]
      rfl

/-- A response with ERROR-CODE 300 and a reason of 13 octets, in a buffer of 41: it is said to
have been printed, with a length of 44. -/
theorem pjStunMsgEncode_overruns :
    ¬ StaysInside 41 (pjStunMsgEncode (.constant ⟨List.replicate 20 0, rfl⟩ 0)
      { hdr := ⟨0x0111, 0, stunMagic, ⟨List.replicate 12 7, rfl⟩⟩
        attrs := [errcodeAttr 300 (some (printed80 "Try Alternate"))]
        attrCount := by decide }
      (fun _ => 0) 41 0 none) := by
  decide +kernel

end Pjsip.Pjnath.Stun
