import Pjsip.Base.Run
import Pjsip.Base.CInt

/-!
# RTP sequence numbers

The sequence control of `pjmedia/rtp.c`: sixteen bits of the packet number arrive,
and `cycles + max_seq` counts on. Beside the session stands the largest true packet
number, which the code never sees; `Follows` is what one packet does to the two, as
long as the packets stay in the window of the code.
-/

namespace Pjsip.Pjmedia.Rtp

open Pjsip.Base

def rtpSeqMod : Nat := 2 ^ 16

def maxDropout : Nat := 3000

def maxMisorder : Nat := 100

def minSequential : Nat := 2

structure RtpSeqSession where
  maxSeq : Nat
  cycles : Nat
  baseSeq : Nat
  badSeq : Nat
  probation : Nat
  deriving DecidableEq, Repr

/-- `pjmedia_rtp_status`: the flags, and the difference to the packet before. -/
structure RtpStatus where
  bad : Bool := false
  badpt : Bool := false
  badssrc : Bool := false
  dup : Bool := false
  outorder : Bool := false
  probation : Bool := false
  restart : Bool := false
  diff : Nat := 0
  deriving DecidableEq, Repr

def pjmediaRtpSeqRestart (sess : RtpSeqSession) (seq : Nat) : RtpSeqSession :=
  { sess with baseSeq := seq, maxSeq := seq, badSeq := rtpSeqMod + 1, cycles := 0 }

def pjmediaRtpSeqInit (sess : RtpSeqSession) (seq : Nat) : RtpSeqSession :=
  { pjmediaRtpSeqRestart sess seq with maxSeq := u16 (seq - 1), probation := minSequential }

/-- The source is not valid until enough packets have come in sequence. -/
def updateProbation (sess : RtpSeqSession) (seq : Nat) : RtpSeqSession × RtpStatus :=
  if seq = u16 (sess.maxSeq + 1) then
    let sess := { sess with probation := sess.probation - 1, maxSeq := seq }
    let sess := if sess.probation = 0 then { sess with baseSeq := seq } else sess
    (sess, { probation := true, diff := 1 })
  else
    let st : RtpStatus := { probation := true, bad := true }
    let st := if seq = sess.maxSeq then { st with dup := true } else { st with outorder := true }
    ({ sess with probation := minSequential - 1, maxSeq := seq }, st)

/-- The jump is neither in the window ahead nor in the one behind. -/
def updateJump (sess : RtpSeqSession) (seq : Nat) : RtpSeqSession × RtpStatus :=
  if seq = sess.badSeq then
    (pjmediaRtpSeqRestart sess seq, { restart := true, probation := true, diff := 1 })
  else
    ({ sess with badSeq := (seq + 1) % rtpSeqMod }, { bad := true, outorder := true })

def pjmediaRtpSeqUpdate (sess : RtpSeqSession) (seq : Nat) : RtpSeqSession × RtpStatus :=
  let udelta := serialDelta seq sess.maxSeq
  if sess.probation ≠ 0 then updateProbation sess seq
  else if udelta = 0 then (sess, { dup := true })
  else if udelta < maxDropout then
    let sess :=
      if seq < sess.maxSeq then { sess with cycles := u32 (sess.cycles + rtpSeqMod) } else sess
    ({ sess with maxSeq := seq }, { diff := udelta })
  else if udelta ≤ rtpSeqMod - maxMisorder then updateJump sess seq
  else (sess, { outorder := true })

def RtpSeqSession.extended (sess : RtpSeqSession) : Nat := sess.cycles + sess.maxSeq

/-! ## The fields as the C types hold them -/

structure RtpSeqSession.Typed (sess : RtpSeqSession) : Prop where
  maxSeq : sess.maxSeq < 2 ^ 16
  /-- `cycles` counts in units of the modulus. -/
  units : sess.cycles % 2 ^ 16 = 0
  cycles : sess.cycles < 2 ^ 32

/-- One packet; only the residue of its number arrives. -/
def packet (sess : RtpSeqSession) (n : Nat) : Option (RtpSeqSession × RtpStatus) :=
  some (pjmediaRtpSeqUpdate sess (n % 2 ^ 16))

theorem u32_units {cycles : Nat} (units : cycles % 2 ^ 16 = 0) :
    u32 (cycles + rtpSeqMod) % 2 ^ 16 = 0 ∧ u32 (cycles + rtpSeqMod) < 2 ^ 32 := by
  unfold u32 rtpSeqMod
  omega

variable {sess : RtpSeqSession}

theorem typed_update (typed : sess.Typed) {seq : Nat} (short : seq < 2 ^ 16) :
    (pjmediaRtpSeqUpdate sess seq).1.Typed := by
  obtain ⟨maxSeq, units, cycles⟩ := typed
  have kept : ∀ s : RtpSeqSession, s.maxSeq < 2 ^ 16 → s.cycles = sess.cycles → s.Typed :=
    fun s max same => ⟨max, same ▸ units, same ▸ cycles⟩
  unfold pjmediaRtpSeqUpdate updateProbation updateJump
  simp only
  split
  · split
    · split
      · exact kept _ short rfl
      · exact kept _ short rfl
    · exact kept _ short rfl
  · split
    · exact ⟨maxSeq, units, cycles⟩
    · split
      · split
        · obtain ⟨units', cycles'⟩ := u32_units units
          exact ⟨short, units', cycles'⟩
        · exact kept _ short rfl
      · split
        · split
          · exact ⟨short, rfl, Nat.two_pow_pos 32⟩
          · exact kept _ maxSeq rfl
        · exact ⟨maxSeq, units, cycles⟩

theorem typed_run {memory : RtpSeqSession} {seq : Nat} {tr : List (Nat × RtpStatus)}
    (run : Run packet (pjmediaRtpSeqInit memory seq) tr sess) : sess.Typed := by
  have keeps : ∀ (s : RtpSeqSession) n s' st, s.Typed → packet s n = some (s', st) → s'.Typed := by
    intro s n s' st typed taken
    obtain rfl : (pjmediaRtpSeqUpdate s (n % 2 ^ 16)).1 = s' :=
      congrArg Prod.fst (Option.some.inj taken)
    exact typed_update typed (Nat.mod_lt _ (by decide))
  apply run.invariant keeps
  refine ⟨?_, rfl, Nat.two_pow_pos 32⟩
  show u16 (seq - 1) < 2 ^ 16
  unfold u16
  omega

/-! ## After the probation -/

/-- One packet, with the largest true number so far. -/
def numbered (s : RtpSeqSession × Nat) (n : Nat) : Option ((RtpSeqSession × Nat) × RtpStatus) :=
  (packet s.1 n).map fun next => ((next.1, max s.2 n), next.2)

/-- Less than 3000 ahead of the largest number so far, and less than 100 behind. -/
def InWindow (s : RtpSeqSession × Nat) (n : Nat) : Prop := n < s.2 + 3000 ∧ s.2 < n + 100

instance (s : RtpSeqSession × Nat) (n : Nat) : Decidable (InWindow s n) :=
  inferInstanceAs (Decidable (_ ∧ _))

/-- What a packet in the window does, in a stream that began at `start`. The extended
number has 32 bits. -/
structure Follows (start before : RtpSeqSession × Nat) (after : RtpSeqSession × Nat)
    (st : RtpStatus) : Prop where
  base : after.1.baseSeq = start.1.baseSeq
  extended : after.1.extended = (start.1.extended + (after.2 - start.2)) % 2 ^ 32
  /-- Each multiple of the modulus that the largest number passes is counted once. -/
  wraps : after.1.cycles =
    (before.1.cycles + 2 ^ 16 * (after.2 / 2 ^ 16 - before.2 / 2 ^ 16)) % 2 ^ 32
  grows : start.1.extended + (after.2 - start.2) < 2 ^ 32 → before.1.extended ≤ after.1.extended
  diff : st.diff = after.2 - before.2
  notBad : st.bad = false
  noRestart : st.restart = false

/-- The session agrees with the largest true number. -/
structure Tracked (start s : RtpSeqSession × Nat) : Prop where
  probation : s.1.probation = 0
  typed : s.1.Typed
  residue : s.1.maxSeq = s.2 % 2 ^ 16
  least : start.2 ≤ s.2
  base : s.1.baseSeq = start.1.baseSeq
  extended : s.1.extended = (start.1.extended + (s.2 - start.2)) % 2 ^ 32

/-- The session after a packet that takes the largest number to `n`. -/
def advanced (sess : RtpSeqSession) (largest n : Nat) : RtpSeqSession :=
  { sess with
    maxSeq := n % 2 ^ 16
    cycles := if n % 2 ^ 16 < largest % 2 ^ 16 then u32 (sess.cycles + 2 ^ 16) else sess.cycles }

variable {largest n : Nat}

theorem update_ahead (settled : sess.probation = 0)
    (residue : sess.maxSeq = largest % 2 ^ 16) (ahead : largest < n) (near : n < largest + 3000) :
    pjmediaRtpSeqUpdate sess (n % 2 ^ 16) = (advanced sess largest n, { diff := n - largest }) := by
  have delta : serialDelta (n % 2 ^ 16) (largest % 2 ^ 16) = n - largest :=
    serialDelta_ahead (by omega) (by omega)
  unfold pjmediaRtpSeqUpdate advanced
  simp only [settled, residue, delta, maxDropout]
  rw [if_neg (by simp), if_neg (by omega), if_pos (by omega)]
  by_cases turn : n % 2 ^ 16 < largest % 2 ^ 16
  · rw [if_pos turn, if_pos turn]
    rfl
  · rw [if_neg turn, if_neg turn, settled]

theorem advanced_cycles (typed : sess.Typed) (ahead : largest < n) (near : n < largest + 3000) :
    (advanced sess largest n).cycles =
      (sess.cycles + 2 ^ 16 * (n / 2 ^ 16 - largest / 2 ^ 16)) % 2 ^ 32 := by
  have wraps := serial_wraps (Nat.le_of_lt ahead) (show n < largest + 2 ^ 16 by omega)
  have cycles := typed.cycles
  simp only [advanced, u32]
  by_cases turn : n % 2 ^ 16 < largest % 2 ^ 16
  · rw [if_pos turn] at wraps ⊢
    omega
  · rw [if_neg turn] at wraps ⊢
    omega

theorem advanced_extended (typed : sess.Typed)
    (residue : sess.maxSeq = largest % 2 ^ 16) (ahead : largest < n) (near : n < largest + 3000) :
    (advanced sess largest n).extended = (sess.extended + (n - largest)) % 2 ^ 32 := by
  have counted := advanced_cycles typed ahead near
  have units := typed.units
  have cycles := typed.cycles
  show (advanced sess largest n).cycles + n % 2 ^ 16 = (sess.cycles + sess.maxSeq + _) % 2 ^ 32
  omega

theorem update_late (settled : sess.probation = 0)
    (residue : sess.maxSeq = largest % 2 ^ 16) (below : n < largest) (near : largest < n + 100) :
    pjmediaRtpSeqUpdate sess (n % 2 ^ 16) = (sess, { outorder := true }) := by
  have delta : serialDelta (n % 2 ^ 16) (largest % 2 ^ 16) = 2 ^ 16 - (largest - n) :=
    serialDelta_behind below (by omega)
  unfold pjmediaRtpSeqUpdate
  simp only [settled, residue, delta, maxDropout, maxMisorder, rtpSeqMod]
  rw [if_neg (by simp), if_neg (by omega), if_neg (by omega), if_neg (by omega)]

theorem update_behind (settled : sess.probation = 0)
    (residue : sess.maxSeq = largest % 2 ^ 16) (behind : n ≤ largest) (near : largest < n + 100) :
    ∃ st, pjmediaRtpSeqUpdate sess (n % 2 ^ 16) = (sess, st) ∧ st.diff = 0 ∧ st.bad = false ∧
      st.restart = false := by
  rcases Nat.lt_or_eq_of_le behind with below | rfl
  · exact ⟨_, update_late settled residue below near, rfl, rfl, rfl⟩
  · have delta : serialDelta (n % 2 ^ 16) (n % 2 ^ 16) = n - n :=
      serialDelta_ahead (Nat.le_refl n) (by omega)
    unfold pjmediaRtpSeqUpdate
    rw [residue, delta, settled]
    rw [if_neg (by simp), if_pos (Nat.sub_self n)]
    exact ⟨_, rfl, rfl, rfl, rfl⟩

theorem follows_step (start s : RtpSeqSession × Nat) (n : Nat) (tracked : Tracked start s)
    (window : InWindow s n) :
    ∃ s' st, numbered s n = some (s', st) ∧ s'.2 = max s.2 n ∧ Follows start s s' st ∧
      Tracked start s' := by
  obtain ⟨sess, largest⟩ := s
  obtain ⟨settled, typed, residue, least, base, extended⟩ := tracked
  obtain ⟨near, far⟩ := window
  rcases Nat.lt_or_ge largest n with ahead | behind
  · -- the largest number grows
    have updated := update_ahead settled residue ahead near
    have largest' : max largest n = n := by omega
    have counted := advanced_cycles typed ahead near
    have moved := advanced_extended typed residue ahead near
    have typed' := typed_update typed (show n % 2 ^ 16 < 2 ^ 16 from Nat.mod_lt _ (by decide))
    rw [updated] at typed'
    have total : (advanced sess largest n).extended =
        (start.1.extended + (n - start.2)) % 2 ^ 32 := by
      rw [moved, extended]
      omega
    refine ⟨(advanced sess largest n, n), { diff := n - largest }, ?_, largest'.symm, ?_, ?_⟩
    · simp only [numbered, packet, updated, Option.map_some, largest']
    · refine ⟨base, total, counted, ?_, rfl, rfl, rfl⟩
      intro room
      rw [total, extended]
      omega
    · exact ⟨settled, typed', rfl, by omega, base, total⟩
  · -- an old packet: nothing changes
    obtain ⟨st, updated, diff, bad, restart⟩ := update_behind settled residue behind far
    have largest' : max largest n = largest := by omega
    have cycles : sess.cycles < 2 ^ 32 := typed.cycles
    refine ⟨(sess, largest), st, ?_, largest'.symm, ?_,
      ⟨settled, typed, residue, least, base, extended⟩⟩
    · simp only [numbered, packet, updated, Option.map_some, largest']
    · refine ⟨base, extended, ?_, fun _ => Nat.le_refl _, ?_, bad, restart⟩
      · simp only [Nat.sub_self]
        omega
      · simp only [diff, Nat.sub_self]

theorem tracked_start {n₀ : Nat} (typed : sess.Typed)
    (settled : sess.probation = 0) (residue : sess.maxSeq = n₀ % 2 ^ 16) :
    Tracked (sess, n₀) (sess, n₀) := by
  refine ⟨settled, typed, residue, Nat.le_refl _, rfl, ?_⟩
  obtain ⟨maxSeq, units, cycles⟩ := typed
  simp only [RtpSeqSession.extended, Nat.sub_self, Nat.add_zero]
  omega

/-- Once the probation is over, the session follows every stream of packets in the
window, from any number that the last packet may have had. -/
theorem rtpSeq_follows {memory sess : RtpSeqSession} {seq : Nat} {tr : List (Nat × RtpStatus)}
    (run : Run packet (pjmediaRtpSeqInit memory seq) tr sess) (settled : sess.probation = 0)
    (n₀ : Nat) (residue : sess.maxSeq = n₀ % 2 ^ 16) (ns : List Nat)
    (window : Along numbered InWindow (sess, n₀) ns) :
    Stepwise numbered
      (fun before n after st => after.2 = max before.2 n ∧ Follows (sess, n₀) before after st)
      (sess, n₀) ns := by
  have keeps : ∀ s n, Tracked (sess, n₀) s → InWindow s n → ∃ s' st,
      numbered s n = some (s', st) ∧ (s'.2 = max s.2 n ∧ Follows (sess, n₀) s s' st) ∧
        Tracked (sess, n₀) s' := by
    intro s n tracked window
    obtain ⟨s', st, taken, largest, follows, tracked'⟩ := follows_step _ s n tracked window
    exact ⟨s', st, taken, ⟨largest, follows⟩, tracked'⟩
  exact window.stepwise keeps (tracked_start (typed_run run) settled residue)

/-- A session that has just heard packets 0 and 1. -/
def heardTwo : RtpSeqSession := ⟨1, 0, 1, 65537, 0⟩

/-- Packet 3 is lost, and 5 and 6 change places. -/
theorem rtpSeq_follows_heardTwo : Stepwise numbered
      (fun before n after st => after.2 = max before.2 n ∧ Follows (heardTwo, 1) before after st)
      (heardTwo, 1) [2, 4, 6, 5] :=
  rtpSeq_follows (.cons (show packet (pjmediaRtpSeqInit heardTwo 0) 0 = _ from rfl)
    (.cons (show packet _ 1 = _ from rfl) (.nil _))) rfl 1 rfl _ (by decide)

/-! ## The extended number has 32 bits -/

/-- `k` packets, each as far ahead as the window allows. -/
def jumps : Nat → Nat → List Nat
  | 0, _ => []
  | k + 1, n => (n + 2999) :: jumps k (n + 2999)

theorem jumps_step (start s : RtpSeqSession × Nat) (tracked : Tracked start s) :
    ∃ s' st, numbered s (s.2 + 2999) = some (s', st) ∧ s'.2 = s.2 + 2999 ∧ Tracked start s' := by
  have window : InWindow s (s.2 + 2999) := ⟨by omega, by omega⟩
  obtain ⟨s', st, taken, largest, _, tracked'⟩ := follows_step start s _ tracked window
  exact ⟨s', st, taken, by omega, tracked'⟩

theorem jumps_inWindow (start s : RtpSeqSession × Nat) (tracked : Tracked start s) (k : Nat) :
    Along numbered InWindow s (jumps k s.2) := by
  induction k generalizing s with
  | zero => trivial
  | succ k ih =>
    obtain ⟨s', st, taken, largest, tracked'⟩ := jumps_step start s tracked
    refine .cons ⟨by omega, by omega⟩ taken ?_
    rw [← largest]
    exact ih s' tracked'

theorem jumps_rise (start s : RtpSeqSession × Nat) (tracked : Tracked start s) (k : Nat)
    (rises : Stepwise numbered (fun before _ after _ => before.1.extended ≤ after.1.extended) s
      (jumps k s.2)) :
    ∀ j < k, (start.1.extended + (s.2 + 2999 * j - start.2)) % 2 ^ 32 ≤
      (start.1.extended + (s.2 + 2999 * (j + 1) - start.2)) % 2 ^ 32 := by
  induction k generalizing s with
  | zero =>
    intro j few
    omega
  | succ k ih =>
    intro j few
    obtain ⟨s', st, taken, rise, rest⟩ := rises
    obtain ⟨s₁, st₁, taken₁, largest, tracked'⟩ := jumps_step start s tracked
    rw [taken] at taken₁
    cases taken₁
    cases j with
    | zero =>
      rw [tracked.extended, tracked'.extended, largest] at rise
      exact rise
    | succ j =>
      rw [← largest] at rest
      have later := ih s' tracked' rest j (by omega)
      rw [largest] at later
      have next : ∀ j, s.2 + 2999 + 2999 * j = s.2 + 2999 * (j + 1) := by
        intro j
        omega
      rw [next, next] at later
      exact later

/-- After 1432134 packets in the window the count has passed `2 ^ 32`, and the extended
number has fallen. -/
theorem rtpSeq_wraps :
    (pjmediaRtpSeqUpdate (pjmediaRtpSeqUpdate (pjmediaRtpSeqInit heardTwo 0) 0).1 1).1 = heardTwo ∧
      Along numbered InWindow (heardTwo, 1) (jumps 1432134 1) ∧
      ¬ Stepwise numbered (fun before _ after _ => before.1.extended ≤ after.1.extended)
        (heardTwo, 1) (jumps 1432134 1) := by
  have tracked : Tracked (heardTwo, 1) (heardTwo, 1) :=
    tracked_start ⟨by decide, by decide, by decide⟩ rfl rfl
  refine ⟨rfl, jumps_inWindow _ _ tracked _, ?_⟩
  intro rises
  have rise := jumps_rise _ _ tracked _ rises 1432133 (by omega)
  simp only [heardTwo, RtpSeqSession.extended] at rise
  omega

end Pjsip.Pjmedia.Rtp
