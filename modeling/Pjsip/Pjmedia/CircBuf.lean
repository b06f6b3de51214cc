import Pjsip.Base.Ring
import Pjsip.Base.Run

/-!
# The circular buffer (`circbuf.h`)

Samples in an array, from `start` on and from the front of the array again. What is read or written
is at most two regions of the array.
-/

namespace Pjsip.Pjmedia.CircBuf

open Pjsip.Base

/-! ## The model -/

/-- `pjmedia_circ_buf`; `start` is an index of the array. -/
structure Circ where
  buf : List Int16
  start : Nat
  len : Nat
  deriving DecidableEq, Repr

def Circ.capacity (cb : Circ) : Nat := cb.buf.length

/-- Samples of which an `unsigned` can count the number. -/
abbrev Samples := { samples : List Int16 // samples.length < 2 ^ 32 }

/-- What a call returns: samples, if there are any to return, or `PJ_ETOOBIG`. -/
inductive Answer where
  | ok (samples : List Int16)
  | etoobig
  deriving DecidableEq, Repr

/-- Two regions, of which the second one may be a null pointer. -/
structure Regions where
  reg1 : Nat
  reg1Len : Nat
  reg2 : Option Nat
  reg2Len : Nat
  deriving DecidableEq, Repr

/-- `pjmedia_circ_buf_create` -/
def pjmediaCircBufCreate (capacity : UInt32) : Circ where
  buf := List.replicate capacity.toNat 0
  start := 0
  len := 0

/-- `pjmedia_circ_buf_reset` -/
def pjmediaCircBufReset (cb : Circ) : Circ := { cb with start := 0, len := 0 }

/-- `pjmedia_circ_buf_set_len` -/
def pjmediaCircBufSetLen (cb : Circ) (len : UInt32) : Circ := { cb with len := len.toNat }

/-- `pjmedia_circ_buf_adv_read_ptr` -/
def pjmediaCircBufAdvReadPtr (cb : Circ) (count : UInt32) : Circ :=
  if cb.len ≤ count.toNat then pjmediaCircBufReset cb
  else
    let start := cb.start + count.toNat
    { cb with
      start := if cb.capacity ≤ start then start - cb.capacity else start
      len := cb.len - count.toNat }

/-- `pjmedia_circ_buf_adv_write_ptr`, with the sum of two `unsigned`. -/
def pjmediaCircBufAdvWritePtr (cb : Circ) (count : Nat) : Circ × Answer :=
  if cb.capacity < (count + cb.len) % 2 ^ 32 then (cb, .etoobig)
  else ({ cb with len := (cb.len + count) % 2 ^ 32 }, .ok [])

/-- `pjmedia_circ_buf_get_read_regions` -/
def pjmediaCircBufGetReadRegions (cb : Circ) : Regions :=
  if cb.capacity < cb.start + cb.len then
    { reg1 := cb.start
      reg1Len := cb.capacity - cb.start
      reg2 := some 0
      reg2Len := cb.len - (cb.capacity - cb.start) }
  else { reg1 := cb.start, reg1Len := cb.len, reg2 := none, reg2Len := 0 }

/-- `pjmedia_circ_buf_get_write_regions` -/
def pjmediaCircBufGetWriteRegions (cb : Circ) : Regions :=
  let reg1 := cb.start + cb.len
  let reg1 := if cb.capacity ≤ reg1 then reg1 - cb.capacity else reg1
  if cb.capacity < reg1 + (cb.capacity - cb.len) then
    { reg1, reg1Len := cb.capacity - reg1, reg2 := some 0, reg2Len := cb.start }
  else { reg1, reg1Len := cb.capacity - cb.len, reg2 := none, reg2Len := 0 }

/-- `pjmedia_copy_samples` out of the array. There is no copy outside of it, nor one whose size in
octets, an `unsigned`, wraps around. -/
def copyOut (buf : List Int16) (src : Option Nat) (count : Nat) : Option (List Int16) :=
  if count = 0 then some []
  else
    match src with
    | some src => if count < 2 ^ 31 ∧ src + count ≤ buf.length then some (stretch buf src count)
        else none
    | none => none

/-- `pjmedia_copy_samples` into the array. -/
def copyIn (buf : List Int16) (dst : Option Nat) (samples : List Int16) : Option (List Int16) :=
  if samples.length = 0 then some buf
  else
    match dst with
    | some dst =>
      if samples.length < 2 ^ 31 ∧ dst + samples.length ≤ buf.length then
        some (overwrite buf dst samples)
      else none
    | none => none

/-- `pjmedia_move_samples` -/
def moveSamples (buf : List Int16) (dst src count : Nat) : Option (List Int16) := do
  let samples ← copyOut buf (some src) count
  copyIn buf (some dst) samples

/-- `pjmedia_copy_samples` inside of the array, where the regions must not overlap. -/
def copySamples (buf : List Int16) (dst src count : Nat) : Option (List Int16) :=
  if dst < src + count ∧ src < dst + count then none else moveSamples buf dst src count

/-- `pjmedia_circ_buf_read` -/
def pjmediaCircBufRead (cb : Circ) (count : UInt32) : Option (Circ × Answer) :=
  if cb.len < count.toNat then some (cb, .etoobig)
  else do
    let r := pjmediaCircBufGetReadRegions cb
    let first ← copyOut cb.buf (some r.reg1) (min count.toNat r.reg1Len)
    let second ← copyOut cb.buf r.reg2 (count.toNat - r.reg1Len)
    some (pjmediaCircBufAdvReadPtr cb count, .ok (first ++ second))

/-- `pjmedia_circ_buf_write` -/
def pjmediaCircBufWrite (cb : Circ) (data : Samples) : Option (Circ × Answer) :=
  if cb.capacity - cb.len < data.1.length then some (cb, .etoobig)
  else do
    let r := pjmediaCircBufGetWriteRegions cb
    let buf ← copyIn cb.buf (some r.reg1) (data.1.take r.reg1Len)
    let buf ← copyIn buf r.reg2 (data.1.drop r.reg1Len)
    some (pjmediaCircBufAdvWritePtr { cb with buf } data.1.length)

/-- `pjmedia_circ_buf_copy`, with the sum of two `unsigned`. -/
def pjmediaCircBufCopy (cb : Circ) (startIdx count : UInt32) : Option (Circ × Answer) :=
  if cb.len < (count + startIdx).toNat then some (cb, .etoobig)
  else
    let r := pjmediaCircBufGetReadRegions cb
    if startIdx.toNat < r.reg1Len then do
      let tmpLen := min (r.reg1Len - startIdx.toNat) count.toNat
      let first ← copyOut cb.buf (some (r.reg1 + startIdx.toNat)) tmpLen
      let second ← copyOut cb.buf r.reg2 (count.toNat - tmpLen)
      some (cb, .ok (first ++ second))
    else do
      let data ← copyOut cb.buf (r.reg2.map (· + startIdx.toNat - r.reg1Len)) count.toNat
      some (cb, .ok data)

/-- One turn of the loop of `pjmedia_circ_buf_pack_buffer`: `gap` samples are taken from the front
of the second region, which is at the front of the array. -/
def rollOnce (buf : List Int16) (gap reg1 reg1Cnt reg2Cnt : Nat) : Option (List Int16) := do
  let buf ← moveSamples buf (reg1 - gap) reg1 reg1Cnt
  let buf ← copySamples buf (reg1 + reg1Cnt - gap) 0 gap
  if gap < reg2Cnt then moveSamples buf 0 gap (reg2Cnt - gap) else some buf

/-- The loop of `pjmedia_circ_buf_pack_buffer`; the bound is on the number of turns. -/
def rollLeft : (fuel : Nat) → (buf : List Int16) → (gap reg1 reg1Cnt reg2Cnt : Nat) →
    Option (List Int16 × Nat)
  | 0, _, _, _, _, _ => none
  | fuel + 1, buf, gap, reg1, reg1Cnt, reg2Cnt =>
    let gap := if reg2Cnt < gap then reg2Cnt else gap
    (rollOnce buf gap reg1 reg1Cnt reg2Cnt).bind fun buf =>
      if 0 < reg2Cnt - gap then
        rollLeft fuel buf gap (reg1 - gap) (reg1Cnt + gap) (reg2Cnt - gap)
      else some (buf, reg1 - gap)

/-- The end of `pjmedia_circ_buf_pack_buffer`: the samples from `reg1` on are shifted to the front
of the array. -/
def shiftLeft (cb : Circ) (buf : List Int16) (reg1 : Nat) : Option (Circ × Answer) :=
  (if reg1 ≠ 0 then moveSamples buf 0 reg1 cb.len else some buf).bind fun buf =>
    some ({ cb with buf, start := 0 }, .ok [])

/-- `pjmedia_circ_buf_pack_buffer` -/
def pjmediaCircBufPackBuffer (cb : Circ) : Option (Circ × Answer) :=
  let r := pjmediaCircBufGetReadRegions cb
  if r.reg2Len ≠ 0 then
    let gap := cb.capacity - cb.len
    if gap = 0 then some (cb, .etoobig)
    else
      (rollLeft r.reg2Len cb.buf gap r.reg1 r.reg1Len r.reg2Len).bind fun rolled =>
        shiftLeft cb rolled.1 rolled.2
  else shiftLeft cb cb.buf r.reg1

/-- The write regions are filled with samples, as far as there is room for them. -/
def Circ.fill (cb : Circ) (samples : Samples) : Circ :=
  let r := pjmediaCircBufGetWriteRegions cb
  let buf := overwrite cb.buf r.reg1 (samples.1.take r.reg1Len)
  { cb with
    buf := r.reg2.elim buf fun reg2 =>
      overwrite buf reg2 ((samples.1.drop r.reg1Len).take r.reg2Len) }

/-! ## Runs -/

/-- The calls. `advWritePtr` is made with the number of samples that the write regions have been
filled with before. -/
inductive Op where
  | write (data : Samples)
  | read (count : UInt32)
  | copy (startIdx count : UInt32)
  | advReadPtr (count : UInt32)
  | advWritePtr (samples : Samples)
  | setLen (len : UInt32)
  | packBuffer
  | reset
  deriving DecidableEq

/-- The state in which a function is called. -/
def Circ.before (cb : Circ) : Op → Circ
  | .advWritePtr samples => cb.fill samples
  | _ => cb

/-- No step is a call that copies outside of the array. -/
def step (cb : Circ) : Op → Option (Circ × Answer)
  | .write data => pjmediaCircBufWrite cb data
  | .read count => pjmediaCircBufRead cb count
  | .copy startIdx count => pjmediaCircBufCopy cb startIdx count
  | .advReadPtr count => some (pjmediaCircBufAdvReadPtr cb count, .ok [])
  | .advWritePtr samples =>
    some (pjmediaCircBufAdvWritePtr (cb.before (.advWritePtr samples)) samples.1.length)
  | .setLen len => some (pjmediaCircBufSetLen cb len, .ok [])
  | .packBuffer => pjmediaCircBufPackBuffer cb
  | .reset => some (pjmediaCircBufReset cb, .ok [])

/-- The samples of two regions, one behind the other. -/
def Regions.samples {α : Type} (r : Regions) (l : List α) : List α :=
  stretch l r.reg1 r.reg1Len ++ r.reg2.elim [] fun reg2 => stretch l reg2 r.reg2Len

/-- The indices of two regions. -/
def Regions.indices (r : Regions) : List Nat :=
  List.range' r.reg1 r.reg1Len ++ r.reg2.elim [] fun reg2 => List.range' reg2 r.reg2Len

/-- What is in the buffer: its read regions, one behind the other. -/
def Circ.content (cb : Circ) : List Int16 := (pjmediaCircBufGetReadRegions cb).samples cb.buf

/-- The read and the write regions are apart, inside of the array, and the whole of it. -/
def Circ.Divided (cb : Circ) : Prop :=
  ((pjmediaCircBufGetReadRegions cb).indices ++ (pjmediaCircBufGetWriteRegions cb).indices).Perm
    (List.range cb.capacity)

/-! ## The queue -/

/-- A bounded queue: the samples after a call, and its answer. -/
def queueStep (capacity : Nat) (queue : List Int16) : Op → List Int16 × Answer
  | .write data | .advWritePtr data =>
    if capacity < queue.length + data.1.length then (queue, .etoobig)
    else (queue ++ data.1, .ok [])
  | .read count =>
    if queue.length < count.toNat then (queue, .etoobig)
    else (queue.drop count.toNat, .ok (queue.take count.toNat))
  | .copy startIdx count =>
    if queue.length < startIdx.toNat + count.toNat then (queue, .etoobig)
    else (queue, .ok ((queue.drop startIdx.toNat).take count.toNat))
  | .advReadPtr count => (queue.drop count.toNat, .ok [])
  | .setLen len => (queue.take len.toNat, .ok [])
  | .packBuffer => (queue, .ok [])
  | .reset => ([], .ok [])

/-- A call does to the content what the queue does, and answers what the queue answers. It is not
the queue that refuses to be packed; when it is packed the content is at the front of the array.
A call that is refused changes nothing. -/
structure Refines (cb : Circ) (op : Op) (cb' : Circ) (answer : Answer) : Prop where
  content : cb'.content = (queueStep cb.capacity cb.content op).1
  answers : op ≠ .packBuffer → answer = (queueStep cb.capacity cb.content op).2
  packs : op = .packBuffer → answer ≠ .etoobig → cb'.start = 0 ∧ cb'.buf.take cb'.len = cb.content
  refused : answer = .etoobig → cb' = cb.before op
  divided : cb'.Divided

/-! ## The ring -/

/-- The cursor is inside of the array, and the length no more than the capacity. -/
structure Circ.Sound (cb : Circ) : Prop where
  start : cb.start < cb.capacity
  len : cb.len ≤ cb.capacity
  counted : cb.capacity < 2 ^ 32

/-- The array from `start` on. -/
def Circ.ring (cb : Circ) : List Int16 := cb.buf.rotate cb.start

@[simp] theorem ring_length (cb : Circ) : cb.ring.length = cb.capacity := List.length_rotate ..

/-- Two regions are `n` places of the ring from place `k` on. -/
structure Covers (size start k n : Nat) (r : Regions) : Prop where
  within : k + n ≤ size
  total : r.reg1Len + r.reg2Len = n
  first : Place size start k r.reg1
  inside : r.reg1 + r.reg1Len ≤ size
  second : ∀ reg2 ∈ r.reg2, Place size start (k + r.reg1Len) reg2 ∧ reg2 + r.reg2Len ≤ size
  single : r.reg2 = none → r.reg2Len = 0

section Regions

variable {cb : Circ}

theorem readRegions_covers (sound : cb.Sound) :
    Covers cb.capacity cb.start 0 cb.len (pjmediaCircBufGetReadRegions cb) := by
  obtain ⟨start, len, -⟩ := sound
  have here : Place cb.capacity cb.start 0 cb.start := ⟨start, Nat.zero_le _, by simp [start]⟩
  unfold pjmediaCircBufGetReadRegions
  split
  · next wraps =>
      refine ⟨by omega, by dsimp only; omega, here, by dsimp only; omega, ?_, nofun⟩
      rintro _ ⟨⟩
      refine ⟨⟨start, by dsimp only; omega, ?_⟩, by dsimp only; omega⟩
      dsimp only
      rw [if_neg (by omega)]
      omega
  · next fits => exact ⟨by omega, rfl, here, by dsimp only; omega, nofun, fun _ => rfl⟩

theorem writeRegions_covers (sound : cb.Sound) :
    Covers cb.capacity cb.start cb.len (cb.capacity - cb.len)
      (pjmediaCircBufGetWriteRegions cb) := by
  obtain ⟨start, len, -⟩ := sound
  unfold pjmediaCircBufGetWriteRegions
  dsimp only
  have here : Place cb.capacity cb.start cb.len
      (if cb.capacity ≤ cb.start + cb.len then cb.start + cb.len - cb.capacity
        else cb.start + cb.len) := by
    refine ⟨start, len, ?_⟩
    by_cases wraps : cb.capacity ≤ cb.start + cb.len
    · rw [if_pos wraps, if_neg (by omega)]
    · rw [if_neg wraps, if_pos (by omega)]
  by_cases wraps : cb.capacity ≤ cb.start + cb.len
  · rw [if_pos wraps] at here ⊢
    rw [if_neg (by omega)]
    exact ⟨by omega, rfl, here, by dsimp only; omega, nofun, fun _ => rfl⟩
  · rw [if_neg wraps] at here ⊢
    by_cases beyond : cb.capacity < cb.start + cb.len + (cb.capacity - cb.len)
    · rw [if_pos beyond]
      refine ⟨by omega, by dsimp only; omega, here, by dsimp only; omega, ?_, nofun⟩
      rintro _ ⟨⟩
      refine ⟨⟨start, by dsimp only; omega, ?_⟩, by dsimp only; omega⟩
      dsimp only
      rw [if_neg (by omega)]
      omega
    · rw [if_neg beyond]
      exact ⟨by omega, rfl, here, by dsimp only; omega, nofun, fun _ => rfl⟩

variable {r : Regions} {k n : Nat}

theorem Covers.samples {α : Type} {l : List α} {start : Nat}
    (covers : Covers l.length start k n r) :
    r.samples l = stretch (l.rotate start) k n := by
  obtain ⟨within, total, first, inside, second, single⟩ := covers
  unfold Regions.samples
  rw [stretch_rotate first (by omega) inside]
  cases reg2 : r.reg2 with
  | none =>
    have empty := single reg2
    rw [show n = r.reg1Len by omega]
    exact List.append_nil _
  | some p =>
    obtain ⟨place, fits⟩ := second p reg2
    show _ ++ stretch l p r.reg2Len = _
    rw [stretch_rotate place (by omega) fits, stretch_add, total]

theorem content_eq (sound : cb.Sound) : cb.content = cb.ring.take cb.len :=
  (readRegions_covers sound).samples

@[simp] theorem content_length (sound : cb.Sound) : cb.content.length = cb.len := by
  have len := sound.len
  rw [content_eq sound, List.length_take, ring_length]
  omega

theorem stretch_range {size p m : Nat} (inside : p + m ≤ size) :
    stretch (List.range size) p m = List.range' p m := by
  apply List.ext_getElem
  · rw [stretch_length (by rw [List.length_range]; exact inside), List.length_range']
  · intro i _ _
    simp [stretch]

theorem Covers.indices {size start : Nat} (covers : Covers size start k n r) :
    r.indices = r.samples (List.range size) := by
  obtain ⟨within, total, first, inside, second, single⟩ := covers
  unfold Regions.indices Regions.samples
  rw [stretch_range inside]
  cases reg2 : r.reg2 with
  | none => rfl
  | some p =>
    show _ ++ List.range' p r.reg2Len = _ ++ stretch _ p r.reg2Len
    rw [stretch_range (second p reg2).2]

theorem divided (sound : cb.Sound) : cb.Divided := by
  have size : (List.range cb.capacity).length = cb.capacity := List.length_range
  have reads := readRegions_covers sound
  have writes := writeRegions_covers sound
  unfold Circ.Divided
  rw [reads.indices, writes.indices]
  rw [← size] at reads writes
  rw [List.length_range] at reads writes
  have first := Covers.samples (l := List.range cb.capacity) (r := pjmediaCircBufGetReadRegions cb)
    (by rw [size]; exact reads)
  have second := Covers.samples (l := List.range cb.capacity)
    (r := pjmediaCircBufGetWriteRegions cb) (by rw [size]; exact writes)
  rw [first, second]
  have whole := stretch_add ((List.range cb.capacity).rotate cb.start) 0 cb.len
    (cb.capacity - cb.len)
  rw [Nat.zero_add] at whole
  rw [whole, stretch_take, List.take_of_length_le (by rw [List.length_rotate, size]; omega)]
  exact List.rotate_perm _ _

end Regions

/-! ## Copying samples -/

variable {buf : List Int16}

section Copies

variable {cb : Circ} {r : Regions} {k m n : Nat}

theorem copyOut_wraps {src : Option Nat} (long : 2 ^ 31 ≤ n) :
    copyOut buf src n = none := by
  unfold copyOut
  rw [if_neg (by omega)]
  cases src with
  | none => rfl
  | some src =>
    dsimp only
    rw [if_neg (by omega)]

theorem copyIn_wraps {buf samples : List Int16} {dst : Option Nat}
    (long : 2 ^ 31 ≤ samples.length) : copyIn buf dst samples = none := by
  unfold copyIn
  rw [if_neg (by omega)]
  cases dst with
  | none => rfl
  | some dst =>
    dsimp only
    rw [if_neg (by omega)]

@[simp] theorem copyOut_zero (buf : List Int16) (src : Option Nat) :
    copyOut buf src 0 = some [] :=
  if_pos rfl

theorem copyOut_inside {src : Nat} (short : n < 2 ^ 31)
    (inside : src + n ≤ buf.length) : copyOut buf (some src) n = some (stretch buf src n) := by
  unfold copyOut
  by_cases zero : n = 0
  · rw [if_pos zero, zero]
    simp [stretch]
  · rw [if_neg zero]
    exact if_pos ⟨short, inside⟩

theorem copyIn_inside {buf samples : List Int16} {dst : Nat} (short : samples.length < 2 ^ 31)
    (inside : dst + samples.length ≤ buf.length) :
    copyIn buf (some dst) samples = some (overwrite buf dst samples) := by
  unfold copyIn
  by_cases zero : samples.length = 0
  · rw [if_pos zero, List.eq_nil_of_length_eq_zero zero, overwrite_nil]
  · rw [if_neg zero]
    exact if_pos ⟨short, inside⟩

theorem copyOut_second (covers : Covers cb.capacity cb.start k m r) {i : Nat}
    (short : n < 2 ^ 31) (fits : r.reg1Len + i + n ≤ m) :
    copyOut cb.buf (r.reg2.map (· + i)) n = some (stretch cb.ring (k + r.reg1Len + i) n) := by
  obtain ⟨within, total, first, inside, second, single⟩ := covers
  by_cases empty : n = 0
  · subst empty
    simp [stretch]
  · cases reg2 : r.reg2 with
    | none =>
      have := single reg2
      omega
    | some p =>
      obtain ⟨place, beyond⟩ := second p reg2
      have there := place.shift (i := i) (by omega) (by omega)
      show copyOut cb.buf (some (p + i)) n = _
      rw [copyOut_inside short (by show _ ≤ cb.capacity; omega),
        stretch_rotate there (by show _ ≤ cb.capacity; omega) (by show _ ≤ cb.capacity; omega)]
      rfl

theorem copyOut_first (covers : Covers cb.capacity cb.start k m r) {i : Nat}
    (short : n < 2 ^ 31) (fits : i + n ≤ r.reg1Len) :
    copyOut cb.buf (some (r.reg1 + i)) n = some (stretch cb.ring (k + i) n) := by
  obtain ⟨within, total, first, inside, second, single⟩ := covers
  by_cases empty : n = 0
  · subst empty
    simp [stretch]
  · have there := first.shift (i := i) (by omega) (by omega)
    rw [copyOut_inside short (by show _ ≤ cb.capacity; omega),
      stretch_rotate there (by show _ ≤ cb.capacity; omega) (by show _ ≤ cb.capacity; omega)]
    rfl

/-- The array, once samples have been written into two regions. -/
def Regions.overwritten (r : Regions) (buf data : List Int16) : List Int16 :=
  let buf := overwrite buf r.reg1 (data.take r.reg1Len)
  r.reg2.elim buf fun reg2 => overwrite buf reg2 (data.drop r.reg1Len)

theorem Covers.pieces (data : List Int16) (covers : Covers cb.capacity cb.start k m r) :
    (data.take r.reg1Len).length = min r.reg1Len data.length
      ∧ (data.drop r.reg1Len).length = data.length - r.reg1Len
      ∧ r.reg1 + (data.take r.reg1Len).length ≤ cb.buf.length := by
  obtain ⟨within, total, first, inside, second, single⟩ := covers
  refine ⟨List.length_take, List.length_drop, ?_⟩
  rw [List.length_take]
  show _ ≤ cb.capacity
  omega

theorem overwritten_ring (data : List Int16) (covers : Covers cb.capacity cb.start k m r)
    (fits : data.length ≤ m) :
    (r.overwritten cb.buf data).length = cb.capacity
      ∧ (r.overwritten cb.buf data).rotate cb.start = overwrite cb.ring k data := by
  obtain ⟨size₁, size₂, fits₁⟩ := covers.pieces data
  obtain ⟨within, total, first, inside, second, single⟩ := covers
  have rotated : (overwrite cb.buf r.reg1 (data.take r.reg1Len)).rotate cb.start
      = overwrite cb.ring k (data.take r.reg1Len) :=
    overwrite_rotate first (by show _ ≤ cb.capacity; omega) fits₁
  have size : (overwrite cb.buf r.reg1 (data.take r.reg1Len)).length = cb.capacity :=
    overwrite_length fits₁
  have joined := overwrite_overwrite (l := cb.ring) k (data.take r.reg1Len)
    (data.drop r.reg1Len) (by
      rw [List.take_append_drop, ring_length]
      omega)
  rw [List.take_append_drop] at joined
  unfold Regions.overwritten
  cases reg2 : r.reg2 with
  | none =>
    have empty := single reg2
    refine ⟨size, ?_⟩
    show (overwrite cb.buf r.reg1 _).rotate cb.start = _
    rw [rotated, List.take_of_length_le (by omega)]
  | some p =>
    obtain ⟨place, beyond⟩ := second p reg2
    have fits₂ : p + (data.drop r.reg1Len).length
        ≤ (overwrite cb.buf r.reg1 (data.take r.reg1Len)).length := by
      rw [size]
      omega
    refine ⟨(overwrite_length fits₂).trans size, ?_⟩
    show (overwrite _ p (data.drop r.reg1Len)).rotate cb.start = _
    by_cases more : data.length ≤ r.reg1Len
    · rw [List.drop_eq_nil_of_le more, overwrite_nil, rotated, List.take_of_length_le more]
    · rw [overwrite_rotate (by rw [size]; exact place) (by rw [size]; omega) fits₂, rotated,
        ← joined]
      congr 1
      omega

theorem copyIn_regions (data : List Int16) (covers : Covers cb.capacity cb.start k m r)
    (fits : data.length ≤ m) (short₁ : min data.length r.reg1Len < 2 ^ 31)
    (short₂ : data.length - r.reg1Len < 2 ^ 31) :
    ∃ buf, copyIn cb.buf (some r.reg1) (data.take r.reg1Len) = some buf
      ∧ copyIn buf r.reg2 (data.drop r.reg1Len) = some (r.overwritten cb.buf data) := by
  obtain ⟨size₁, size₂, fits₁⟩ := covers.pieces data
  obtain ⟨within, total, first, inside, second, single⟩ := covers
  refine ⟨overwrite cb.buf r.reg1 (data.take r.reg1Len), copyIn_inside (by omega) fits₁, ?_⟩
  unfold Regions.overwritten
  cases reg2 : r.reg2 with
  | none =>
    have empty := single reg2
    exact if_pos (by omega)
  | some p =>
    refine copyIn_inside (by omega) ?_
    rw [overwrite_length fits₁]
    show _ ≤ cb.capacity
    have := (second p reg2).2
    omega

end Copies

/-! ## The calls -/

/-- The pieces that `n` samples are copied in, when the first one has no more than `first`. -/
def Short (n first : Nat) : Prop := min n first < 2 ^ 31 ∧ n - first < 2 ^ 31

theorem Short.of_lt {n first : Nat} (short : n < 2 ^ 31) : Short n first := by
  constructor <;> omega

section Calls

variable {cb : Circ}

theorem reset_sound (sound : cb.Sound) : (pjmediaCircBufReset cb).Sound :=
  ⟨Nat.lt_of_le_of_lt (Nat.zero_le _) sound.start, Nat.zero_le _, sound.counted⟩

theorem reset_content (cb : Circ) : (pjmediaCircBufReset cb).content = [] := rfl

theorem setLen_sound (sound : cb.Sound) {len : UInt32} (less : len.toNat ≤ cb.len) :
    (pjmediaCircBufSetLen cb len).Sound :=
  ⟨sound.start, Nat.le_trans less sound.len, sound.counted⟩

theorem setLen_content (sound : cb.Sound) {len : UInt32} (less : len.toNat ≤ cb.len) :
    (pjmediaCircBufSetLen cb len).content = cb.content.take len.toNat := by
  rw [content_eq (setLen_sound sound less), content_eq sound, List.take_take]
  show cb.ring.take len.toNat = _
  rw [Nat.min_eq_left less]

theorem advReadPtr_spec (sound : cb.Sound) (count : UInt32) :
    (pjmediaCircBufAdvReadPtr cb count).Sound
      ∧ (pjmediaCircBufAdvReadPtr cb count).content = cb.content.drop count.toNat
      ∧ (pjmediaCircBufAdvReadPtr cb count).buf = cb.buf := by
  have ⟨start, len, counted⟩ := sound
  unfold pjmediaCircBufAdvReadPtr
  by_cases all : cb.len ≤ count.toNat
  · rw [if_pos all]
    refine ⟨reset_sound sound, ?_, rfl⟩
    rw [reset_content, List.drop_eq_nil_of_le]
    rw [content_length sound]
    exact all
  · rw [if_neg all]
    dsimp only
    generalize next_ : (if cb.capacity ≤ cb.start + count.toNat
      then cb.start + count.toNat - cb.capacity else cb.start + count.toNat) = next
    have place : next < cb.capacity := by
      rw [← next_]
      split <;> omega
    have sound' : Circ.Sound { cb with start := next, len := cb.len - count.toNat } :=
      ⟨place, by show cb.len - _ ≤ cb.capacity; omega, counted⟩
    refine ⟨sound', ?_, rfl⟩
    have ring : cb.buf.rotate next = cb.ring.rotate count.toNat := by
      have modulo : next = (cb.start + count.toNat) % cb.buf.length := by
        rw [← next_]
        show _ = _ % cb.capacity
        split
        · rw [Nat.mod_eq_sub_mod (by omega), Nat.mod_eq_of_lt (by omega)]
        · rw [Nat.mod_eq_of_lt (by omega)]
      rw [Circ.ring, List.rotate_rotate, modulo, List.rotate_mod]
    rw [content_eq sound', content_eq sound, List.drop_take]
    show (cb.buf.rotate next).take _ = _
    rw [ring, rotate_eq (by rw [ring_length]; omega), List.take_append_of_le_length]
    rw [List.length_drop, ring_length]
    show cb.len - count.toNat ≤ _
    omega

theorem advWritePtr_spec (sound : cb.Sound) (count : Nat) (fits : cb.len + count ≤ cb.capacity) :
    ∃ cb', pjmediaCircBufAdvWritePtr cb count = (cb', .ok []) ∧ cb'.Sound
      ∧ cb'.content = cb.ring.take (cb.len + count) ∧ cb'.capacity = cb.capacity := by
  have counted := sound.counted
  unfold pjmediaCircBufAdvWritePtr
  rw [Nat.add_comm count, Nat.mod_eq_of_lt (by omega), if_neg (by omega)]
  have sound' : Circ.Sound { cb with len := cb.len + count } := ⟨sound.start, fits, counted⟩
  exact ⟨_, rfl, sound', content_eq sound', rfl⟩

theorem append_spec (sound : cb.Sound) {buf data : List Int16}
    (size : buf.length = cb.capacity) (fits : cb.len + data.length ≤ cb.capacity)
    (rotated : buf.rotate cb.start = overwrite cb.ring cb.len data) :
    ∃ cb', pjmediaCircBufAdvWritePtr { cb with buf } data.length = (cb', .ok []) ∧ cb'.Sound
      ∧ cb'.content = cb.content ++ data ∧ cb'.capacity = cb.capacity := by
  have written : Circ.Sound { cb with buf } := by
    refine ⟨?_, ?_, ?_⟩
    · show cb.start < buf.length
      rw [size]
      exact sound.start
    · show cb.len ≤ buf.length
      rw [size]
      exact sound.len
    · show buf.length < 2 ^ 32
      rw [size]
      exact sound.counted
  obtain ⟨cb', taken, sound', content, same⟩ := advWritePtr_spec written data.length (by
    show _ ≤ buf.length
    rw [size]
    exact fits)
  refine ⟨cb', taken, sound', ?_, same.trans size⟩
  rw [content, content_eq sound]
  show (buf.rotate cb.start).take (cb.len + data.length) = _
  rw [rotated, take_overwrite data (by rw [ring_length]; exact sound.len)]

theorem read_spec (sound : cb.Sound) {count : UInt32} (fits : count.toNat ≤ cb.len)
    (short : Short count.toNat (pjmediaCircBufGetReadRegions cb).reg1Len) :
    pjmediaCircBufRead cb count
      = some (pjmediaCircBufAdvReadPtr cb count, .ok (cb.content.take count.toNat)) := by
  have covers := readRegions_covers sound
  unfold pjmediaCircBufRead
  rw [if_neg (by omega)]
  generalize pjmediaCircBufGetReadRegions cb = r at covers short
  obtain ⟨short₁, short₂⟩ := short
  have first := copyOut_first covers (i := 0) short₁ (by omega)
  have second := copyOut_second covers (i := 0) (n := count.toNat - r.reg1Len) short₂
  simp only [Nat.add_zero, Nat.zero_add, Option.map_id'] at first second
  show (copyOut cb.buf (some r.reg1) (min count.toNat r.reg1Len)).bind _ = _
  rw [first]
  show (copyOut cb.buf r.reg2 (count.toNat - r.reg1Len)).bind _ = _
  by_cases one : count.toNat ≤ r.reg1Len
  · rw [Nat.sub_eq_zero_of_le one, copyOut_zero]
    show some (_, Answer.ok (_ ++ [])) = _
    rw [List.append_nil, Nat.min_eq_left one, content_eq sound, List.take_take,
      Nat.min_eq_left fits]
    rfl
  · rw [second (by omega)]
    show some (_, Answer.ok (_ ++ _)) = _
    have joined := stretch_add cb.ring 0 r.reg1Len (count.toNat - r.reg1Len)
    rw [Nat.zero_add, Nat.add_sub_cancel' (by omega)] at joined
    rw [Nat.min_eq_right (by omega), joined, content_eq sound, List.take_take, Nat.min_eq_left fits]
    rfl

theorem write_spec (sound : cb.Sound) {data : Samples} (fits : cb.len + data.1.length ≤ cb.capacity)
    (short : Short data.1.length (pjmediaCircBufGetWriteRegions cb).reg1Len) :
    ∃ cb', pjmediaCircBufWrite cb data = some (cb', .ok []) ∧ cb'.Sound
      ∧ cb'.content = cb.content ++ data.1 ∧ cb'.capacity = cb.capacity := by
  have covers := writeRegions_covers sound
  unfold pjmediaCircBufWrite
  rw [if_neg (by omega)]
  generalize pjmediaCircBufGetWriteRegions cb = r at covers short
  obtain ⟨size, rotated⟩ := overwritten_ring data.1 covers (by omega)
  obtain ⟨buf, first, second⟩ :=
    copyIn_regions data.1 covers (by omega) short.1 short.2
  obtain ⟨cb', taken, sound', content, same⟩ := append_spec sound size fits rotated
  refine ⟨cb', ?_, sound', content, same⟩
  show (copyIn cb.buf (some r.reg1) (data.1.take r.reg1Len)).bind _ = _
  rw [first]
  show (copyIn buf r.reg2 (data.1.drop r.reg1Len)).bind _ = _
  rw [second]
  show some (pjmediaCircBufAdvWritePtr { cb with buf := r.overwritten cb.buf data.1 }
    data.1.length) = _
  rw [taken]

theorem copy_spec (sound : cb.Sound) {startIdx count : UInt32}
    (fits : startIdx.toNat + count.toNat ≤ cb.len)
    (short : Short count.toNat ((pjmediaCircBufGetReadRegions cb).reg1Len - startIdx.toNat)) :
    pjmediaCircBufCopy cb startIdx count
      = some (cb, .ok ((cb.content.drop startIdx.toNat).take count.toNat)) := by
  have ⟨start, len, counted⟩ := sound
  have covers := readRegions_covers sound
  have sum : (count + startIdx).toNat = startIdx.toNat + count.toNat := by
    rw [UInt32.toNat_add, Nat.add_comm]
    exact Nat.mod_eq_of_lt (by omega)
  have wanted : (cb.content.drop startIdx.toNat).take count.toNat
      = stretch cb.ring startIdx.toNat count.toNat := by
    rw [content_eq sound, List.drop_take, List.take_take, Nat.min_eq_left (by omega)]
    rfl
  unfold pjmediaCircBufCopy
  rw [sum, if_neg (by omega), wanted]
  generalize pjmediaCircBufGetReadRegions cb = r at covers short
  obtain ⟨short₁, short₂⟩ := short
  by_cases inFirst : startIdx.toNat < r.reg1Len
  · rw [if_pos inFirst]
    have first := copyOut_first covers (i := startIdx.toNat)
      (n := min (r.reg1Len - startIdx.toNat) count.toNat) (by omega) (by omega)
    rw [Nat.zero_add] at first
    show (copyOut cb.buf (some (r.reg1 + startIdx.toNat))
      (min (r.reg1Len - startIdx.toNat) count.toNat)).bind _ = _
    rw [first]
    show (copyOut cb.buf r.reg2
      (count.toNat - min (r.reg1Len - startIdx.toNat) count.toNat)).bind _ = _
    by_cases one : count.toNat ≤ r.reg1Len - startIdx.toNat
    · rw [Nat.min_eq_right one, Nat.sub_self, copyOut_zero]
      show some (cb, Answer.ok (_ ++ [])) = _
      rw [List.append_nil]
    · rw [Nat.min_eq_left (by omega)]
      have second := copyOut_second covers (i := 0)
        (n := count.toNat - (r.reg1Len - startIdx.toNat)) (by omega) (by omega)
      simp only [Nat.add_zero, Nat.zero_add, Option.map_id'] at second
      rw [second]
      show some (cb, Answer.ok (_ ++ _)) = _
      have joined := stretch_add cb.ring startIdx.toNat (r.reg1Len - startIdx.toNat)
        (count.toNat - (r.reg1Len - startIdx.toNat))
      rw [Nat.add_sub_cancel' (Nat.le_of_lt inFirst), Nat.add_sub_cancel' (by omega)] at joined
      rw [joined]
  · rw [if_neg inFirst]
    have second := copyOut_second covers (i := startIdx.toNat - r.reg1Len) (n := count.toNat)
      (by omega) (by omega)
    rw [Nat.zero_add, Nat.add_sub_cancel' (by omega)] at second
    have same : (r.reg2.map (· + startIdx.toNat - r.reg1Len))
        = r.reg2.map (· + (startIdx.toNat - r.reg1Len)) := by
      congr 1
      funext p
      omega
    rw [same, second]
    rfl

theorem fill_spec (sound : cb.Sound) (samples : Samples) :
    (cb.fill samples).Sound ∧ (cb.fill samples).content = cb.content
      ∧ (cb.fill samples).len = cb.len ∧ (cb.fill samples).capacity = cb.capacity
      ∧ (cb.len + samples.1.length ≤ cb.capacity →
        (cb.fill samples).ring.take (cb.len + samples.1.length) = cb.content ++ samples.1) := by
  have covers := writeRegions_covers sound
  have ⟨start, len, counted⟩ := sound
  have total := covers.total
  obtain ⟨size, rotated⟩ := overwritten_ring (samples.1.take (cb.capacity - cb.len)) covers (by
      rw [List.length_take]
      omega)
  have filled : (cb.fill samples).buf = (pjmediaCircBufGetWriteRegions cb).overwritten cb.buf
      (samples.1.take (cb.capacity - cb.len)) := by
    unfold Circ.fill Regions.overwritten
    rw [List.take_take, Nat.min_eq_left (by omega), List.drop_take, ← total,
      Nat.add_sub_cancel_left]
  have capacity : (cb.fill samples).capacity = cb.capacity := by
    unfold Circ.capacity
    rw [filled]
    exact size
  have sound' : (cb.fill samples).Sound :=
    ⟨by rw [capacity]; exact start, by rw [capacity]; exact len, by rw [capacity]; exact counted⟩
  have ring : (cb.fill samples).ring
      = overwrite cb.ring cb.len (samples.1.take (cb.capacity - cb.len)) := by
    unfold Circ.ring
    rw [filled]
    exact rotated
  have before : cb.len ≤ cb.ring.length := by
    rw [ring_length]
    exact len
  refine ⟨sound', ?_, rfl, capacity, fun fits => ?_⟩
  · rw [content_eq sound', content_eq sound, ring]
    have front := congrArg (List.take cb.len)
      (take_overwrite (samples.1.take (cb.capacity - cb.len)) before)
    rw [List.take_take, Nat.min_eq_left (by omega)] at front
    show (overwrite _ _ _).take cb.len = _
    rw [front, List.take_append_of_le_length, List.take_take, Nat.min_self]
    rw [List.length_take]
    omega
  · have all : samples.1.take (cb.capacity - cb.len) = samples.1 :=
      List.take_of_length_le (by omega)
    rw [ring, all, take_overwrite samples.1 before, content_eq sound]

end Calls

/-! ## Packing -/

section Pack

theorem moveSamples_eq {buf front mid back : List Int16} {dst src n : Nat}
    (whole : buf = front ++ (mid ++ back)) (at_ : src = front.length) (size : n = mid.length)
    (short : n < 2 ^ 31) (inside : dst + n ≤ buf.length) :
    moveSamples buf dst src n = some (overwrite buf dst mid) := by
  have reach : src + n ≤ buf.length := by
    rw [whole, List.length_append, List.length_append]
    omega
  have taken : stretch buf src n = mid := by
    rw [whole]
    exact stretch_append front mid back at_ size
  unfold moveSamples
  rw [copyOut_inside short reach, taken]
  exact copyIn_inside (by omega) (by omega)

theorem split_length {l : List Int16} {n : Nat} (inside : n ≤ l.length) :
    ∃ a b, l = a ++ b ∧ a.length = n := by
  refine ⟨l.take n, l.drop n, (List.take_append_drop ..).symm, ?_⟩
  rw [List.length_take]
  omega

theorem rollOnce_spec {g : Nat} (moved rest left right first : List Int16)
    (movedSize : moved.length = g) (rightSize : right.length = g) (room : 0 < g)
    (short : first.length + (g + rest.length) < 2 ^ 31) :
    ∃ under, under.length = g ∧ rollOnce ((moved ++ rest) ++ ((left ++ right) ++ first)) g
          (g + rest.length + (left.length + g)) first.length (g + rest.length)
        = some (rest ++ ((under ++ left) ++ (first ++ moved))) := by
  obtain ⟨under, beyond, parts, underSize⟩ := split_length (l := right ++ first)
    (n := first.length) (by rw [List.length_append]; omega)
  have overSize : beyond.length = g := by
    have := congrArg List.length parts
    simp only [List.length_append] at this
    omega
  -- the first region is moved into the gap
  have one : moveSamples ((moved ++ rest) ++ ((left ++ right) ++ first))
      (g + rest.length + (left.length + g) - g) (g + rest.length + (left.length + g)) first.length
      = some ((moved ++ rest ++ left) ++ (first ++ beyond)) := by
    have end_ : (moved ++ rest) ++ ((left ++ right) ++ first)
        = ((moved ++ rest) ++ (left ++ right)) ++ (first ++ []) := by simp
    rw [moveSamples_eq end_ (by simp only [List.length_append]; omega) rfl (by omega)
      (by simp only [List.length_append]; omega)]
    have whole : (moved ++ rest) ++ ((left ++ right) ++ first)
        = (moved ++ rest ++ left) ++ (under ++ beyond) := by
      rw [← parts]
      simp
    rw [whole, overwrite_append _ under beyond first
      (by simp only [List.length_append]; omega) underSize.symm]
  -- samples of the second region are copied behind it
  have two : copySamples ((moved ++ rest ++ left) ++ (first ++ beyond))
      (g + rest.length + (left.length + g) + first.length - g) 0 g
      = some ((moved ++ rest ++ left ++ first) ++ (moved ++ [])) := by
    have front : (moved ++ rest ++ left) ++ (first ++ beyond)
        = [] ++ (moved ++ (rest ++ left ++ (first ++ beyond))) := by simp
    unfold copySamples
    rw [if_neg (by omega), moveSamples_eq front (by rfl) movedSize.symm (by omega)
      (by simp only [List.length_append]; omega)]
    have whole : (moved ++ rest ++ left) ++ (first ++ beyond)
        = (moved ++ rest ++ left ++ first) ++ (beyond ++ []) := by simp
    rw [whole, overwrite_append _ beyond [] moved
      (by simp only [List.length_append]; omega) (by omega)]
  -- and those that are left are moved to the front
  have three : ∃ under, under.length = g ∧ (if g < g + rest.length then
          moveSamples ((moved ++ rest ++ left ++ first) ++ (moved ++ [])) 0 g (g + rest.length - g)
        else some ((moved ++ rest ++ left ++ first) ++ (moved ++ [])))
        = some (rest ++ ((under ++ left) ++ (first ++ moved))) := by
    by_cases more : g < g + rest.length
    · obtain ⟨gone, under, parts, goneSize⟩ := split_length (l := moved ++ rest)
        (n := rest.length) (by rw [List.length_append]; omega)
      have size := congrArg List.length parts
      simp only [List.length_append] at size
      refine ⟨under, by omega, ?_⟩
      have whole : (moved ++ rest ++ left ++ first) ++ (moved ++ [])
          = moved ++ (rest ++ (left ++ first ++ moved)) := by simp
      rw [if_pos more, moveSamples_eq whole movedSize.symm (by omega) (by omega)
        (by simp only [List.length_append]; omega)]
      have again : (moved ++ rest ++ left ++ first) ++ (moved ++ [])
          = [] ++ (gone ++ (under ++ left ++ (first ++ moved))) := by
        rw [parts]
        simp
      rw [again, overwrite_append [] gone _ rest
        (show 0 = ([] : List Int16).length from rfl) goneSize.symm]
      rfl
    · have done : rest = [] := List.eq_nil_of_length_eq_zero (by omega)
      subst done
      refine ⟨moved, movedSize, ?_⟩
      rw [if_neg more]
      simp
  obtain ⟨under, size, three⟩ := three
  refine ⟨under, size, ?_⟩
  show (moveSamples _ _ _ _).bind _ = _
  rw [one]
  show (copySamples _ _ _ _).bind _ = _
  rw [two]
  exact three

theorem rollLeft_spec (fuel gap : Nat) (second between first : List Int16)
    (enough : second.length ≤ fuel) (nonempty : 0 < second.length) (room : 0 < gap)
    (fits : gap ≤ between.length) (short : first.length + second.length < 2 ^ 31) :
    ∃ front, rollLeft fuel (second ++ (between ++ first)) gap (second.length + between.length)
        first.length second.length = some (front ++ (first ++ second), front.length)
      ∧ front.length = between.length := by
  -- by induction on the turns. The second region is at the front of the array, and behind a gap is
  -- the first one; each turn brings samples from the front of the second region behind the first
  -- one.
  induction fuel generalizing gap second between first with
  | zero => omega
  | succ fuel ih =>
    obtain ⟨g, g_⟩ : ∃ g, (if second.length < gap then second.length else gap) = g := ⟨_, rfl⟩
    have least : 0 < g ∧ g ≤ gap ∧ g ≤ second.length := by
      rw [← g_]
      split <;> omega
    obtain ⟨moved, rest, rfl, movedSize⟩ := split_length (l := second) least.2.2
    obtain ⟨left, right, rfl, leftSize⟩ := split_length (l := between)
      (n := between.length - g) (by omega)
    simp only [List.length_append] at enough nonempty fits short leftSize least
    have rightSize : right.length = g := by omega
    have secondSize : (moved ++ rest).length = g + rest.length := by
      rw [List.length_append, movedSize]
    have betweenSize : (left ++ right).length = left.length + g := by
      rw [List.length_append, rightSize]
    obtain ⟨under, underSize, turn⟩ := rollOnce_spec moved rest left right first
      movedSize rightSize least.1 (by omega)
    unfold rollLeft
    rw [g_, secondSize, betweenSize]
    dsimp only
    rw [turn]
    show ∃ front, (if 0 < g + rest.length - g then _ else _) = _ ∧ _
    by_cases more : 0 < rest.length
    · obtain ⟨front, rolled, size⟩ := ih g rest (under ++ left) (first ++ moved) (by omega) more
        least.1 (by rw [List.length_append]; omega) (by rw [List.length_append]; omega)
      refine ⟨front, ?_, ?_⟩
      · rw [if_pos (by omega)]
        have at_ : rest.length + (under ++ left).length
            = g + rest.length + (left.length + g) - g := by
          rw [List.length_append]
          omega
        rw [at_, List.length_append, movedSize] at rolled
        rw [Nat.add_sub_cancel_left, rolled, List.append_assoc]
      · rw [size, List.length_append]
        omega
    · have done : rest = [] := List.eq_nil_of_length_eq_zero (by omega)
      subst done
      refine ⟨under ++ left, ?_, by rw [List.length_append]; omega⟩
      rw [if_neg (by simp), List.append_nil, List.length_append]
      show some (_, g + 0 + (left.length + g) - g) = some (_, under.length + left.length)
      rw [underSize, show g + 0 + (left.length + g) - g = g + left.length by omega]
      rfl

theorem rollLeft_reg1 {fuel gap reg1 reg1Cnt reg2Cnt : Nat}
    {rolled : List Int16 × Nat}
    (taken : rollLeft fuel buf gap reg1 reg1Cnt reg2Cnt = some rolled) :
    rolled.2 = reg1 - reg2Cnt := by
  induction fuel generalizing gap reg1 reg1Cnt reg2Cnt buf with
  | zero => cases taken
  | succ fuel ih =>
    unfold rollLeft at taken
    obtain ⟨g, g_⟩ : ∃ g, (if reg2Cnt < gap then reg2Cnt else gap) = g := ⟨_, rfl⟩
    have least : g ≤ reg2Cnt := by
      rw [← g_]
      split <;> omega
    rw [g_] at taken
    obtain ⟨_, -, rest⟩ := Option.bind_eq_some_iff.mp taken
    by_cases more : 0 < reg2Cnt - g
    · rw [if_pos more] at rest
      rw [ih rest]
      omega
    · rw [if_neg more] at rest
      cases rest
      show reg1 - g = _
      omega

variable {cb : Circ}

/-- Samples behind some others are shifted to the front of the array. -/
theorem shiftLeft_spec (cb : Circ) (front samples back : List Int16)
    (size : samples.length = cb.len)
    (capacity : (front ++ (samples ++ back)).length = cb.capacity)
    (short : front.length ≠ 0 → cb.len < 2 ^ 31) :
    ∃ buf, shiftLeft cb (front ++ (samples ++ back)) front.length
        = some ({ cb with buf, start := 0 }, .ok [])
      ∧ buf.length = cb.capacity ∧ buf.take cb.len = samples := by
  unfold shiftLeft
  by_cases there : front.length ≠ 0
  · have inside : cb.len ≤ (front ++ (samples ++ back)).length := by
      simp only [List.length_append]
      omega
    rw [if_pos there, moveSamples_eq rfl rfl size.symm (short there) (by omega)]
    refine ⟨_, rfl, ?_, ?_⟩
    · rw [overwrite_length (by omega), capacity]
    · have taken := take_overwrite samples (l := front ++ (samples ++ back)) (Nat.zero_le _)
      rw [Nat.zero_add, size] at taken
      exact taken
  · have done : front = [] := List.eq_nil_of_length_eq_zero (not_not.mp there)
    subst done
    refine ⟨_, rfl, capacity, ?_⟩
    rw [List.nil_append, ← size, List.take_left]

/-- Packing: refused if the samples take up the array and go round its end. -/
theorem pack_spec (sound : cb.Sound)
    (short : cb.start ≠ 0 → cb.len ≠ cb.capacity → cb.len < 2 ^ 31) :
    pjmediaCircBufPackBuffer cb = some (cb, .etoobig)
      ∨ ∃ buf, pjmediaCircBufPackBuffer cb = some ({ cb with buf, start := 0 }, .ok [])
        ∧ buf.length = cb.capacity ∧ buf.take cb.len = cb.content := by
  have ⟨start, len, counted⟩ := sound
  unfold pjmediaCircBufPackBuffer Circ.content pjmediaCircBufGetReadRegions
  by_cases wraps : cb.capacity < cb.start + cb.len
  · rw [if_pos wraps]
    dsimp only
    rw [if_pos (by omega)]
    by_cases full : cb.capacity - cb.len = 0
    · left
      rw [if_pos full]
    · right
      rw [if_neg full]
      obtain ⟨second, between, first, whole, secondSize, betweenSize⟩ := split_at cb.buf
        (cb.len - (cb.capacity - cb.start)) (cb.capacity - cb.len)
        (by show _ ≤ cb.capacity; omega)
      have capacity : second.length + (between.length + first.length) = cb.capacity := by
        unfold Circ.capacity
        rw [whole, List.length_append, List.length_append]
      have firstSize : first.length = cb.capacity - cb.start := by omega
      have small := short (by omega) (by omega)
      obtain ⟨front, rolled, frontSize⟩ := rollLeft_spec second.length (cb.capacity - cb.len) second
        between first (Nat.le_refl _) (by omega) (by omega) (by omega) (by omega)
      rw [show second.length + between.length = cb.start by omega, firstSize, secondSize, ← whole]
        at rolled
      rw [rolled]
      obtain ⟨buf, shifted, size, content⟩ := shiftLeft_spec cb front
        (first ++ second) [] (by rw [List.length_append]; omega)
        (by simp only [List.length_append, List.length_nil]; omega) (fun _ => small)
      refine ⟨buf, ?_, size, ?_⟩
      · rw [List.append_nil] at shifted
        exact shifted
      · have one : stretch cb.buf cb.start (cb.capacity - cb.start) = first := by
          have whole' : cb.buf = (second ++ between) ++ (first ++ []) := by
            rw [whole, List.append_nil, List.append_assoc]
          rw [whole']
          exact stretch_append (second ++ between) first [] (by rw [List.length_append]; omega)
            firstSize.symm
        have two : stretch cb.buf 0 (cb.len - (cb.capacity - cb.start)) = second := by
          rw [whole]
          exact stretch_append [] second (between ++ first) rfl secondSize.symm
        rw [content]
        show _ = stretch cb.buf cb.start _ ++ stretch cb.buf 0 _
        rw [one, two]
  · right
    rw [if_neg wraps]
    rw [if_neg (by simp)]
    obtain ⟨front, samples, back, whole, frontSize, size⟩ := split_at cb.buf cb.start cb.len
      (by show _ ≤ cb.capacity; omega)
    obtain ⟨buf, shifted, sized, content⟩ := shiftLeft_spec cb front samples back
      size (by rw [← whole]; rfl) (fun there => by
        by_cases full : cb.len = cb.capacity
        · omega
        · exact short (by omega) full)
    rw [← whole, frontSize] at shifted
    refine ⟨buf, shifted, sized, ?_⟩
    rw [content]
    show _ = stretch cb.buf cb.start cb.len ++ []
    rw [List.append_nil, whole]
    exact (stretch_append front samples back frontSize.symm size.symm).symm

theorem shiftLeft_wraps {reg1 : Nat} (there : reg1 ≠ 0)
    (long : 2 ^ 31 ≤ cb.len) : shiftLeft cb buf reg1 = none := by
  unfold shiftLeft moveSamples
  rw [if_pos there, copyOut_wraps long]
  rfl

theorem pack_wraps (sound : cb.Sound) (moved : cb.start ≠ 0) (room : cb.len ≠ cb.capacity)
    (long : 2 ^ 31 ≤ cb.len) : pjmediaCircBufPackBuffer cb = none := by
  have ⟨start, len, counted⟩ := sound
  unfold pjmediaCircBufPackBuffer pjmediaCircBufGetReadRegions
  by_cases wraps : cb.capacity < cb.start + cb.len
  · rw [if_pos wraps]
    dsimp only
    rw [if_pos (by omega), if_neg (by omega)]
    refine Option.bind_eq_none_iff.mpr fun rolled taken => shiftLeft_wraps ?_ long
    rw [rollLeft_reg1 taken]
    omega
  · rw [if_neg wraps]
    exact shiftLeft_wraps moved long

end Pack

/-! ## Refinement -/

/-- `len` is set to a smaller one only. -/
def Shrinks (cb : Circ) : Op → Prop
  | .setLen len => len.toNat ≤ cb.len
  | _ => True

/-- A call for which no sum of `unsigned` wraps around, unless the call is refused all the same, nor
the size of what is copied in one piece. -/
def Careful (cb : Circ) : Op → Prop
  | .write data =>
    cb.len + data.1.length ≤ cb.capacity →
      Short data.1.length (pjmediaCircBufGetWriteRegions cb).reg1Len
  | .read count =>
    count.toNat ≤ cb.len → Short count.toNat (pjmediaCircBufGetReadRegions cb).reg1Len
  | .copy startIdx count =>
    (count + startIdx).toNat ≤ cb.len → count.toNat + startIdx.toNat < 2 ^ 32
        ∧ Short count.toNat ((pjmediaCircBufGetReadRegions cb).reg1Len - startIdx.toNat)
  | .advWritePtr samples =>
    (samples.1.length + cb.len) % 2 ^ 32 ≤ cb.capacity → samples.1.length + cb.len < 2 ^ 32
  | .packBuffer => cb.start ≠ 0 → cb.len ≠ cb.capacity → cb.len < 2 ^ 31
  | _ => True

instance (n first : Nat) : Decidable (Short n first) := inferInstanceAs (Decidable (_ ∧ _))

instance Shrinks.decidable (cb : Circ) : (op : Op) → Decidable (Shrinks cb op)
  | .setLen len => inferInstanceAs (Decidable (len.toNat ≤ cb.len))
  | .write _ | .read _ | .copy _ _ | .advReadPtr _ | .advWritePtr _ | .packBuffer | .reset =>
    .isTrue trivial

instance Careful.decidable (cb : Circ) : (op : Op) → Decidable (Careful cb op)
  | .write data =>
    inferInstanceAs (Decidable (cb.len + data.1.length ≤ cb.capacity → Short _ _))
  | .read count => inferInstanceAs (Decidable (count.toNat ≤ cb.len → Short _ _))
  | .copy startIdx count =>
    inferInstanceAs (Decidable ((count + startIdx).toNat ≤ cb.len → _ < 2 ^ 32 ∧ Short _ _))
  | .advWritePtr _ => inferInstanceAs (Decidable (_ % 2 ^ 32 ≤ cb.capacity → _ < 2 ^ 32))
  | .packBuffer => inferInstanceAs (Decidable (cb.start ≠ 0 → cb.len ≠ cb.capacity → _ < 2 ^ 31))
  | .advReadPtr _ | .setLen _ | .reset => .isTrue trivial

/-- A new buffer is empty, and each call does what the queue does. -/
def Queued (capacity : UInt32) (ops : List Op) : Prop :=
  (pjmediaCircBufCreate capacity).content = [] ∧ (pjmediaCircBufCreate capacity).Divided
    ∧ Stepwise step Refines (pjmediaCircBufCreate capacity) ops

section Refinement

variable {cb : Circ}

theorem create_capacity (capacity : UInt32) :
    (pjmediaCircBufCreate capacity).capacity = capacity.toNat := List.length_replicate

theorem create_sound {capacity : UInt32} (positive : 0 < capacity) :
    (pjmediaCircBufCreate capacity).Sound := by
  have size := create_capacity capacity
  refine ⟨?_, Nat.zero_le _, ?_⟩
  · rw [size]
    exact positive
  · rw [size]
    exact capacity.toNat_lt

theorem create_content (capacity : UInt32) : (pjmediaCircBufCreate capacity).content = [] := rfl

theorem refused_refines (sound : cb.Sound) {op : Op}
    (same : (queueStep cb.capacity cb.content op).1 = cb.content)
    (refuses : op ≠ .packBuffer → (queueStep cb.capacity cb.content op).2 = .etoobig)
    (filled : cb.before op = cb) : Refines cb op cb .etoobig where
  content := same.symm
  answers ordinary := (refuses ordinary).symm
  packs _ taken := absurd rfl taken
  refused _ := filled.symm
  divided := divided sound

theorem careful_refines (sound : cb.Sound) {op : Op} (shrinks : Shrinks cb op)
    (careful : Careful cb op) :
    ∃ cb' answer, step cb op = some (cb', answer) ∧ Refines cb op cb' answer ∧ cb'.Sound := by
  have ⟨start, len, counted⟩ := sound
  have size := content_length sound
  cases op with
  | write data =>
    by_cases fits : cb.len + data.1.length ≤ cb.capacity
    · obtain ⟨cb', taken, sound', content, -⟩ := write_spec sound fits (careful fits)
      have here : queueStep cb.capacity cb.content (.write data)
          = (cb.content ++ data.1, .ok []) := if_neg (by omega)
      refine ⟨cb', .ok [], taken, ⟨?_, fun _ => ?_, nofun, nofun, divided sound'⟩, sound'⟩
      · rw [content, here]
      · rw [here]
    · have here : queueStep cb.capacity cb.content (.write data) = (cb.content, .etoobig) :=
        if_pos (by omega)
      exact ⟨cb, .etoobig, if_pos (by omega),
        refused_refines sound (by rw [here]) (fun _ => by rw [here]) rfl, sound⟩
  | read count =>
    by_cases fits : count.toNat ≤ cb.len
    · obtain ⟨sound', content, -⟩ := advReadPtr_spec sound count
      have here : queueStep cb.capacity cb.content (.read count)
          = (cb.content.drop count.toNat, .ok (cb.content.take count.toNat)) :=
        if_neg (by omega)
      refine ⟨_, _, read_spec sound fits (careful fits),
        ⟨?_, fun _ => ?_, nofun, nofun, divided sound'⟩, sound'⟩
      · rw [content, here]
      · rw [here]
    · have here : queueStep cb.capacity cb.content (.read count) = (cb.content, .etoobig) :=
        if_pos (by omega)
      exact ⟨cb, .etoobig, if_pos (by omega),
        refused_refines sound (by rw [here]) (fun _ => by rw [here]) rfl, sound⟩
  | copy startIdx count =>
    have sum : (count + startIdx).toNat = (count.toNat + startIdx.toNat) % 2 ^ 32 :=
      UInt32.toNat_add _ _
    by_cases fits : (count + startIdx).toNat ≤ cb.len
    · obtain ⟨counted', short⟩ := careful fits
      have here : queueStep cb.capacity cb.content (.copy startIdx count)
          = (cb.content, .ok ((cb.content.drop startIdx.toNat).take count.toNat)) :=
        if_neg (by omega)
      refine ⟨cb, _, copy_spec sound (by omega) short,
        ⟨?_, fun _ => ?_, nofun, nofun, divided sound⟩, sound⟩
      · rw [here]
      · rw [here]
    · have beyond : cb.len < count.toNat + startIdx.toNat := by
        omega
      have here : queueStep cb.capacity cb.content (.copy startIdx count)
          = (cb.content, .etoobig) := if_pos (by omega)
      exact ⟨cb, .etoobig, if_pos (by omega),
        refused_refines sound (by rw [here]) (fun _ => by rw [here]) rfl, sound⟩
  | advReadPtr count =>
    obtain ⟨sound', content, -⟩ := advReadPtr_spec sound count
    exact ⟨_, _, rfl, ⟨content, fun _ => rfl, nofun, nofun, divided sound'⟩, sound'⟩
  | advWritePtr samples =>
    obtain ⟨sound₁, content₁, len₁, capacity₁, filled⟩ := fill_spec sound samples
    by_cases fits : cb.len + samples.1.length ≤ cb.capacity
    · obtain ⟨cb', taken, sound', content, -⟩ := advWritePtr_spec sound₁
        samples.1.length (by omega)
      have here : queueStep cb.capacity cb.content (.advWritePtr samples)
          = (cb.content ++ samples.1, .ok []) := if_neg (by omega)
      refine ⟨cb', .ok [], congrArg some taken,
        ⟨?_, fun _ => ?_, nofun, nofun, divided sound'⟩, sound'⟩
      · rw [content, len₁, filled fits, here]
      · rw [here]
    · have here : queueStep cb.capacity cb.content (.advWritePtr samples)
          = (cb.content, .etoobig) := if_pos (by omega)
      have refused : cb.capacity < (samples.1.length + cb.len) % 2 ^ 32 := by
        -- a sum that wraps around and is taken is what the condition excludes
        by_contra accepted
        have small := careful (Nat.le_of_not_lt accepted)
        omega
      refine ⟨cb.fill samples, .etoobig, ?_, ⟨?_, fun _ => ?_, nofun, fun _ => rfl,
        divided sound₁⟩, sound₁⟩
      · show some (pjmediaCircBufAdvWritePtr (cb.fill samples) samples.1.length) = _
        unfold pjmediaCircBufAdvWritePtr
        rw [len₁, capacity₁, if_pos refused]
      · rw [content₁, here]
      · rw [here]
  | setLen len =>
    have sound' := setLen_sound sound shrinks
    exact ⟨_, _, rfl,
      ⟨setLen_content sound shrinks, fun _ => rfl, nofun, nofun, divided sound'⟩, sound'⟩
  | packBuffer =>
    obtain refused | ⟨buf, taken, bufSize, packed⟩ := pack_spec sound careful
    · exact ⟨cb, .etoobig, refused,
        refused_refines sound rfl (fun ordinary => absurd rfl ordinary) rfl, sound⟩
    · have sound' : Circ.Sound { cb with buf, start := 0 } := by
        refine ⟨?_, ?_, ?_⟩
        · show 0 < buf.length
          omega
        · show cb.len ≤ buf.length
          omega
        · show buf.length < 2 ^ 32
          omega
      refine ⟨_, _, taken, ⟨?_, fun ordinary => absurd rfl ordinary, fun _ _ => ⟨rfl, packed⟩,
        nofun, divided sound'⟩, sound'⟩
      rw [content_eq sound']
      show (buf.rotate 0).take cb.len = cb.content
      rw [List.rotate_zero, packed]
  | reset =>
    have sound' := reset_sound sound
    exact ⟨_, _, rfl, ⟨reset_content cb, fun _ => rfl, nofun, nofun, divided sound'⟩, sound'⟩

theorem long_pieces {n first : Nat} (long : ¬ Short n first) :
    2 ^ 31 ≤ min n first ∨ 2 ^ 31 ≤ n - first := by
  unfold Short at long
  omega

theorem careless_fails (sound : cb.Sound) {op : Op} {cb' : Circ} {answer : Answer}
    (careless : ¬ Careful cb op) (taken : step cb op = some (cb', answer)) :
    ¬ Refines cb op cb' answer := by
  have ⟨start, len, counted⟩ := sound
  have size := content_length sound
  cases op with
  | write data =>
    obtain ⟨fits, long⟩ := Classical.not_imp.mp careless
    change pjmediaCircBufWrite cb data = _ at taken
    unfold pjmediaCircBufWrite at taken
    rw [if_neg (by omega)] at taken
    obtain ⟨buf, first, rest⟩ := Option.bind_eq_some_iff.mp taken
    obtain ⟨buf', second, -⟩ := Option.bind_eq_some_iff.mp rest
    rcases long_pieces long with long | long
    · rw [copyIn_wraps (by rw [List.length_take, Nat.min_comm]; exact long)] at first
      cases first
    · rw [copyIn_wraps (by rw [List.length_drop]; exact long)] at second
      cases second
  | read count =>
    obtain ⟨fits, long⟩ := Classical.not_imp.mp careless
    change pjmediaCircBufRead cb count = _ at taken
    unfold pjmediaCircBufRead at taken
    rw [if_neg (by omega)] at taken
    obtain ⟨_, first, rest⟩ := Option.bind_eq_some_iff.mp taken
    obtain ⟨_, second, -⟩ := Option.bind_eq_some_iff.mp rest
    rcases long_pieces long with long | long
    · rw [copyOut_wraps long] at first
      cases first
    · rw [copyOut_wraps long] at second
      cases second
  | copy startIdx count =>
    obtain ⟨fits, wrapsOrLong⟩ := Classical.not_imp.mp careless
    change pjmediaCircBufCopy cb startIdx count = _ at taken
    unfold pjmediaCircBufCopy at taken
    rw [if_neg (by omega)] at taken
    dsimp only at taken
    by_cases small : count.toNat + startIdx.toNat < 2 ^ 32
    · have long := long_pieces fun short => wrapsOrLong ⟨small, short⟩
      by_cases inFirst : startIdx.toNat < (pjmediaCircBufGetReadRegions cb).reg1Len
      · rw [if_pos inFirst] at taken
        obtain ⟨_, first, rest⟩ := Option.bind_eq_some_iff.mp taken
        obtain ⟨_, second, -⟩ := Option.bind_eq_some_iff.mp rest
        rcases long with long | long
        · rw [copyOut_wraps (by omega)] at first
          cases first
        · rw [copyOut_wraps (by omega)] at second
          cases second
      · rw [if_neg inFirst] at taken
        obtain ⟨_, only, -⟩ := Option.bind_eq_some_iff.mp taken
        rw [copyOut_wraps (by omega)] at only
        cases only
    · -- the sum wraps around, and what the queue refuses is copied
      intro refines
      have here : queueStep cb.capacity cb.content (.copy startIdx count)
          = (cb.content, .etoobig) := if_pos (by omega)
      have refused := refines.answers nofun
      rw [here] at refused
      subst refused
      by_cases inFirst : startIdx.toNat < (pjmediaCircBufGetReadRegions cb).reg1Len
      · rw [if_pos inFirst] at taken
        obtain ⟨_, -, rest⟩ := Option.bind_eq_some_iff.mp taken
        obtain ⟨_, -, done⟩ := Option.bind_eq_some_iff.mp rest
        cases done
      · rw [if_neg inFirst] at taken
        obtain ⟨_, -, done⟩ := Option.bind_eq_some_iff.mp taken
        cases done
  | advWritePtr samples =>
    obtain ⟨accepted, wraps⟩ := Classical.not_imp.mp careless
    obtain ⟨-, -, len₁, capacity₁, -⟩ := fill_spec sound samples
    intro refines
    have here : queueStep cb.capacity cb.content (.advWritePtr samples)
        = (cb.content, .etoobig) := if_pos (by omega)
    have refused := refines.answers nofun
    rw [here] at refused
    subst refused
    change some (pjmediaCircBufAdvWritePtr (cb.fill samples) samples.1.length) = _ at taken
    unfold pjmediaCircBufAdvWritePtr at taken
    rw [len₁, capacity₁, if_neg (by omega)] at taken
    cases taken
  | packBuffer =>
    obtain ⟨moved, rest⟩ := Classical.not_imp.mp careless
    obtain ⟨room, long⟩ := Classical.not_imp.mp rest
    change pjmediaCircBufPackBuffer cb = _ at taken
    rw [pack_wraps sound moved room (Nat.le_of_not_lt long)] at taken
    cases taken
  | advReadPtr | setLen | reset => exact absurd trivial careless

/-- A buffer is a queue exactly as long as the calls made are careful. -/
theorem circ_buf_queued_iff (capacity : UInt32) (positive : 0 < capacity) (ops : List Op)
    (shrinks : Along step Shrinks (pjmediaCircBufCreate capacity) ops) :
    Queued capacity ops ↔ Along step Careful (pjmediaCircBufCreate capacity) ops := by
  have sound := create_sound positive
  have runs := Along.stepwise_iff_breaks (P := Careful) (Q := Refines) (I := Circ.Sound)
    (fun _ _ sound shrinks careful => careful_refines sound shrinks careful)
    (fun _ _ _ _ sound _ careless taken => careless_fails sound careless taken) shrinks sound
  constructor
  · rintro ⟨-, -, each⟩
    exact runs.mp each
  · intro careful
    exact ⟨create_content _, divided sound, runs.mpr careful⟩

section Examples

/-- Two of four samples are behind the end of the array, and the gap is of one sample only. -/
def turning : List Op :=
  [.write ⟨[1, 2, 3, 4], by decide⟩, .read 3, .advWritePtr ⟨[5, 6, 7], by decide⟩, .copy 1 3,
    .packBuffer, .write ⟨[8], by decide⟩, .setLen 4, .advReadPtr 1, .packBuffer, .reset]

theorem turning_queued : Queued 5 turning :=
  (circ_buf_queued_iff 5 (by decide) turning (by decide)).mpr (by decide)

/-- Two samples from the last index that there is: the sum of both is 1. -/
def copyBeyond : List Op := [.write ⟨[1], by decide⟩, .copy 4294967295 2]

theorem copy_beyond_not_refused : ¬ Queued 2 copyBeyond := by
  rintro ⟨-, -, _, _, ⟨⟩, -, _, _, ⟨⟩, -⟩

end Examples

end Refinement

end Pjsip.Pjmedia.CircBuf
