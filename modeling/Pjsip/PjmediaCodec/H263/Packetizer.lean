import Pjsip.Base.Buffer
import Pjsip.Base.Reader
import Pjsip.Errno

/-!
# H.263 payloads

`h263_packetizer.c`. Every payload begins with a header of two octets. Two zero octets of a
bitstream are a synchronisation point, and need not be sent: the sender writes the header over them,
and the receiver puts them back when a bit of the header says so. Elsewhere the sender writes the
header over octets that have been sent before. The receiver goes back to the last synchronisation
point when a payload was lost.
-/

namespace Pjsip.PjmediaCodec.H263

open Pjsip.Base Reader

/-! ## Sending -/

def SyncPoint (bits : List UInt8) (p : Nat) : Prop := bits.getD p 0 = 0 ∧ bits.getD (p + 1) 0 = 0

instance (bits : List UInt8) (p : Nat) : Decidable (SyncPoint bits p) :=
  inferInstanceAs (Decidable (_ ∧ _))

/-- The loop of `find_sync_point_rev`, with `k` indices from `data` on that are left. -/
def syncPointRev (bits : List UInt8) (data : Nat) : (k : Nat) → Option Nat
  | 0 => none
  | k + 1 => if SyncPoint bits (data + k) then some (data + k) else syncPointRev bits data k

/-- `find_sync_point_rev` -/
def findSyncPointRev (bits : List UInt8) (data dataLen : Nat) : Nat :=
  (syncPointRev bits data (dataLen - 1)).getD (data + dataLen)

/-- The payload that begins at index `p` of the bitstream, and the position behind it. -/
def cutPayload (mtu : Nat) (bits : List UInt8) (p : Nat) : List UInt8 × Nat :=
  let end_ := if mtu < bits.length - p then findSyncPointRev bits (p + 2) (mtu - 2)
    else bits.length
  ((bits.drop p).take (end_ - p), end_ % 2 ^ 32)

/-- The bitstream, whose octets the packetizer overwrites, and the position in it. -/
structure Sending where
  bits : List UInt8
  pos : Nat
  deriving DecidableEq, Repr

/-- `pjmedia_h263_packetize`: the payload, and what becomes of the bitstream and the position. -/
def pjmediaH263Packetize (mtu : Nat) (s : Sending) : Except CodecStatus (List UInt8 × Sending) :=
  if 2 < s.bits.length - s.pos ∧ SyncPoint s.bits s.pos then
    let bits := (s.bits.set s.pos 0x04).set (s.pos + 1) 0
    let (payload, pos) := cutPayload mtu bits s.pos
    .ok (payload, { bits, pos })
  else if s.pos < 2 then .error .einval
  else
    let bits := (s.bits.set (s.pos - 2) 0).set (s.pos - 1) 0
    let (payload, pos) := cutPayload mtu bits (s.pos - 2)
    .ok (payload, { bits, pos })

/-- The calls for a bitstream, until the position reaches the end: the payloads, if none of the
calls fails and there are no more of them than `fuel`. -/
def packetizeAll (mtu : Nat) : (fuel : Nat) → Sending → Option (List (List UInt8))
  | 0, _ => none
  | fuel + 1, s =>
    if s.pos < s.bits.length then
      match pjmediaH263Packetize mtu s with
      | .error _ => none
      | .ok (payload, s) => (packetizeAll mtu fuel s).map (payload :: ·)
    else some []

/-! ## Receiving -/

/-- A size of a buffer whose positions an `unsigned` can count. -/
abbrev BitsSize := { size : Nat // size < 2 ^ 32 }

/-- The state of the unpacketizer, and what the caller keeps: the buffer and the position. -/
structure Receiving where
  unpackLastSyncPos : Nat
  unpackPrevLost : Bool
  bits : Buffer
  bitsSize : BitsSize
  pos : Nat

/-- Status codes; `ok` is `PJ_SUCCESS`. -/
abbrev Status := Except CodecStatus Unit

abbrev PayloadReader := Reader Empty

/-- `find_sync_point`, from index `p` on, before `k` more octets. -/
def findSyncPoint : (k p : Nat) → PayloadReader (Option Nat)
  | 0, _ => return none
  | k + 1, p => do
      let first ← octet p
      if first ≠ 0 then findSyncPoint k (p + 1)
      else do
        let second ← octet (p + 1)
        if second ≠ 0 then findSyncPoint k (p + 1) else return some p

def Receiving.lost (s : Receiving) : Receiving := { s with unpackPrevLost := true }

/-- Two zero octets at a synchronisation point, and `len` octets of the payload, from `q` on. -/
def writePayload (s : Receiving) (sync : Bool) (q p len : Nat) :
    PayloadReader (Receiving × Status) := do
  let bytes ← octets p len
  let s := if sync then
      { s with unpackLastSyncPos := q % 2 ^ 32, bits := s.bits.store q [0, 0] }
    else s
  let q := if sync then q + 2 else q
  return ({ s with
    bits := s.bits.store q bytes.1
    pos := (q + len) % 2 ^ 32
    unpackPrevLost := false }, .ok ())

/-- A payload that does not begin at a synchronisation point, at the start of a picture: the extra
picture header is copied from in front of index `p`, behind two zero octets. -/
def startPicture (s : Receiving) (plen p : Nat) : PayloadReader (Receiving × Nat) :=
  if plen ≠ 0 then do
    let header ← octets (p - plen) plen
    return ({ s.lost with bits := (s.bits.store 0 [0, 0]).store 2 header.1 }, 2 + plen)
  else return (s.lost, 0)

/-- Where a payload that does not begin at a synchronisation point is written. -/
def resume (s : Receiving) (plen p : Nat) : PayloadReader (Receiving × Nat) :=
  if s.pos = 0 then startPicture s plen p
  else return (s, if s.unpackPrevLost then s.unpackLastSyncPos else s.pos)

/-- Only what follows a synchronisation point is of use after a loss. -/
def writeResumed (s : Receiving) (q p len : Nat) : PayloadReader (Receiving × Status) :=
  if s.unpackPrevLost then do
    let sync ← findSyncPoint (len - 1) p
    match sync with
    | some sync => writePayload s true q (sync + 2) (len - (sync + 2 - p))
    | none => return (s, .error .eignored)
  else writePayload s false q p len

/-- The length of the extra picture header. -/
def plenOf (b0 b1 : UInt8) : Nat := (((b0 &&& 0x01) <<< 5) + ((b1 &&& 0xF8) >>> 3)).toNat

/-- The index behind the payload header. -/
def headerEnd (b0 b1 : UInt8) : Nat := 2 + (if b0 &&& 0x02 ≠ 0 then 1 else 0) + plenOf b0 b1

/-- `pjmedia_h263_unpacketize`, of a payload of `payloadLen` octets. -/
def pjmediaH263Unpacketize (s : Receiving) (payloadLen : Nat) :
    PayloadReader (Receiving × Status) :=
  if payloadLen < 2 then return (s.lost, .error .einval)
  else do
    let s := if s.pos = 0 then { s with unpackLastSyncPos := 0 } else s
    let b0 ← octet 0
    let b1 ← octet 1
    let p := headerEnd b0 b1
    if payloadLen ≤ p then return (s.lost, .error .einval)
    else
      let len := payloadLen - p
      if s.bitsSize.1 < s.pos + len + 2 then return (s.lost, .error .etoosmall)
      else if b0 &&& 0x04 ≠ 0 then writePayload s true s.pos p len
      else do
        let (s, q) ← resume s (plenOf b0 b1) p
        writeResumed s q p len

/-! ## Runs of the receiver -/

/-- What the receiver is called with; a new picture begins with another position and buffer. -/
inductive Event where
  | payload (octets : List UInt8)
  | lost
  | newPicture (bitsSize : BitsSize)
  deriving DecidableEq

/-- No step is a call that reads outside of the payload. -/
def step (s : Receiving) : Event → Option (Receiving × Status)
  | .payload octets =>
    match (pjmediaH263Unpacketize s octets.length).run octets with
    | .value result => some result
    | .outside => none
  | .lost => some (s.lost, .ok ())
  | .newPicture bitsSize =>
    some ({ s with bits := { s.bits with stored := [] }, bitsSize, pos := 0 }, .ok ())

/-- A receiver that has been created, before a first picture. -/
def Receiving.create (cells : Nat → UInt8) : Receiving where
  unpackLastSyncPos := 0
  unpackPrevLost := false
  bits := { cells, stored := [] }
  bitsSize := ⟨0, by decide⟩
  pos := 0

end Pjsip.PjmediaCodec.H263
