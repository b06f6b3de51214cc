import Pjsip.Base.Buffer
import Pjsip.Base.Reader
import Pjsip.Errno

/-!
# Receiving H.264 payloads

`pjmedia_h264_unpacketize`. A payload is a NAL unit, or NAL units behind their sizes (STAP-A), or a
fragment of one (FU-A). Each NAL unit is written behind a start code. The synchronisation position
is the end of the last NAL unit that is complete; a fragment that comes after a loss brings the
position back to it.
-/

namespace Pjsip.PjmediaCodec.H264

open Pjsip.Base Reader

/-- `NAL_TYPE_SINGLE_NAL_MIN` and `NAL_TYPE_SINGLE_NAL_MAX` -/
def nalTypeSingleNalMin : UInt8 := 1
def nalTypeSingleNalMax : UInt8 := 23
def nalTypeStapA : UInt8 := 24
def nalTypeFuA : UInt8 := 28

/-- `unpack_nal_start`: the start codes written are of three octets or of four. -/
abbrev NalStart := { size : Nat // size = 3 ∨ size = 4 }

/-- `nal_start_code` -/
def nalStartCode (nalStart : NalStart) : List UInt8 := [0, 0, 0, 1].drop (4 - nalStart.1)

/-- A size of a buffer whose positions an `unsigned` can count. -/
abbrev BitsLen := { size : Nat // size < 2 ^ 32 }

/-- The state of the unpacketizer, and what the caller keeps: the buffer and the position. -/
structure Receiving where
  unpackLastSyncPos : Nat
  unpackPrevLost : Bool
  bits : Buffer
  bitsLen : BitsLen
  bitsPos : Nat

/-- Status codes; `ok` is `PJ_SUCCESS`. -/
abbrev Status := Except CodecStatus Unit

/-- Going round in a loop more often than there are octets. -/
inductive Fault where
  | unfinished
  deriving DecidableEq, Repr

abbrev PayloadReader := Reader Fault

def Receiving.lost (s : Receiving) : Receiving := { s with unpackPrevLost := true }

def Receiving.arrived (s : Receiving) : Receiving := { s with unpackPrevLost := false }

/-- `pj_memcpy` to index `p` of the buffer. -/
def Receiving.write (s : Receiving) (p : Nat) (octets : List UInt8) : Receiving :=
  { s with bits := s.bits.store p octets }

/-- The position behind what has been written. -/
def Receiving.moveTo (s : Receiving) (p : Nat) : Receiving := { s with bitsPos := p % 2 ^ 32 }

/-- The position is behind a whole NAL unit. -/
def Receiving.sync (s : Receiving) : Receiving := { s with unpackLastSyncPos := s.bitsPos }

variable (nalStart : NalStart)

/-- A single NAL unit packet. -/
def unpackSingleNal (s : Receiving) (payloadLen : Nat) : PayloadReader (Receiving × Status) :=
  if s.bitsLen.1 - s.bitsPos < payloadLen + nalStart.1 then return (s, .error .etoosmall)
  else do
    let nal ← octets 0 payloadLen
    let p := s.bitsPos
    let s := (s.write p (nalStartCode nalStart)).write (p + nalStart.1) nal.1
    return ((s.moveTo (p + nalStart.1 + payloadLen)).sync.arrived, .ok ())

/-- The loop over the NAL units of an aggregation packet, `q` as an index of the payload. -/
def unpackStapA (payloadLen : Nat) :
    (fuel : Nat) → (q : Nat) → Receiving → PayloadReader (Receiving × Status)
  | 0, _, _ => fail .unfinished
  | fuel + 1, q, s =>
    let p := s.bitsPos
    let pEnd := s.bitsLen.1
    if q < payloadLen ∧ p < pEnd then
      if pEnd < p + nalStart.1 then return (s, .error .einval)
      else do
        let s := s.write p (nalStartCode nalStart)
        let p := p + nalStart.1
        let q0 ← octet q
        let q1 ← octet (q + 1)
        let tmpNalSize := q0.toNat * 256 + q1.toNat
        if pEnd < p + tmpNalSize ∨ payloadLen < q + 2 + tmpNalSize then
          return (s, .error .einval)
        else do
          let nal ← octets (q + 2) tmpNalSize
          let s := ((s.write p nal.1).moveTo (p + tmpNalSize)).sync
          unpackStapA payloadLen fuel (q + 2 + tmpNalSize) s
    else return (s.arrived, .ok ())

/-- The octet of a NAL unit, from the two octets of a fragment. -/
def nalOctet (indicator header : UInt8) : UInt8 :=
  (((indicator &&& 0x60) >>> 5) <<< 5) ||| (header &&& 0x1F)

/-- A fragmentation packet. -/
def unpackFuA (s : Receiving) (payloadLen : Nat) : PayloadReader (Receiving × Status) :=
  if s.bitsLen.1 - s.bitsPos < payloadLen + nalStart.1 then return (s.lost, .error .etoosmall)
  else do
    let indicator ← octet 0
    let header ← octet 1
    if header &&& 0x80 = 0 ∧ s.unpackPrevLost = true then
      return ({ s with bitsPos := s.unpackLastSyncPos }, .error .eignored)
    else do
      let fragment ← octets 2 (payloadLen - 2)
      let p := s.bitsPos
      let start := if header &&& 0x80 ≠ 0 then
          nalStartCode nalStart ++ [nalOctet indicator header]
        else []
      let s := (s.write p start).write (p + start.length) fragment.1
      let s := s.moveTo (p + start.length + (payloadLen - 2))
      return ((if header &&& 0x40 ≠ 0 then s.sync else s).arrived, .ok ())

/-- What is done with a payload, by its type. -/
def unpackByType (s : Receiving) (payloadLen : Nat) (nalType : UInt8) :
    PayloadReader (Receiving × Status) :=
  if nalTypeSingleNalMin ≤ nalType ∧ nalType ≤ nalTypeSingleNalMax then
    unpackSingleNal nalStart s payloadLen
  else if nalType = nalTypeStapA then
    if s.bitsLen.1 - s.bitsPos < payloadLen + 32 then return (s, .error .etoosmall)
    else unpackStapA nalStart payloadLen payloadLen 1 s
  else if nalType = nalTypeFuA then unpackFuA nalStart s payloadLen
  else return ({ s with bitsPos := 0 }, .error .enotsup)

/-- The synchronisation position is reset for every new picture. -/
def Receiving.reset (s : Receiving) : Receiving :=
  if s.bitsPos = 0 then { s with unpackLastSyncPos := 0 } else s

/-- `pjmedia_h264_unpacketize`, of a payload of `payloadLen` octets. -/
def pjmediaH264Unpacketize (s : Receiving) (payloadLen : Nat) :
    PayloadReader (Receiving × Status) :=
  if payloadLen < 2 then return (s.lost, .error .einval)
  else do
    let first ← octet 0
    unpackByType nalStart s.reset payloadLen (first &&& 0x1F)

/-! ## Runs -/

/-- What the receiver is called with: a payload, or a null pointer for one that was lost. -/
inductive Event where
  | payload (octets : List UInt8)
  | lost
  deriving DecidableEq

/-- No step is a call that reads outside of the payload. -/
def step (s : Receiving) : Event → Option (Receiving × Status)
  | .payload octets =>
    match (pjmediaH264Unpacketize nalStart s octets.length).run octets with
    | .value result => some result
    | .error _ => none
    | .outside => none
  | .lost => some (s.lost, .ok ())

end Pjsip.PjmediaCodec.H264
