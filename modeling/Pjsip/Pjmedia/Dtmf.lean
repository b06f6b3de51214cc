import Pjsip.Base.Octets
import Mathlib.Data.List.Chain

/-!
# Telephone events of an audio stream

`handle_incoming_dtmf` sees one packet of a telephone event at a time. It takes a packet for a
further one of the digit it saw last when the digit is the same and the duration is not
shorter, so whether a second press of a key is seen depends on which packets of the two
presses were lost.
-/

namespace Pjsip.Pjmedia.Dtmf

open Pjsip.Base

/-- `digitmap` -/
def digitmap (event : UInt8) : Char := "0123456789*#ABCDR".toList.getD event.toNat '\x00'

/-- The last of the events that `digitmap` has a character for. -/
def maxEvent : UInt8 := 16

/-- `PJMEDIA_RTP_DTMF_EVENT_END_MASK` -/
def eventEndMask : UInt8 := 0x80

/-- `pjmedia_stream_dtmf_event`, its flags as booleans and its digit as a character. -/
structure StreamDtmfEvent where
  digit : Char
  timestamp : UInt32
  duration : UInt16
  isUpdate : Bool
  isEnd : Bool
  deriving DecidableEq, Repr

/-- What the application has installed: `dtmf_event_cb`, else `dtmf_cb`, else nothing. -/
inductive Sink where
  | dtmfEventCb
  | dtmfCb
  | buffer
  deriving DecidableEq, Repr

/-- What the stream tells the application; `queued` is a digit that joins `rx_dtmf_buf`. -/
inductive Report where
  | dtmfEventCb (event : StreamDtmfEvent)
  | dtmfCb (digit : Char)
  | queued (digit : Char)
  deriving DecidableEq, Repr

/-- The length of `rx_dtmf_buf` -/
def rxDtmfBufLen : Nat := 32

/-- A clock rate of a codec; the code divides by a thousandth of it. -/
abbrev ClockRate := { rate : Nat // 1000 ≤ rate }

/-- The fields of `pjmedia_stream` that the telephone events use. -/
structure Stream where
  clockRate : ClockRate
  sink : Sink
  lastDtmf : Int
  lastDtmfDur : UInt16
  lastDtmfEnded : Bool
  rxDtmfBuf : List Char
  deriving DecidableEq

/-- The fields as `pjmedia_stream_create` sets them. -/
def Stream.create (clockRate : ClockRate) (sink : Sink) : Stream where
  clockRate := clockRate
  sink := sink
  lastDtmf := -1
  lastDtmfDur := 0
  lastDtmfEnded := false
  rxDtmfBuf := []

/-- The event for `dtmf_event_cb`, times in milliseconds. -/
def Stream.event (stream : Stream) (timestamp : UInt64) (event : UInt8) (duration : UInt16)
    (isUpdate isEnd : Bool) : StreamDtmfEvent where
  digit := digitmap event
  timestamp := UInt32.ofNat (timestamp.toNat / (stream.clockRate.1 / 1000))
  duration := UInt16.ofNat (duration.toNat / (stream.clockRate.1 / 1000))
  isUpdate := isUpdate
  isEnd := isEnd

/-- A new digit for the buffer, which discards its oldest one when it is full. -/
def pushDigit (buf : List Char) (digit : Char) : List Char :=
  (if rxDtmfBufLen ≤ buf.length then buf.drop 1 else buf) ++ [digit]

/-- `handle_incoming_dtmf` -/
def handleIncomingDtmf (stream : Stream) (timestamp : UInt64) :
    (payload : List UInt8) → Stream × List Report
  | event :: eVol :: d0 :: d1 :: _ =>
    if maxEvent < event then (stream, [])
    else
      let eventDuration := value16 [d0, d1]
      let isEventEnd : Bool := eVol &&& eventEndMask ≠ 0
      let next :=
        { stream with lastDtmfDur := eventDuration, lastDtmfEnded := isEventEnd }
      if stream.lastDtmf ≠ -1 ∧ (event.toNat : Int) = stream.lastDtmf
          ∧ stream.lastDtmfDur ≤ eventDuration then
        -- the same event: duplicate end packets are hidden
        let emitEvent : Bool := !isEventEnd || stream.lastDtmfEnded != isEventEnd
        match stream.sink with
        | .dtmfEventCb =>
          if emitEvent then
            (next, [.dtmfEventCb (stream.event timestamp event eventDuration true isEventEnd)])
          else (next, [])
        | _ => (next, [])
      else
        let next := { next with lastDtmf := event.toNat }
        match stream.sink with
        | .dtmfEventCb =>
          (next, [.dtmfEventCb (stream.event timestamp event eventDuration false isEventEnd)])
        | .dtmfCb => (next, [.dtmfCb (digitmap event)])
        | .buffer =>
          ({ next with rxDtmfBuf := pushDigit stream.rxDtmfBuf (digitmap event) },
            [.queued (digitmap event)])
  | _ => (stream, [])

/-- The digit that a report announces as a new one. -/
def Report.announced : Report → Option Char
  | .dtmfEventCb event => if event.isUpdate then none else some event.digit
  | .dtmfCb digit => some digit
  | .queued digit => some digit

def Report.ends : Report → Bool
  | .dtmfEventCb event => event.isEnd
  | _ => false

def announcements (reports : List Report) : List Char := reports.filterMap Report.announced

def endReports (reports : List Report) : Nat := reports.countP Report.ends

@[simp] theorem announcements_append (first second : List Report) :
    announcements (first ++ second) = announcements first ++ announcements second :=
  List.filterMap_append

@[simp] theorem endReports_append (first second : List Report) :
    endReports (first ++ second) = endReports first + endReports second :=
  List.countP_append

/-! ## Events and their packets -/

/-- A packet of an event: volume with the reserved bit, the end bit apart. -/
structure Packet where
  volume : UInt8
  isEnd : Bool
  duration : UInt16
  low : volume < eventEndMask
  deriving DecidableEq

/-- A telephone event as it is sent: one digit, durations that do not fall, and end packets
last. -/
structure TelephoneEvent where
  event : UInt8
  timestamp : UInt64
  packets : List Packet
  digit : event ≤ maxEvent
  growing : packets.Pairwise fun a b => a.duration ≤ b.duration
  endsLast : packets.Pairwise fun a b => a.isEnd = true → b.isEnd = true

/-- An event with the packets of it that arrive, in order and at least one. -/
structure Arrival extends TelephoneEvent where
  first : Packet
  later : List Packet
  arrived : (first :: later).Sublist packets

def Packet.payload (event : UInt8) (packet : Packet) : List UInt8 :=
  [event, if packet.isEnd then packet.volume ||| eventEndMask else packet.volume]
    ++ put16 packet.duration

def Arrival.last (arrival : Arrival) : Packet := arrival.later.getLastD arrival.first

/-- Packets of one event handed to the stream. -/
def hear (stream : Stream) (timestamp : UInt64) (event : UInt8) : List Packet → Stream × List Report
  | [] => (stream, [])
  | packet :: packets =>
    let (stream, reports) := handleIncomingDtmf stream timestamp (packet.payload event)
    let (stream, more) := hear stream timestamp event packets
    (stream, reports ++ more)

theorem hear_cons (stream : Stream) (timestamp : UInt64) (event : UInt8) (packet : Packet)
    (packets : List Packet) :
    hear stream timestamp event (packet :: packets)
      = ((hear (handleIncomingDtmf stream timestamp (packet.payload event)).1 timestamp event
            packets).1,
          (handleIncomingDtmf stream timestamp (packet.payload event)).2
            ++ (hear (handleIncomingDtmf stream timestamp (packet.payload event)).1 timestamp event
              packets).2) := rfl

def Arrival.hear (arrival : Arrival) (stream : Stream) : Stream × List Report :=
  Dtmf.hear stream arrival.timestamp arrival.event (arrival.first :: arrival.later)

/-- A sequence of events: the state after it, and what is reported in the course of each. -/
def hearAll (stream : Stream) : List Arrival → Stream × List (Arrival × List Report)
  | [] => (stream, [])
  | arrival :: arrivals =>
    let (stream, reports) := arrival.hear stream
    let (stream, heard) := hearAll stream arrivals
    (stream, (arrival, reports) :: heard)

/-- Each event is announced as one new digit and ends at most once. -/
def ReportedOnce (heard : List (Arrival × List Report)) : Prop :=
  ∀ entry ∈ heard, announcements entry.2 = [digitmap entry.1.event] ∧ endReports entry.2 ≤ 1

/-! ## One packet -/

/-- The stream remembers this packet as the last one. -/
structure Remembers (stream : Stream) (event : UInt8) (packet : Packet) : Prop where
  digit : stream.lastDtmf = event.toNat
  duration : stream.lastDtmfDur = packet.duration
  ended : stream.lastDtmfEnded = packet.isEnd

/-- The stream takes the packet for a further one of the event that it remembers. -/
def Continues (stream : Stream) (event : UInt8) (packet : Packet) : Prop :=
  stream.lastDtmf = event.toNat ∧ stream.lastDtmfDur ≤ packet.duration

theorem end_bit {volume : UInt8} (low : volume < eventEndMask) :
    volume &&& eventEndMask = 0 ∧ (volume ||| eventEndMask) &&& eventEndMask ≠ 0 := by
  have small : volume.toNat < 128 := low
  constructor
  · by_contra set
    have := (bit_iff volume (show 7 < 8 by decide)).1 set
    omega
  · have same : (volume ||| eventEndMask) &&& eventEndMask = eventEndMask := by
      rw [← UInt8.toBitVec_inj]
      ext i inside
      simp +contextual
    rw [same]
    decide

theorem Packet.end_read (packet : Packet) :
    decide ((if packet.isEnd then packet.volume ||| eventEndMask else packet.volume)
      &&& eventEndMask ≠ 0) = packet.isEnd := by
  have bits := end_bit packet.low
  cases packet.isEnd with
  | false => simpa using bits.1
  | true => simpa using bits.2

section Packet

variable (stream : Stream) {event : UInt8} (digit : event ≤ maxEvent) (timestamp : UInt64)
  (packet : Packet)

include digit

theorem handleIncomingDtmf_remembers :
    Remembers (handleIncomingDtmf stream timestamp (packet.payload event)).1 event packet := by
  have known : ¬ maxEvent < event := UInt8.not_lt.2 digit
  simp only [Packet.payload, put16, List.cons_append, List.nil_append, handleIncomingDtmf,
    if_neg known, packet.end_read]
  rw [show value16 [_, _] = packet.duration from value16_put16 packet.duration]
  split
  · next same =>
    cases stream.sink with
    | dtmfEventCb => dsimp only; split <;> exact ⟨same.2.1.symm, rfl, rfl⟩
    | dtmfCb => exact ⟨same.2.1.symm, rfl, rfl⟩
    | buffer => exact ⟨same.2.1.symm, rfl, rfl⟩
  · cases stream.sink <;> exact ⟨rfl, rfl, rfl⟩

theorem handleIncomingDtmf_continued (continues : Continues stream event packet) :
    announcements (handleIncomingDtmf stream timestamp (packet.payload event)).2 = []
      ∧ endReports (handleIncomingDtmf stream timestamp (packet.payload event)).2
        ≤ if packet.isEnd ∧ ¬ stream.lastDtmfEnded then 1 else 0 := by
  have known : ¬ maxEvent < event := UInt8.not_lt.2 digit
  have same : stream.lastDtmf ≠ -1 ∧ (event.toNat : Int) = stream.lastDtmf
      ∧ stream.lastDtmfDur ≤ packet.duration := by
    refine ⟨?_, continues.1.symm, continues.2⟩
    rw [continues.1]
    omega
  simp only [Packet.payload, put16, List.cons_append, List.nil_append, handleIncomingDtmf,
    if_neg known, packet.end_read]
  rw [show value16 [_, _] = packet.duration from value16_put16 packet.duration, if_pos same]
  cases stream.sink with
  | dtmfEventCb =>
    cases ended : packet.isEnd <;> cases before : stream.lastDtmfEnded <;>
      simp [announcements, endReports, Report.announced, Report.ends, Stream.event]
  | dtmfCb => exact ⟨rfl, Nat.zero_le _⟩
  | buffer => exact ⟨rfl, Nat.zero_le _⟩

theorem handleIncomingDtmf_new (other : ¬ Continues stream event packet) :
    announcements (handleIncomingDtmf stream timestamp (packet.payload event)).2 = [digitmap event]
      ∧ endReports (handleIncomingDtmf stream timestamp (packet.payload event)).2
        ≤ if packet.isEnd then 1 else 0 := by
  have known : ¬ maxEvent < event := UInt8.not_lt.2 digit
  simp only [Packet.payload, put16, List.cons_append, List.nil_append, handleIncomingDtmf,
    if_neg known, packet.end_read]
  rw [show value16 [_, _] = packet.duration from value16_put16 packet.duration,
    if_neg fun same => other ⟨same.2.1.symm, same.2.2⟩]
  cases stream.sink with
  | dtmfEventCb =>
    cases packet.isEnd <;>
      simp [announcements, endReports, Report.announced, Report.ends, Stream.event]
  | dtmfCb => exact ⟨rfl, Nat.zero_le _⟩
  | buffer => exact ⟨rfl, Nat.zero_le _⟩

end Packet

/-! ## The packets of an event -/

/-- Once a packet of the event is remembered, the further ones announce nothing, and end the
event only if that packet did not. -/
theorem hear_later {stream : Stream} {event : UInt8} (digit : event ≤ maxEvent)
    (timestamp : UInt64) {packet : Packet} {packets : List Packet}
    (growing : (packet :: packets).Pairwise fun a b => a.duration ≤ b.duration)
    (endsLast : (packet :: packets).Pairwise fun a b => a.isEnd = true → b.isEnd = true)
    (now : Remembers stream event packet) :
    Remembers (hear stream timestamp event packets).1 event (packets.getLastD packet)
      ∧ announcements (hear stream timestamp event packets).2 = []
      ∧ endReports (hear stream timestamp event packets).2 ≤ if packet.isEnd then 0 else 1 := by
  induction packets generalizing stream packet with
  | nil => exact ⟨now, rfl, Nat.zero_le _⟩
  | cons next packets ih =>
    have continues : Continues stream event next := by
      refine ⟨now.digit, ?_⟩
      rw [now.duration]
      exact List.rel_of_pairwise_cons growing (List.mem_cons_self ..)
    have here := handleIncomingDtmf_continued stream digit timestamp next continues
    obtain ⟨last, silent, ends⟩ := ih growing.of_cons endsLast.of_cons
      (handleIncomingDtmf_remembers stream digit timestamp next)
    rw [hear_cons, List.getLastD_cons, announcements_append, endReports_append, here.1, silent]
    refine ⟨last, rfl, ?_⟩
    have bound := here.2
    rw [now.ended] at bound
    generalize endReports (handleIncomingDtmf stream timestamp (next.payload event)).2 = now at *
    cases before : packet.isEnd <;> cases after : next.isEnd <;> simp_all

namespace Arrival

variable (arrival : Arrival) (stream : Stream)

theorem hear_spec : Remembers (arrival.hear stream).1 arrival.event arrival.last
      ∧ endReports (arrival.hear stream).2 ≤ 1
      ∧ (Continues stream arrival.event arrival.first → announcements (arrival.hear stream).2 = [])
      ∧ (¬ Continues stream arrival.event arrival.first →
          announcements (arrival.hear stream).2 = [digitmap arrival.event]) := by
  obtain ⟨last, silent, ends⟩ := hear_later arrival.digit arrival.timestamp
    (arrival.growing.sublist arrival.arrived) (arrival.endsLast.sublist arrival.arrived)
    (handleIncomingDtmf_remembers stream arrival.digit arrival.timestamp arrival.first)
  have continued := handleIncomingDtmf_continued stream arrival.digit
    arrival.timestamp arrival.first
  have new := handleIncomingDtmf_new stream arrival.digit arrival.timestamp
    arrival.first
  rw [Arrival.hear, hear_cons, announcements_append, endReports_append, silent]
  refine ⟨last, ?_, ?_, ?_⟩
  · have bound : endReports (handleIncomingDtmf stream arrival.timestamp
        (arrival.first.payload arrival.event)).2 ≤ if arrival.first.isEnd then 1 else 0 := by
      by_cases same : Continues stream arrival.event arrival.first
      · refine (continued same).2.trans ?_
        split <;> simp_all
      · exact (new same).2
    split at bound <;> simp_all
  · intro same
    rw [(continued same).1, List.nil_append]
  · intro other
    rw [(new other).1, List.append_nil]

end Arrival

/-! ## Sequences of events -/

/-- The first packet that arrives of the later event is shorter than the last one of the earlier
event, where both are of one digit. -/
def Distinguished (earlier later : Arrival) : Prop :=
  earlier.event = later.event → later.first.duration < earlier.last.duration

theorem Distinguished.iff_not_continues {earlier later : Arrival} {stream : Stream}
    (now : Remembers stream earlier.event earlier.last) :
    Distinguished earlier later ↔ ¬ Continues stream later.event later.first := by
  rw [Distinguished, Continues, now.digit, now.duration, Int.ofNat_inj, UInt8.toNat_inj, not_and,
    UInt16.not_le]

theorem hearAll_cons (stream : Stream) (arrival : Arrival) (arrivals : List Arrival) :
    ReportedOnce (hearAll stream (arrival :: arrivals)).2
      ↔ ¬ Continues stream arrival.event arrival.first
        ∧ ReportedOnce (hearAll (arrival.hear stream).1 arrivals).2 := by
  obtain ⟨-, ends, silent, new⟩ := arrival.hear_spec stream
  show (∀ entry ∈ (arrival, (arrival.hear stream).2) :: (hearAll (arrival.hear stream).1 arrivals).2,
    _) ↔ _
  rw [List.forall_mem_cons]
  refine and_congr ⟨fun once same => ?_, fun other => ⟨new other, ends⟩⟩ Iff.rfl
  have unannounced := silent same
  rw [once.1] at unannounced
  cases unannounced

theorem hearAll_after {stream : Stream} {earlier : Arrival} (arrivals : List Arrival)
    (now : Remembers stream earlier.event earlier.last) :
    ReportedOnce (hearAll stream arrivals).2 ↔ (earlier :: arrivals).IsChain Distinguished := by
  induction arrivals generalizing stream earlier with
  | nil => exact iff_of_true (List.forall_mem_nil _) (.singleton _)
  | cons arrival arrivals ih =>
    rw [hearAll_cons, List.isChain_cons_cons, Distinguished.iff_not_continues now,
      ih (arrival.hear_spec stream).1]

/-- Every event is reported once exactly if any two consecutive ones of the same digit can be
told apart by the durations that arrive. -/
theorem hearAll_reportedOnce_iff (clockRate : ClockRate) (sink : Sink) (arrivals : List Arrival) :
    ReportedOnce (hearAll (Stream.create clockRate sink) arrivals).2
      ↔ arrivals.IsChain Distinguished := by
  cases arrivals with
  | nil => exact iff_of_true (List.forall_mem_nil _) .nil
  | cons arrival arrivals =>
    have fresh : ¬ Continues (Stream.create clockRate sink) arrival.event arrival.first := by
      rintro ⟨same, -⟩
      have : (-1 : Int) = arrival.event.toNat := same
      omega
    rw [hearAll_cons, and_iff_right fresh, hearAll_after arrivals (arrival.hear_spec _).1]

section Counterexample

/-- A press of the key 5 for 40 ms at 8000 Hz, with its end packet sent three times. -/
def press (timestamp : UInt64) : TelephoneEvent where
  event := 5
  timestamp := timestamp
  packets :=
    [⟨10, false, 160, by decide⟩, ⟨10, true, 320, by decide⟩, ⟨10, true, 320, by decide⟩,
      ⟨10, true, 320, by decide⟩]
  digit := by decide
  growing := by decide
  endsLast := by decide

/-- Only the first packet of the first press arrives, and all packets of the second press. -/
def twoPresses : List Arrival :=
  [{ press 8000 with
      first := ⟨10, false, 160, by decide⟩
      later := []
      arrived := by decide },
    { press 16000 with
      first := ⟨10, false, 160, by decide⟩
      later := (press 16000).packets.tail
      arrived := by decide }]

theorem hearAll_misses_press : (twoPresses.map fun arrival => arrival.timestamp).Nodup
      ∧ ¬ ReportedOnce (hearAll (Stream.create ⟨8000, by decide⟩ .dtmfEventCb) twoPresses).2 := by
  refine ⟨by decide, fun once => ?_⟩
  have second := (once _ (List.mem_cons_of_mem _ (List.mem_cons_self ..))).1
  revert second
  decide

end Counterexample

end Pjsip.Pjmedia.Dtmf
