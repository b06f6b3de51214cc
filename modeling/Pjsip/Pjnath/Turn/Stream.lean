import Pjsip.Pjnath.Stun.Framing

/-!
# Packets for a TURN session (`turn_session.c`)

`pj_turn_session_on_rx_pkt2` tells a STUN message from ChannelData by the first two bits,
gives the one to the STUN session and the other to the application, and says how much of the
packet it has read.
-/

namespace Pjsip.Pjnath.Turn

open Pjsip.Base Pjsip.Pjnath.Stun

/-- `pj_turn_tp_type` -/
inductive TpType where
  | udp | tcp | tls
  deriving DecidableEq, Repr

/-- What `pj_turn_session_on_rx_pkt2` returns. -/
inductive RxStatus where
  | success | etoosmall | enotfound | einvalidop
  | stun (status : StunStatus)
  deriving DecidableEq, Repr

/-- The rest of a session, as its handling of packets sees it. -/
structure RxOps (σ : Type) where
  env : StunEnv
  connType : TpType
  /-- `is_destroying` of the STUN session. -/
  isDestroying : σ → Bool
  /-- `lookup_ch_by_chnum`: whether the channel is bound, and the address of its peer. -/
  channel : σ → UInt16 → Option (Bool × SockAddr)
  onRxData : σ → List UInt8 → SockAddr → σ
  /-- The answer to a message that cannot be parsed. -/
  onStunError : σ → DecodeError → σ
  /-- What the STUN session does with a message. -/
  onStunMsg : σ → List UInt8 → StunMsg → σ × RxStatus

/-- `GETVAL16H` -/
def getval16h (buf : List UInt8) (pos : Nat) : UInt16 :=
  value16 [buf.getD pos 0, buf.getD (pos + 1) 0]

/-- The first two bits are those of a STUN message. -/
def isStun (pkt : List UInt8) : Bool := pkt.getD 0 0 &&& 0xC0 = 0

variable {σ : Type} (ops : RxOps σ)

/-- `pj_stun_session_on_rx_pkt`, with the options of a TURN session: the status and the parsed
length. -/
def stunOnRxPkt (s : σ) (pkt : List UInt8) : σ × RxStatus × Nat :=
  if ops.isDestroying s then (s, .einvalidop, 0)
  else
    let options := optCheckPacket ||| optNoFingerprintCheck
      ||| if ops.connType = .udp then optIsDatagram else 0
    match pjStunMsgDecode ops.env pkt options true with
    | .outside => (s, .stun .ebug, 0)
    | .error e => (ops.onStunError s e, .stun e.status, 0)
    | .value (msg, parsedLen) =>
      let (s, status) := ops.onStunMsg s pkt msg
      (s, status, parsedLen)

/-- `pj_turn_session_on_rx_pkt2`: the status and `prm->parsed_len`. -/
def onRxPkt2 (s : σ) (pkt : List UInt8) : σ × RxStatus × Nat :=
  if isStun pkt then stunOnRxPkt ops s pkt
  else if pkt.length < 4 then (s, .etoosmall, 0)
  else
    let chNumber := getval16h pkt 0
    let length := (getval16h pkt 2).toNat
    if pkt.length < length + 4 then
      (s, .etoosmall, if ops.connType = .udp then pkt.length else 0)
    else
      let parsedLen := align4 length + 4
      match ops.channel s chNumber with
      | some (true, addr) =>
        (ops.onRxData s ((pkt.drop 4).take length) addr, .success, parsedLen)
      | _ => (s, .enotfound, parsedLen)

/-- `pj_turn_session_on_rx_pkt`: `*parsed_len` is written on success only. -/
def onRxPkt (s : σ) (pkt : List UInt8) (parsedLen : Nat) : σ × RxStatus × Nat :=
  let (s, status, parsed) := onRxPkt2 ops s pkt
  (s, status, if status = .success then parsed else parsedLen)

end Pjsip.Pjnath.Turn

/-!
# TURN over a stream (`turn_sock.c`, `activesock.c`)

Over TCP and TLS the packets of a TURN session come in pieces. The active socket appends what
it has received to what `on_data_read` left in the buffer, and `on_data_read` takes packets off
the front as long as `has_packet` sees one.
-/

namespace Pjsip.Pjnath.Turn

open Pjsip.Base Pjsip.Pjnath.Stun

/-- `has_packet`: the length of the packet at the front of the buffer, 0 if it is not all
there. What stands in the buffer behind `bufsize` is old. -/
def hasPacket (connType : TpType) (buf : List UInt8) (bufsize : Nat) : Nat :=
  if connType = .udp then bufsize
  else if isStun buf && getval16h buf 2 &&& 3 = 0 then
    let msgLen := (getval16h buf 2).toNat
    if msgLen + 20 ≤ bufsize then msgLen + 20 else 0
  else if bufsize < 4 then 0
  else
    let length := (getval16h buf 2).toNat
    if length + 4 ≤ bufsize then align4 (length + 4) else 0

/-- A message, as a TURN session is shown it at the front of a packet. -/
inductive TurnMsg where
  | stun (pdu : List UInt8)
  | channelData (chNumber : UInt16) (payload : List UInt8)
  deriving DecidableEq, Repr

/-- The message at the front of a packet. -/
def frontMsg (pkt : List UInt8) : TurnMsg :=
  let length := (getval16h pkt 2).toNat
  if isStun pkt then .stun (pkt.take (length + 20))
  else .channelData (getval16h pkt 0) ((pkt.drop 4).take length)

/-- The session of a socket, the buffer it reads from, and what the session was handed. -/
structure Reading (σ : Type) where
  sess : σ
  data : List UInt8
  size : Nat
  remainder : Nat
  handed : List TurnMsg

variable {σ : Type} (ops : RxOps σ)

/-- One round of `on_data_read`, for a packet of length `pktLen`. -/
def readRound (r : Reading σ) (pktLen : Nat) : Reading σ :=
  let pkt := r.data.take r.size
  let (sess, _, parsedLen) := onRxPkt ops r.sess pkt r.size
  let parsedLen := if parsedLen = 0 then pktLen else parsedLen
  let handed := r.handed ++ [frontMsg pkt]
  if parsedLen < r.size then
    let remainder := r.size - parsedLen
    { sess
      -- the rest is moved to the front
      data := (r.data.drop parsedLen).take remainder ++ r.data.drop remainder
      size := remainder
      remainder
      handed }
  else { sess, data := r.data, size := 0, remainder := 0, handed }

/-- The loop of `on_data_read`; each round takes something off the buffer. -/
def readLoop : (rounds : Nat) → Reading σ → Reading σ
  | 0, r => r
  | rounds + 1, r =>
    let pktLen := hasPacket ops.connType r.data r.size
    if pktLen = 0 then r else readLoop rounds (readRound ops r pktLen)

/-- `on_data_read`, for data; `ready` says that the socket has a session and is not being
destroyed. -/
def onDataRead (ready : σ → Bool) (r : Reading σ) : Reading σ :=
  if ready r.sess then readLoop ops r.size r else r

/-- `ioqueue_on_read_complete`, for data: `chunk` has been received behind what was left. -/
def onReadComplete (ready : σ → Bool) (r : Reading σ) (chunk : List UInt8) : Reading σ :=
  let size := r.size + chunk.length
  let r := onDataRead ops ready { r with
    data := r.data.take r.size ++ chunk ++ r.data.drop size
    size
    remainder := 0 }
  { r with size := r.remainder }

/-- All that is received, chunk by chunk. -/
def readAll (ready : σ → Bool) : Reading σ → (chunks : List (List UInt8)) → Reading σ
  | r, [] => r
  | r, chunk :: chunks => readAll ready (onReadComplete ops ready r chunk) chunks

/-! ## What is sent over the stream -/

/-- A STUN message, with the length that its header says. -/
structure StunPdu where
  pdu : List UInt8
  long : 20 ≤ pdu.length
  first : isStun pdu = true
  length : (getval16h pdu 2).toNat + 20 = pdu.length
  aligned : pdu.length % 4 = 0

/-- ChannelData, padded to four octets. -/
structure ChannelPdu where
  chNumber : UInt16
  channel : 0x4000 ≤ chNumber ∧ chNumber ≤ 0x7FFF
  payload : List UInt8
  short : payload.length < 2 ^ 16
  padding : List UInt8
  aligned : padding.length < 4 ∧ (payload.length + padding.length) % 4 = 0

/-- A message of the stream. -/
inductive StreamMsg where
  | stun (pdu : StunPdu)
  | channelData (pdu : ChannelPdu)

namespace StreamMsg

/-- What a session is to be shown of it. -/
def msg : StreamMsg → TurnMsg
  | stun pdu => .stun pdu.pdu
  | channelData pdu => .channelData pdu.chNumber pdu.payload

def octets : StreamMsg → List UInt8
  | stun pdu => pdu.pdu
  | channelData pdu =>
    put16 pdu.chNumber ++ put16 (.ofNat pdu.payload.length) ++ pdu.payload ++ pdu.padding

def isStun : StreamMsg → Bool
  | stun _ => true
  | channelData _ => false

/-- The length in its header. -/
def length : StreamMsg → Nat
  | stun pdu => pdu.pdu.length - 20
  | channelData pdu => pdu.payload.length

/-- Its length without the padding. -/
def whole (m : StreamMsg) : Nat := m.length + if m.isStun then 20 else 4

end StreamMsg

section Headers

variable {buf other : List UInt8}

theorem getD_take (n : Nat) {i : Nat} (inside : i < n) : (buf.take n).getD i 0 = buf.getD i 0 := by
  rw [List.getD_eq_getElem?_getD, List.getD_eq_getElem?_getD, List.getElem?_take_of_lt inside]

theorem getval16h_congr (same : buf.take 4 = other.take 4) (pos : Nat) (inside : pos + 1 < 4) :
    getval16h buf pos = getval16h other pos := by
  rw [getval16h, getval16h, ← getD_take 4 (by omega), ← getD_take 4 inside, same,
    getD_take 4 (by omega), getD_take 4 inside]

theorem getval16h_eq (header : 4 ≤ buf.length) :
    getval16h buf 2 = value16 ((buf.drop 2).take 2) := by
  match buf, header with
  | _ :: _ :: _ :: _ :: _, _ => rfl

theorem isStun_congr (same : buf.take 4 = other.take 4) : isStun buf = isStun other := by
  rw [isStun, isStun, ← getD_take 4 (by omega), same, getD_take 4 (by omega)]

theorem frontMsg_congr {n : Nat} (same : buf.take n = other.take n) (header : 4 ≤ n)
    (enough : (getval16h buf 2).toNat + (if isStun buf then 20 else 4) ≤ n) :
    frontMsg buf = frontMsg other := by
  have first : buf.take 4 = other.take 4 := by
    rw [← Nat.min_eq_left header, ← List.take_take, same, List.take_take]
  have length := getval16h_congr first 2 (by omega)
  unfold frontMsg
  rw [← isStun_congr first, ← length, ← getval16h_congr first 0 (by omega)]
  dsimp only
  split
  · next stun =>
    rw [if_pos stun] at enough
    rw [← Nat.min_eq_left enough, ← List.take_take, same, List.take_take]
  · next stun =>
    rw [if_neg stun] at enough
    have cut : ∀ l : List UInt8, (l.drop 4).take (getval16h buf 2).toNat
        = ((l.take n).drop 4).take (getval16h buf 2).toNat := by
      intro l
      rw [List.drop_take, List.take_take, Nat.min_eq_left (by omega)]
    rw [cut buf, cut other, same]

end Headers

/-! ## The header of a message -/

theorem channel_first (b : UInt8) : 64 ≤ b.toNat → b.toNat < 128 → b &&& 0xC0 ≠ 0 := by
  intro high low zero
  have bit : b &&& UInt8.ofNat (2 ^ 6) ≠ 0 := (bit_iff b (by decide)).2 (by omega)
  refine bit ?_
  calc b &&& UInt8.ofNat (2 ^ 6) = (b &&& 0xC0) &&& 0x40 := by rw [UInt8.and_assoc]; rfl
    _ = 0 := by rw [zero, UInt8.zero_and]

theorem put16_channel {chNumber : UInt16} (channel : 0x4000 ≤ chNumber ∧ chNumber ≤ 0x7FFF) :
    ∃ b0 b1, put16 chNumber = [b0, b1] ∧ b0 &&& 0xC0 ≠ 0 := by
  refine ⟨_, _, rfl, ?_⟩
  generalize first : ((chNumber &&& 0xFF00) >>> 8).toUInt8 = b0
  have value := toNat_value16 b0 (chNumber &&& 0x00FF).toUInt8
  rw [← first, show value16 [((chNumber &&& 0xFF00) >>> 8).toUInt8, (chNumber &&& 0x00FF).toUInt8]
    = chNumber from value16_put16 chNumber, first] at value
  have low := (chNumber &&& 0x00FF).toUInt8.toNat_lt
  have least : 0x4000 ≤ chNumber.toNat := UInt16.le_iff_toNat_le.1 channel.1
  have most : chNumber.toNat ≤ 0x7FFF := UInt16.le_iff_toNat_le.1 channel.2
  exact channel_first b0 (by omega) (by omega)

namespace StreamMsg

variable (m : StreamMsg) (more : List UInt8)

theorem header_isStun : Turn.isStun (m.octets ++ more) = m.isStun := by
  cases m with
  | stun pdu =>
    have long := pdu.long
    rw [isStun, ← pdu.first]
    exact isStun_congr (List.take_append_of_le_length (by show 4 ≤ pdu.pdu.length; omega))
  | channelData pdu =>
    obtain ⟨b0, b1, first, bits⟩ := put16_channel pdu.channel
    rw [octets, first]
    exact decide_eq_false bits

theorem header_length : (getval16h (m.octets ++ more) 2).toNat = m.length := by
  cases m with
  | stun pdu =>
    have length := pdu.length
    have same : (pdu.pdu ++ more).take 4 = pdu.pdu.take 4 :=
      List.take_append_of_le_length (by omega)
    rw [octets, getval16h_congr same 2 (by omega), StreamMsg.length]
    omega
  | channelData pdu =>
    have short := pdu.short
    show (value16 (put16 (.ofNat pdu.payload.length))).toNat = _
    rw [value16_put16, UInt16.toNat_ofNat_of_lt' short, StreamMsg.length]

theorem octets_aligned : m.octets.length = align4 m.whole ∧ 4 ≤ m.whole := by
  cases m with
  | stun pdu =>
    have long := pdu.long
    have aligned := pdu.aligned
    simp only [octets, whole, length, isStun, align4, if_true]
    omega
  | channelData pdu =>
    have aligned := pdu.aligned
    simp only [octets, whole, length, isStun, align4, List.length_append, put16_length,
      Bool.false_eq_true, if_false]
    omega

/-- The header of the message is what the buffer starts with. -/
structure Heads (m : StreamMsg) (buf : List UInt8) : Prop where
  isStun : Turn.isStun buf = m.isStun
  length : (getval16h buf 2).toNat = m.length

variable {m more}

theorem heads_of_take {buf : List UInt8} (more : List UInt8) (same : buf.take 4 = (m.octets ++ more).take 4) :
    m.Heads buf :=
  ⟨by rw [isStun_congr same, header_isStun], by rw [getval16h_congr same 2 (by omega), header_length]⟩

theorem Heads.hasPacket {buf : List UInt8} (heads : m.Heads buf) {connType : TpType}
    (stream : connType ≠ .udp) (size : Nat) :
    hasPacket connType buf size = if m.whole ≤ size then m.octets.length else 0 := by
  have aligned := m.octets_aligned
  rw [Turn.hasPacket, if_neg stream, heads.isStun]
  cases m with
  | stun pdu =>
    have multiple := pdu.aligned
    have whole : (stun pdu).whole = (getval16h buf 2).toNat + 20 := by rw [heads.length]; rfl
    have field : getval16h buf 2 &&& 3 = 0 := by
      have number := heads.length
      apply UInt16.toNat_inj.1
      rw [UInt16.toNat_and]
      show (getval16h buf 2).toNat &&& 2 ^ 2 - 1 = 0
      rw [Nat.and_two_pow_sub_one_eq_mod, number]
      show (pdu.pdu.length - 20) % 4 = 0
      omega
    rw [if_pos (by simp [StreamMsg.isStun, field]), whole]
    dsimp only
    split
    · have number : (getval16h buf 2).toNat = pdu.pdu.length - 20 := heads.length
      rw [aligned.1, whole, align4]
      omega
    · rfl
  | channelData pdu =>
    have whole : (channelData pdu).whole = (getval16h buf 2).toNat + 4 := by
      rw [heads.length]; rfl
    rw [if_neg (by simp [StreamMsg.isStun]), whole]
    split
    · rw [if_neg (by omega)]
    · dsimp only
      rw [aligned.1, whole]

theorem front_octets (m : StreamMsg) (more : List UInt8) : frontMsg (m.octets ++ more) = m.msg := by
  rw [frontMsg, header_isStun, header_length]
  cases m with
  | stun pdu =>
    have long := pdu.long
    have length : (stun pdu).length + 20 = pdu.pdu.length := Nat.sub_add_cancel long
    rw [show (stun pdu).isStun = true from rfl, if_pos rfl, length]
    exact congrArg TurnMsg.stun List.take_left
  | channelData pdu =>
    refine congr (congrArg TurnMsg.channelData ?_) ?_
    · exact value16_put16 pdu.chNumber
    · show ((pdu.payload ++ pdu.padding ++ more).take pdu.payload.length) = pdu.payload
      rw [List.append_assoc, List.take_left]

theorem Heads.parsedLen {σ : Type} (ops : RxOps σ) (s : σ) {buf : List UInt8} (heads : m.Heads buf)
    (accepted : (onRxPkt2 ops s buf).2.1 = .success) :
    (onRxPkt2 ops s buf).2.2 = m.octets.length := by
  have aligned := m.octets_aligned
  revert accepted
  rw [onRxPkt2, heads.isStun]
  cases m with
  | stun pdu =>
    have number : (getval16h buf 2).toNat = pdu.pdu.length - 20 := heads.length
    rw [show (stun pdu).isStun = true from rfl, if_pos rfl, stunOnRxPkt]
    intro accepted
    split at accepted
    · nomatch accepted
    next alive =>
    rw [if_neg alive]
    dsimp only at accepted ⊢
    split at accepted
    · nomatch accepted
    · nomatch accepted
    next msg parsedLen decoded =>
    obtain ⟨parsed, length⟩ := pjStunMsgDecode_parsed decoded
    have long := pdu.long
    obtain ⟨-, field, -⟩ := decodeHdr_fields parsed.hdr
    rw [← getval16h_eq (by have := parsed.long; omega)] at field
    show parsedLen = pdu.pdu.length
    rw [length, field]
    omega
  | channelData pdu =>
    rw [if_neg (by simp [StreamMsg.isStun])]
    have whole : (channelData pdu).whole = (getval16h buf 2).toNat + 4 := by
      rw [heads.length]; rfl
    intro accepted
    split at accepted
    · nomatch accepted
    next header =>
    rw [if_neg header]
    dsimp only at accepted ⊢
    split at accepted
    · nomatch accepted
    next fits =>
    rw [if_neg fits]
    rw [aligned.1, whole, align4, align4]
    split <;> dsimp only <;> omega

end StreamMsg

/-! ## Cuts that lose nothing -/

section Cuts

variable {σ : Type} (ops : RxOps σ)

/-- The packets at the front of `buf` are taken off one by one, when `coming` octets are still to
come: each is accepted and all there with its padding, or it ends the buffer, or the stream. -/
def CleanLoop : (rounds : Nat) → σ → (buf : List UInt8) → (coming : Nat) → Prop
  | 0, _, _, _ => True
  | rounds + 1, s, buf, coming =>
    let pktLen := hasPacket ops.connType buf buf.length
    pktLen = 0 ∨ buf.length + coming = pktLen
      ∨ (((onRxPkt2 ops s buf).2.1 = .success ∧ pktLen ≤ buf.length) ∨ pktLen = buf.length)
        ∧ CleanLoop rounds (onRxPkt2 ops s buf).1 (buf.drop pktLen) coming

/-- Every read that there can still be a message in brings the one at the front of the buffer
to its end, and cuts clean behind the last one it completes. -/
def CleanCut (ready : σ → Bool) : Reading σ → (chunks : List (List UInt8)) → Prop
  | _, [] => True
  | r, chunk :: chunks =>
    let live := r.data.take r.size ++ chunk
    let coming := chunks.flatten.length
    4 ≤ live.length + coming → ready r.sess = true ∧ hasPacket ops.connType live live.length ≠ 0
        ∧ CleanLoop ops live.length r.sess live coming
        ∧ CleanCut ready (onReadComplete ops ready r chunk) chunks

end Cuts

/-- The first reading of a session. -/
def Reading.start {σ : Type} (sess : σ) (data : List UInt8) : Reading σ where
  sess
  data
  size := 0
  remainder := 0
  handed := []

section Reads

variable {σ : Type} {ops : RxOps σ}

variable {connType : TpType}

theorem hasPacket_short (stream : connType ≠ .udp) (buf : List UInt8) {size : Nat}
    (short : size < 4) : hasPacket connType buf size = 0 := by
  rw [hasPacket, if_neg stream]
  split
  · exact if_neg (by omega)
  · rfl

theorem hasPacket_take (stream : connType ≠ .udp) (buf : List UInt8) (size : Nat) :
    hasPacket connType buf size = hasPacket connType (buf.take size) size := by
  by_cases short : size < 4
  · rw [hasPacket_short stream _ short, hasPacket_short stream _ short]
  · have same : buf.take 4 = (buf.take size).take 4 := by
      rw [List.take_take, Nat.min_eq_left (by omega)]
    simp only [hasPacket, isStun_congr same, getval16h_congr same 2 (by omega)]

/-- What a buffer holds of the messages that are left: it starts at one of them, or there are
none and only padding is to come. -/
def Aligned (live future : List UInt8) (left : List StreamMsg) : Prop :=
  live ++ future = left.flatMap StreamMsg.octets ∨ left = [] ∧ live.length + future.length < 4

def Reading.live (r : Reading σ) : List UInt8 := r.data.take r.size

theorem front_message (stream : connType ≠ .udp) {live future : List UInt8}
    {m : StreamMsg} {ms : List StreamMsg}
    (starts : live ++ future = (m :: ms).flatMap StreamMsg.octets)
    (found : hasPacket connType live live.length ≠ 0) :
    m.Heads live ∧ m.whole ≤ live.length ∧ hasPacket connType live live.length = m.octets.length
      ∧ frontMsg live = m.msg := by
  rw [List.flatMap_cons] at starts
  have header : 4 ≤ live.length := by
    by_contra short
    exact found (hasPacket_short stream live (by omega))
  have same : live.take live.length = (m.octets ++ ms.flatMap StreamMsg.octets).take live.length := by
    rw [← starts, List.take_left, List.take_length]
  have heads : m.Heads live := by
    refine StreamMsg.heads_of_take (ms.flatMap StreamMsg.octets) ?_
    rw [← starts, List.take_append_of_le_length header]
  have length := heads.hasPacket stream live.length
  have whole : m.whole ≤ live.length := by
    by_contra short
    rw [if_neg short] at length
    exact found length
  rw [if_pos whole] at length
  refine ⟨heads, whole, length, ?_⟩
  rw [← m.front_octets (ms.flatMap StreamMsg.octets)]
  refine frontMsg_congr same header ?_
  rw [heads.isStun, heads.length]
  exact whole

variable {r : Reading σ}

/-- A round takes the packet off the buffer, if the session accepts it and its padding is there
too, or if it ends the buffer. -/
theorem readRound_taken {pktLen : Nat} (inside : r.size ≤ r.data.length)
    (parsed : (onRxPkt2 ops r.sess r.live).2.1 = .success → (onRxPkt2 ops r.sess r.live).2.2 = pktLen)
    (found : pktLen ≠ 0)
    (clean : (onRxPkt2 ops r.sess r.live).2.1 = .success ∧ pktLen ≤ r.size ∨ pktLen = r.size) :
    (readRound ops r pktLen).live = r.live.drop pktLen
      ∧ (readRound ops r pktLen).size ≤ (readRound ops r pktLen).data.length := by
  have taken : (onRxPkt ops r.sess r.live r.size).2.2 = pktLen := by
    rw [onRxPkt]
    dsimp only
    split
    · next accepted => exact parsed accepted
    · next refused =>
      rcases clean with ⟨accepted, _⟩ | whole
      · exact absurd accepted refused
      · exact whole.symm
  rw [readRound, show r.data.take r.size = r.live from rfl]
  dsimp only
  rw [taken, if_neg found]
  split
  · next more =>
    constructor
    · rw [Reading.live, Reading.live]
      dsimp only
      rw [List.take_append_of_le_length, List.take_take, Nat.min_self, List.drop_take]
      rw [List.length_take, List.length_drop]
      omega
    · dsimp only
      rw [List.length_append, List.length_take, List.length_drop, List.length_drop]
      omega
  · next =>
    refine ⟨?_, Nat.zero_le _⟩
    rw [Reading.live, Reading.live]
    rw [List.take_zero, List.drop_eq_nil_of_le]
    rw [List.length_take]
    omega

theorem readRound_handed (ops : RxOps σ) (r : Reading σ) (pktLen : Nat) :
    (readRound ops r pktLen).handed = r.handed ++ [frontMsg r.live]
      ∧ (readRound ops r pktLen).sess = (onRxPkt2 ops r.sess r.live).1
      ∧ (readRound ops r pktLen).remainder = (readRound ops r pktLen).size := by
  rw [readRound]
  dsimp only
  generalize (if (onRxPkt ops r.sess (r.data.take r.size) r.size).2.2 = 0 then pktLen
    else (onRxPkt ops r.sess (r.data.take r.size) r.size).2.2) = parsedLen
  split <;> exact ⟨rfl, rfl, rfl⟩

theorem readRound_last {pktLen coming : Nat}
    (parsed : (onRxPkt2 ops r.sess r.live).2.1 = .success → (onRxPkt2 ops r.sess r.live).2.2 = pktLen)
    (last : r.size + coming = pktLen) :
    (readRound ops r pktLen).size = 0 := by
  have taken : r.size ≤ (onRxPkt ops r.sess r.live r.size).2.2 := by
    rw [onRxPkt]
    dsimp only
    split
    · next accepted =>
      rw [parsed accepted]
      omega
    · exact Nat.le_refl _
  have consumed : r.size ≤ if (onRxPkt ops r.sess r.live r.size).2.2 = 0 then pktLen
      else (onRxPkt ops r.sess r.live r.size).2.2 := by
    split <;> omega
  exact congrArg Reading.size (if_neg (Nat.not_lt.2 consumed))

theorem readLoop_clean (stream : ops.connType ≠ .udp) {future : List UInt8} {rounds : Nat} :
    ∀ {r : Reading σ} {ms : List StreamMsg}, r.size ≤ r.data.length → r.size ≤ rounds →
      Aligned r.live future ms → CleanLoop ops rounds r.sess r.live future.length →
      ∃ done left, ms = done ++ left
        ∧ (readLoop ops rounds r).handed = r.handed ++ done.map StreamMsg.msg
        ∧ (readLoop ops rounds r).size ≤ (readLoop ops rounds r).data.length
        ∧ Aligned (readLoop ops rounds r).live future left := by
  induction rounds with
  | zero =>
    intro r ms inside _ aligned _
    exact ⟨[], ms, rfl, (List.append_nil _).symm, inside, aligned⟩
  | succ rounds ih =>
    intro r ms inside enough aligned clean
    have size : r.live.length = r.size := by
      rw [Reading.live, List.length_take, Nat.min_eq_left inside]
    have same : hasPacket ops.connType r.data r.size
        = hasPacket ops.connType r.live r.live.length := by
      rw [size]
      exact hasPacket_take stream r.data r.size
    rw [readLoop, same]
    rw [CleanLoop] at clean
    by_cases found : hasPacket ops.connType r.live r.live.length = 0
    · rw [if_pos found]
      exact ⟨[], ms, rfl, (List.append_nil _).symm, inside, aligned⟩
    rw [if_neg found]
    have long : 4 ≤ r.live.length := by
      by_contra short
      exact found (hasPacket_short stream _ (by omega))
    have starts : r.live ++ future = ms.flatMap StreamMsg.octets := by
      rcases aligned with starts | ⟨_, short⟩
      · exact starts
      · omega
    cases ms with
    | nil =>
      have length := congrArg List.length starts
      rw [List.length_append, List.flatMap_nil, List.length_nil] at length
      omega
    | cons m ms =>
    obtain ⟨heads, whole, pktLen, front⟩ := front_message stream starts found
    rw [pktLen] at clean ⊢
    have parsed := heads.parsedLen ops r.sess
    obtain ⟨handed, sess, _⟩ := readRound_handed ops r m.octets.length
    rw [front] at handed
    have rest : (r.live ++ future).length = ((m :: ms).flatMap StreamMsg.octets).length :=
      congrArg List.length starts
    rw [List.flatMap_cons, List.length_append, List.length_append] at rest
    have padded := m.octets_aligned
    have lastSize : r.size + future.length = m.octets.length →
        (readRound ops r m.octets.length).size = 0 :=
      readRound_last parsed
    rcases clean with incomplete | last | ⟨clean, cleanRest⟩
    · exact absurd (pktLen.trans incomplete) found
    · -- the last message of the stream
      have cleared := lastSize (size ▸ last)
      have ended : ms = [] := by
        cases ms with
        | nil => rfl
        | cons next more =>
          have nextLong := next.octets_aligned
          rw [List.flatMap_cons, List.length_append, align4] at *
          omega
      have stopped : readLoop ops rounds (readRound ops r m.octets.length)
          = readRound ops r m.octets.length := by
        cases rounds with
        | zero => rfl
        | succ rounds =>
          rw [readLoop, cleared, hasPacket_short stream _ (by omega)]
          exact if_pos rfl
      rw [stopped]
      refine ⟨[m], [], by rw [ended]; rfl, handed, by rw [cleared]; exact Nat.zero_le _,
        .inr ⟨rfl, ?_⟩⟩
      rw [Reading.live, cleared, List.take_zero, List.length_nil]
      rw [align4] at padded
      omega
    · -- the message and its padding are shifted out, the next one is at the front
      have taken := readRound_taken inside parsed (pktLen ▸ found) (size ▸ clean)
      have within : m.octets.length ≤ r.live.length := by
        rcases clean with ⟨_, within⟩ | whole
        · exact within
        · omega
      have next : Aligned (readRound ops r m.octets.length).live future ms := by
        refine .inl ?_
        rw [taken.1, ← List.drop_append_of_le_length within, starts, List.flatMap_cons,
          List.drop_left]
      have fewer : (readRound ops r m.octets.length).size ≤ rounds := by
        have length := congrArg List.length taken.1
        rw [Reading.live, List.length_take, Nat.min_eq_left taken.2, List.length_drop] at length
        rw [align4] at padded
        omega
      rw [← sess, ← taken.1] at cleanRest
      obtain ⟨done, left, parts, after, bounded, ahead⟩ := ih taken.2 fewer next cleanRest
      refine ⟨m :: done, left, by rw [parts]; rfl, ?_, bounded, ahead⟩
      rw [after, handed, List.append_assoc]
      rfl

theorem readLoop_remainder (rounds : Nat) : ∀ {r : Reading σ},
    (hasPacket ops.connType r.data r.size ≠ 0 ∧ rounds ≠ 0 ∨ r.remainder = r.size) →
      (readLoop ops rounds r).remainder = (readLoop ops rounds r).size := by
  induction rounds with
  | zero =>
    intro r written
    rcases written with ⟨_, found⟩ | same
    · exact absurd rfl found
    · exact same
  | succ rounds ih =>
    intro r written
    rw [readLoop]
    split
    · next incomplete =>
      rcases written with ⟨found, _⟩ | same
      · exact absurd incomplete found
      · exact same
    · exact ih (.inr (readRound_handed ops r _).2.2)

theorem received_live (inside : r.size ≤ r.data.length) (chunk : List UInt8) :
    (r.data.take r.size ++ chunk ++ r.data.drop (r.size + chunk.length)).take
      (r.size + chunk.length) = r.live ++ chunk := by
  have length : (r.data.take r.size ++ chunk).length = r.size + chunk.length := by
    rw [List.length_append, List.length_take, Nat.min_eq_left inside]
  rw [← length, List.take_left]
  rfl

variable {ready : σ → Bool}

theorem readAll_padding (stream : ops.connType ≠ .udp) :
    ∀ {chunks : List (List UInt8)} {r : Reading σ}, r.size + chunks.flatten.length < 4 →
      (readAll ops ready r chunks).handed = r.handed := by
  intro chunks
  induction chunks with
  | nil =>
    intro r _
    rfl
  | cons chunk chunks ih =>
    intro r short
    rw [List.flatten_cons, List.length_append] at short
    rw [readAll, onReadComplete, onDataRead]
    -- no packet is found, and the data is dropped
    have idle : ∀ (rounds : Nat) (r' : Reading σ), r'.size < 4 → readLoop ops rounds r' = r' := by
      intro rounds r' few
      cases rounds with
      | zero => rfl
      | succ rounds =>
        rw [readLoop, hasPacket_short stream _ few]
        exact if_pos rfl
    rw [idle _ _ (by show r.size + chunk.length < 4; omega), ite_self]
    exact ih (by show 0 + chunks.flatten.length < 4; omega)

theorem readLoop_settled (stream : ops.connType ≠ .udp) {rounds : Nat} : ∀ {r : Reading σ},
    r.size ≤ rounds → hasPacket ops.connType (readLoop ops rounds r).data
      (readLoop ops rounds r).size = 0 := by
  induction rounds with
  | zero =>
    intro r enough
    exact hasPacket_short stream _ (by show r.size < 4; omega)
  | succ rounds ih =>
    intro r enough
    rw [readLoop]
    split
    · next incomplete => exact incomplete
    · next found =>
      refine ih ?_
      rw [readRound]
      dsimp only
      have parsed : (if (onRxPkt ops r.sess (r.data.take r.size) r.size).2.2 = 0
          then hasPacket ops.connType r.data r.size
          else (onRxPkt ops r.sess (r.data.take r.size) r.size).2.2) ≠ 0 := by
        split <;> assumption
      generalize (if (onRxPkt ops r.sess (r.data.take r.size) r.size).2.2 = 0
        then hasPacket ops.connType r.data r.size
        else (onRxPkt ops r.sess (r.data.take r.size) r.size).2.2) = parsedLen at parsed
      split
      · show r.size - parsedLen ≤ rounds
        omega
      · exact Nat.zero_le _

theorem onReadComplete_clean (stream : ops.connType ≠ .udp)
    {chunk future : List UInt8} {ms : List StreamMsg} (inside : r.size ≤ r.data.length)
    (starts : Aligned (r.live ++ chunk) future ms) (ready_ : ready r.sess = true)
    (found : hasPacket ops.connType (r.live ++ chunk) (r.live ++ chunk).length ≠ 0)
    (clean : CleanLoop ops (r.live ++ chunk).length r.sess (r.live ++ chunk) future.length) :
    ∃ done left, ms = done ++ left
      ∧ (onReadComplete ops ready r chunk).handed = r.handed ++ done.map StreamMsg.msg
      ∧ (onReadComplete ops ready r chunk).size ≤ (onReadComplete ops ready r chunk).data.length
      ∧ Aligned (onReadComplete ops ready r chunk).live future left
      ∧ hasPacket ops.connType (onReadComplete ops ready r chunk).data
        (onReadComplete ops ready r chunk).size = 0 := by
  have size : (r.live ++ chunk).length = r.size + chunk.length := by
    rw [List.length_append, Reading.live, List.length_take, Nat.min_eq_left inside]
  let received : Reading σ := { r with
    data := r.data.take r.size ++ chunk ++ r.data.drop (r.size + chunk.length)
    size := r.size + chunk.length
    remainder := 0 }
  have live : received.live = r.live ++ chunk := received_live inside chunk
  have receivedInside : received.size ≤ received.data.length := by
    show r.size + chunk.length ≤ (_ ++ _ ++ _ : List UInt8).length
    rw [List.length_append, List.length_append, List.length_take, Nat.min_eq_left inside]
    omega
  have same : hasPacket ops.connType received.data received.size ≠ 0 := by
    rw [hasPacket_take stream, show received.data.take received.size = r.live ++ chunk from live,
      show received.size = (r.live ++ chunk).length from size.symm]
    exact found
  have nonempty : received.size ≠ 0 := by
    intro empty
    exact same (hasPacket_short stream _ (by omega))
  have read : onReadComplete ops ready r chunk = readLoop ops received.size received := by
    rw [onReadComplete, onDataRead]
    rw [if_pos ready_]
    have kept := readLoop_remainder received.size (.inl ⟨same, nonempty⟩)
    change { readLoop ops received.size received with
      size := (readLoop ops received.size received).remainder } = _
    generalize readLoop ops received.size received = after at kept ⊢
    obtain ⟨_, _, size, remainder, _⟩ := after
    change remainder = size at kept
    rw [kept]
  rw [← live] at starts
  rw [← live, show received.live.length = received.size by rw [live]; exact size] at clean
  obtain ⟨done, left, parts, handed, bounded, ahead⟩ :=
    readLoop_clean stream receivedInside (Nat.le_refl _) starts clean
  rw [read]
  exact ⟨done, left, parts, handed, bounded, ahead, readLoop_settled stream (Nat.le_refl _)⟩

theorem readAll_clean (stream : ops.connType ≠ .udp) :
    ∀ {chunks : List (List UInt8)} {r : Reading σ} {ms : List StreamMsg},
      r.size ≤ r.data.length → hasPacket ops.connType r.data r.size = 0 →
      Aligned r.live chunks.flatten ms → CleanCut ops ready r chunks →
      (readAll ops ready r chunks).handed = r.handed ++ ms.map StreamMsg.msg := by
  intro chunks
  induction chunks with
  | nil =>
    intro r ms inside settled aligned _
    cases ms with
    | nil => exact (List.append_nil _).symm
    | cons m ms =>
      -- a whole message would have been taken
      rcases aligned with starts | ⟨nothing, _⟩
      · rw [List.flatten_nil, List.append_nil, List.flatMap_cons] at starts
        have heads : m.Heads r.live := StreamMsg.heads_of_take _ (by rw [starts])
        have length := congrArg List.length starts
        rw [Reading.live, List.length_take, Nat.min_eq_left inside, List.length_append] at length
        rw [hasPacket_take stream] at settled
        have packet := heads.hasPacket stream r.size
        have padded := m.octets_aligned
        rw [align4] at padded
        rw [if_pos (by omega)] at packet
        have gone := packet.symm.trans settled
        omega
      · cases nothing
  | cons chunk chunks ih =>
    intro r ms inside settled aligned clean
    have size : r.live.length = r.size := by
      rw [Reading.live, List.length_take, Nat.min_eq_left inside]
    rw [List.flatten_cons] at aligned
    by_cases short : r.size + (chunk ++ chunks.flatten).length < 4
    · rw [readAll_padding stream (by rw [List.flatten_cons]; exact short)]
      cases ms with
      | nil => exact (List.append_nil _).symm
      | cons m ms =>
        rcases aligned with starts | ⟨nothing, _⟩
        · have length := congrArg List.length starts
          have padded := m.octets_aligned
          simp only [List.length_append, size, List.flatMap_cons] at length short
          rw [align4] at padded
          omega
        · cases nothing
    · rw [List.length_append] at short
      have long : 4 ≤ (r.data.take r.size ++ chunk).length + chunks.flatten.length := by
        rw [List.length_append, show (r.data.take r.size).length = r.size from size]
        omega
      have starts : Aligned (r.live ++ chunk) chunks.flatten ms := by
        rcases aligned with starts | ⟨_, few⟩
        · exact .inl (by rw [List.append_assoc]; exact starts)
        · rw [List.length_append] at few
          omega
      obtain ⟨ready_, found, cleanLoop, rest⟩ := clean long
      obtain ⟨done, left, parts, handed, bounded, ahead, settled'⟩ :=
        onReadComplete_clean stream inside starts ready_ found cleanLoop
      rw [readAll, ih bounded settled' ahead rest, handed, parts, List.map_append,
        List.append_assoc]

end Reads

/-- However a stream of messages is cut, the session is handed exactly these, in order, as long
as no cut meets one of the cases that lose data. -/
theorem turnStream_framed {σ : Type} (ops : RxOps σ) (stream : ops.connType ≠ .udp)
    (ready : σ → Bool) (sess : σ) (data : List UInt8) (msgs : List StreamMsg)
    (chunks : List (List UInt8)) (cut : chunks.flatten = msgs.flatMap StreamMsg.octets)
    (clean : CleanCut ops ready (.start sess data) chunks) :
    (readAll ops ready (.start sess data) chunks).handed = msgs.map StreamMsg.msg := by
  have settled : hasPacket ops.connType data 0 = 0 := hasPacket_short stream data (by omega)
  have aligned : Aligned (Reading.start sess data).live chunks.flatten msgs := .inl cut
  exact readAll_clean stream (Nat.zero_le _) settled aligned clean

instance CleanLoop.decidable {σ : Type} (ops : RxOps σ) : (rounds : Nat) → (s : σ) →
    (buf : List UInt8) → (coming : Nat) → Decidable (CleanLoop ops rounds s buf coming)
  | 0, _, _, _ => .isTrue trivial
  | rounds + 1, s, buf, coming =>
    have := CleanLoop.decidable ops rounds (onRxPkt2 ops s buf).1
      (buf.drop (hasPacket ops.connType buf buf.length)) coming
    inferInstanceAs (Decidable (_ ∨ _ ∨ ((_ ∧ _) ∨ _) ∧ CleanLoop ops rounds _ _ coming))

instance CleanCut.decidable {σ : Type} (ops : RxOps σ) (ready : σ → Bool) :
    (r : Reading σ) → (chunks : List (List UInt8)) → Decidable (CleanCut ops ready r chunks)
  | _, [] => .isTrue trivial
  | r, chunk :: chunks =>
    have := CleanCut.decidable ops ready (onReadComplete ops ready r chunk) chunks
    inferInstanceAs (Decidable (_ → _ ∧ _ ≠ _ ∧ CleanLoop ops _ r.sess _ _
      ∧ CleanCut ops ready _ chunks))

/-- A session over TCP with one bound channel, which keeps the data it is given. -/
def oneChannel : RxOps (List (List UInt8)) where
  env := .constant (.fill 20 0) 0
  connType := .tcp
  isDestroying _ := false
  channel _ chNumber := if chNumber = 0x4000 then some (true, .unspec) else none
  onRxData s payload _ := s ++ [payload]
  onStunError s _ := s
  -- `stun_on_rx_indication` for a Data indication: it must have XOR-PEER-ADDRESS and DATA
  onStunMsg s _ msg := (s, if msg.hdr.type = 0x0017 ∧ (msg.findAttr 0x0012).isSome
    ∧ (msg.findAttr 0x0013).isSome then .success else .einvalidop)

def threeBytes : StreamMsg :=
  .channelData ⟨0x4000, by decide, [1, 2, 3], by decide, [0], by decide⟩

def dataIndication : StreamMsg :=
  .stun ⟨[0, 0x17, 0, 20, 0x21, 0x12, 0xA4, 0x42] ++ List.replicate 12 7
      ++ [0, 0x12, 0, 8, 0, 1, 0x33, 0x9A, 0xE1, 0x12, 0xA6, 0x43] ++ [0, 0x13, 0, 1, 5, 0, 0, 0],
    by decide, by decide, by decide, by decide⟩

theorem turnStream_framed_twoMessages : (readAll oneChannel (fun _ => true) (.start [] [])
        [dataIndication.octets ++ threeBytes.octets.take 6,
          threeBytes.octets.drop 6 ++ dataIndication.octets]).handed
      = [dataIndication.msg, threeBytes.msg, dataIndication.msg] :=
  turnStream_framed oneChannel (by decide) (fun _ => true) [] []
    [dataIndication, threeBytes, dataIndication]
    [dataIndication.octets ++ threeBytes.octets.take 6,
      threeBytes.octets.drop 6 ++ dataIndication.octets]
    (by decide +kernel) (by decide +kernel)

/-- A chunk that is shorter than the message it starts is lost. -/
theorem turnStream_lost :
    ¬ ∀ {σ : Type} (ops : RxOps σ), ops.connType ≠ .udp → ∀ (ready : σ → Bool) (sess : σ)
      (data : List UInt8) (msgs : List StreamMsg) (chunks : List (List UInt8)),
      chunks.flatten = msgs.flatMap StreamMsg.octets →
        (readAll ops ready (.start sess data) chunks).handed = msgs.map StreamMsg.msg := by
  intro claim
  have handed := claim oneChannel (by decide) (fun _ => true) [] [] [threeBytes]
    [threeBytes.octets.take 2, threeBytes.octets.drop 2] (by decide +kernel)
  revert handed
  decide +kernel

end Pjsip.Pjnath.Turn
