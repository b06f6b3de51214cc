import Mathlib.Algebra.Order.BigOperators.Group.List
import Mathlib.Algebra.Order.Group.Nat
import Pjsip.Base.Buffer
import Pjsip.Pjmedia.Rtcp.Safety

/-!
# Source descriptions that are built and received

`pjmedia_rtcp_build_rtcp_sdes` computes the length of the packet first, and writes the items, a
zero and the padding after that. The receiver copies the items one behind the other to
`peer_sdes_buf_`, whose last octet is never filled.
-/

namespace Pjsip.Pjmedia.Rtcp

open Pjsip.Base Pjsip.Pjlib Reader

/-! ## Building -/

/-- `pjmedia_rtcp_sdes`, as it is given to the builder. -/
structure Sdes where
  cname : List UInt8 := []
  name : List UInt8 := []
  email : List UInt8 := []
  phone : List UInt8 := []
  loc : List UInt8 := []
  tool : List UInt8 := []
  note : List UInt8 := []
  deriving DecidableEq

/-- The strings with the types `RTCP_SDES_CNAME` to `RTCP_SDES_NOTE`. -/
def Sdes.items (sdes : Sdes) : List (UInt8 × List UInt8) :=
  [(1, sdes.cname), (2, sdes.name), (3, sdes.email), (4, sdes.phone), (5, sdes.loc),
    (6, sdes.tool), (7, sdes.note)]

/-- What an item adds to the length of the packet. -/
def itemLen (item : UInt8 × List UInt8) : Nat :=
  if item.2.length ≠ 0 then item.2.length + 2 else 0

/-- The length of the packet, with the zero at the end and rounded up to words. -/
def Sdes.len (sdes : Sdes) : Nat := ((8 + (sdes.items.map itemLen).sum + 1 + 3) / 4) * 4

/-- The buffer, and the index `p` that is written at. -/
structure Pen where
  buf : Buffer
  p : Nat

/-- `pj_memcpy` to `p`, which is moved on. -/
def Pen.put (pen : Pen) (bytes : List UInt8) : Pen :=
  { buf := pen.buf.store pen.p bytes, p := pen.p + bytes.length }

/-- `BUILD_SDES_ITEM` -/
def buildSdesItem (pen : Pen) (item : UInt8 × List UInt8) : Pen :=
  if item.2.length ≠ 0 then
    ((pen.put [item.1]).put [UInt8.ofNat item.2.length]).put item.2
  else pen

/-- The loop that pads to 32 bits. -/
def padSdes (pen : Pen) : Pen :=
  if pen.p % 4 ≠ 0 then padSdes (pen.put [0]) else pen
termination_by (4 - pen.p % 4) % 4
decreasing_by
  show (4 - (pen.p + 1) % 4) % 4 < _
  omega

/-- `pjmedia_rtcp_build_rtcp_sdes`: the buffer and the length returned. Of the session it takes
the octets of `rtcp_sr_pkt.common`. -/
def pjmediaRtcpBuildRtcpSdes (common : Octets 8) (buf : Buffer) (length : Nat) (sdes : Sdes) :
    Except PjStatus (Buffer × Nat) :=
  if sdes.items.any fun item => 255 < item.2.length then .error .einval
  else
    let len := sdes.len
    if length < len then .error .etoosmall
    else
      let buf := buf.store 0 common.1
      let buf := (buf.store 1 [rtcpSdes]).store 2 (put16 (UInt16.ofNat (len / 4 - 1)))
      let pen := sdes.items.foldl buildSdesItem { buf := buf, p := 8 }
      .ok ((padSdes (pen.put [0])).buf, len)

/-! ## What is written -/

/-- An item in the packet: nothing, if the string is empty. -/
def itemOctets (item : UInt8 × List UInt8) : List UInt8 :=
  if item.2.length ≠ 0 then item.1 :: UInt8.ofNat item.2.length :: item.2 else []

/-- The first `p` octets of the buffer, and no others, have been written, and are these. -/
structure Pen.Wrote (pen : Pen) (before : List Nat) (bytes : List UInt8) : Prop where
  p : pen.p = bytes.length
  slice : pen.buf.slice 0 pen.p = bytes
  stored : ∀ i, i ∈ pen.buf.stored ↔ i ∈ before ∨ i < pen.p

variable {pen : Pen} {before : List Nat} {bytes : List UInt8}

theorem Pen.Wrote.put (wrote : pen.Wrote before bytes) (more : List UInt8) :
    (pen.put more).Wrote before (bytes ++ more) where
  p := by
    show pen.p + more.length = _
    rw [wrote.p, List.length_append]
  slice := by
    show (pen.buf.store pen.p more).slice 0 (pen.p + more.length) = _
    rw [Buffer.slice_store_last, wrote.slice]
  stored := by
    intro i
    show i ∈ (pen.buf.store pen.p more).stored ↔ i ∈ before ∨ i < pen.p + more.length
    rw [Buffer.mem_stored_store, wrote.stored, or_assoc]
    exact or_congr_right (by omega)

theorem itemOctets_length (item : UInt8 × List UInt8) :
    (itemOctets item).length = itemLen item := by
  unfold itemOctets itemLen
  split <;> rfl

theorem Pen.Wrote.item (wrote : pen.Wrote before bytes) (item : UInt8 × List UInt8) :
    (buildSdesItem pen item).Wrote before (bytes ++ itemOctets item) := by
  unfold buildSdesItem itemOctets
  split
  · have written := ((wrote.put [item.1]).put [UInt8.ofNat item.2.length]).put item.2
    simpa using written
  · rw [List.append_nil]
    exact wrote

theorem Pen.Wrote.items (wrote : pen.Wrote before bytes) (items : List (UInt8 × List UInt8)) :
    (items.foldl buildSdesItem pen).Wrote before (bytes ++ items.flatMap itemOctets) := by
  induction items generalizing pen bytes with
  | nil =>
    rw [List.flatMap_nil, List.append_nil]
    exact wrote
  | cons item items ih =>
    rw [List.flatMap_cons, ← List.append_assoc]
    exact ih (wrote.item item)

theorem Pen.Wrote.pad (wrote : pen.Wrote before bytes) : (padSdes pen).Wrote before
      (bytes ++ List.replicate ((4 - bytes.length % 4) % 4) 0) := by
  induction pen using padSdes.induct generalizing bytes with
  | case1 pen more ih =>
    have p := wrote.p
    have zeros : (4 - bytes.length % 4) % 4 = (4 - (bytes ++ [0]).length % 4) % 4 + 1 := by
      rw [List.length_append, List.length_singleton]
      omega
    have next := ih (wrote.put [0])
    rw [padSdes, if_pos more, zeros, List.replicate_succ]
    simpa using next
  | case2 pen done =>
    have p := wrote.p
    rw [padSdes, if_neg done, show (4 - bytes.length % 4) % 4 = 0 by omega, List.replicate_zero,
      List.append_nil]
    exact wrote

/-- Octets of the header: those of the session but for the packet type and the length. -/
def sdesHeader (common : List UInt8) (len : Nat) : List UInt8 :=
  common.take 1 ++ (rtcpSdes :: put16 (UInt16.ofNat (len / 4 - 1))) ++ common.drop 4

theorem eight_octets (common : Octets 8) : ∃ b0 b1 b2 b3 b4 b5 b6 b7,
    common.1 = [b0, b1, b2, b3, b4, b5, b6, b7] := by
  match common with
  | ⟨[b0, b1, b2, b3, b4, b5, b6, b7], _⟩ => exact ⟨_, _, _, _, _, _, _, _, rfl⟩

theorem header_wrote (common : Octets 8) (buf : Buffer) (len : Nat) :
    Pen.Wrote ⟨((buf.store 0 common.1).store 1 [rtcpSdes]).store 2
      (put16 (UInt16.ofNat (len / 4 - 1))), 8⟩ buf.stored (sdesHeader common.1 len) := by
  obtain ⟨b0, b1, b2, b3, b4, b5, b6, b7, octets⟩ := eight_octets common
  rw [octets]
  refine ⟨rfl, rfl, ?_⟩
  intro i
  simp only [Buffer.mem_stored_store, put16_length, List.length_cons, List.length_nil, or_assoc]
  exact or_congr_right (by omega)

/-- The whole packet. -/
def sdesPacket (common : List UInt8) (sdes : Sdes) : List UInt8 :=
  sdesHeader common sdes.len ++ sdes.items.flatMap itemOctets ++ [0]
    ++ List.replicate (sdes.len - (8 + (sdes.items.map itemLen).sum + 1)) 0

theorem sdesPacket_split (common : Octets 8) (sdes : Sdes) : ∃ b0 b4 b5 b6 b7 pad,
    sdesPacket common.1 sdes = b0 :: rtcpSdes :: (put16 (UInt16.ofNat (sdes.len / 4 - 1))
      ++ b4 :: b5 :: b6 :: b7 :: (sdes.items.flatMap itemOctets ++ 0 :: pad)) := by
  obtain ⟨b0, _, _, _, b4, b5, b6, b7, octets⟩ := eight_octets common
  refine ⟨b0, b4, b5, b6, b7,
    List.replicate (sdes.len - (8 + (sdes.items.map itemLen).sum + 1)) 0, ?_⟩
  rw [sdesPacket, sdesHeader, octets]
  simp

theorem not_long {sdes : Sdes} (short : ∀ item ∈ sdes.items, item.2.length ≤ 255) :
    ¬ (sdes.items.any fun item => 255 < item.2.length) = true := by
  intro long
  obtain ⟨item, mem, long⟩ := List.any_eq_true.1 long
  have own := short item mem
  simp at long
  omega

theorem build_wrote (common : Octets 8) (buf : Buffer) {length : Nat} {sdes : Sdes}
    (short : ∀ item ∈ sdes.items, item.2.length ≤ 255) (room : sdes.len ≤ length) :
    ∃ buf', pjmediaRtcpBuildRtcpSdes common buf length sdes = .ok (buf', sdes.len)
      ∧ Pen.Wrote ⟨buf', sdes.len⟩ buf.stored (sdesPacket common.1 sdes) := by
  unfold pjmediaRtcpBuildRtcpSdes
  rw [if_neg (not_long short), if_neg (by omega)]
  refine ⟨_, rfl, ?_⟩
  have written := (((header_wrote common buf sdes.len).items sdes.items).put [0]).pad
  have counted : (sdesHeader common.1 sdes.len ++ sdes.items.flatMap itemOctets ++ [0]).length
      = 8 + (sdes.items.map itemLen).sum + 1 := by
    have header := (header_wrote common buf sdes.len).p
    have each : (fun item => (itemOctets item).length) = itemLen := funext itemOctets_length
    rw [List.length_append, List.length_append, ← header, List.length_flatMap, each]
    rfl
  have pad : (4 - (8 + (sdes.items.map itemLen).sum + 1) % 4) % 4
      = sdes.len - (8 + (sdes.items.map itemLen).sum + 1) := by
    unfold Sdes.len
    omega
  rw [counted, pad] at written
  have whole := written.p
  rw [List.length_append, counted, List.length_replicate] at whole
  change Pen.Wrote _ buf.stored (sdesPacket common.1 sdes) at written
  generalize padSdes _ = pen at written whole
  have last : pen.p = sdes.len := by
    unfold Sdes.len at whole ⊢
    omega
  rw [← last]
  exact written

/-! ## What is received -/

/-- The octets of a string of the statistics. -/
def SdesText.read (buf : SdesBuf) (text : Option SdesText) : List UInt8 :=
  text.elim [] fun text => (buf.octets.1.drop text.ptr).take text.slen

/-- The items of the statistics, as strings. -/
def PeerSdes.read (sdes : PeerSdes) (buf : SdesBuf) : Sdes where
  cname := SdesText.read buf sdes.cname
  name := SdesText.read buf sdes.name
  email := SdesText.read buf sdes.email
  phone := SdesText.read buf sdes.phone
  loc := SdesText.read buf sdes.loc
  tool := SdesText.read buf sdes.tool
  note := SdesText.read buf sdes.note

/-- The string of a type. -/
def Sdes.put (sdes : Sdes) (item : UInt8 × List UInt8) : Sdes :=
  match item.1.toNat with
  | 1 => { sdes with cname := item.2 }
  | 2 => { sdes with name := item.2 }
  | 3 => { sdes with email := item.2 }
  | 4 => { sdes with phone := item.2 }
  | 5 => { sdes with loc := item.2 }
  | 6 => { sdes with tool := item.2 }
  | 7 => { sdes with note := item.2 }
  | _ => sdes

variable {rest : List UInt8}

section Copied

variable {buf buf' : SdesBuf} {b : Nat} {text : List UInt8}

theorem SdesBuf.copied (fits : b + text.length ≤ sdesBufLen)
    (copied : ∀ pkt, (buf.copy b text).run pkt = .value buf') :
    ∃ rest, buf'.octets.1 = buf.octets.1.take b ++ (text ++ rest) := by
  have read := copied []
  unfold SdesBuf.copy at read
  rw [dif_pos fits] at read
  cases read
  exact ⟨_, List.append_assoc ..⟩

theorem SdesBuf.take_length (buf : SdesBuf) (fits : b ≤ sdesBufLen) :
    (buf.octets.1.take b).length = b := by
  rw [List.length_take, buf.octets.2]
  omega

theorem SdesText.read_kept (fits : b ≤ sdesBufLen)
    (octets : buf'.octets.1 = buf.octets.1.take b ++ rest) {old : Option SdesText}
    (inside : ∀ text, old = some text → text.ptr + text.slen ≤ b) :
    SdesText.read buf' old = SdesText.read buf old := by
  cases old with
  | none => rfl
  | some old =>
    have before := inside old rfl
    have size := buf.take_length fits
    show (buf'.octets.1.drop old.ptr).take old.slen = (buf.octets.1.drop old.ptr).take old.slen
    rw [octets, List.drop_append_of_le_length (by omega),
      List.take_append_of_le_length (by rw [List.length_drop]; omega), List.drop_take,
      List.take_take, Nat.min_eq_left (by omega)]

theorem SdesText.read_copied (fits : b ≤ sdesBufLen)
    (octets : buf'.octets.1 = buf.octets.1.take b ++ (text ++ rest)) :
    SdesText.read buf' (some ⟨b, text.length⟩) = text := by
  show (buf'.octets.1.drop b).take text.length = text
  rw [octets, List.drop_left' (buf.take_length fits), List.take_left]

end Copied

variable {sdes : PeerSdes}

theorem PeerSdes.read_set {buf buf' : SdesBuf} {b : Nat} (inside : sdes.Inside b)
    (item : UInt8 × List UInt8) (fits : b + item.2.length ≤ sdesBufLen)
    (copied : ∀ pkt, (buf.copy b item.2).run pkt = .value buf') :
    (sdes.set item.1 ⟨b, item.2.length⟩).read buf' = (sdes.read buf).put item := by
  obtain ⟨rest, octets⟩ := SdesBuf.copied fits copied
  have kept : sdes.read buf' = sdes.read buf := by
    have own {old : Option SdesText} (mem : ∀ text, old = some text → text ∈ sdes.texts) :
        SdesText.read buf' old = SdesText.read buf old :=
      SdesText.read_kept (by omega) octets fun text there => inside text (mem text there)
    unfold PeerSdes.read
    rw [Sdes.mk.injEq]
    refine ⟨own ?_, own ?_, own ?_, own ?_, own ?_, own ?_, own ?_⟩
    all_goals
      intro text there
      rw [PeerSdes.mem_texts]
      simp [there]
  have new := SdesText.read_copied (by omega) octets
  rw [← kept]
  unfold PeerSdes.set Sdes.put
  split <;> simp [PeerSdes.read, *]

theorem SdesBuf.copy_run (buf : SdesBuf) (b : Nat) (text : List UInt8)
    (fits : b + text.length ≤ sdesBufLen) :
    ∃ buf', ∀ pkt, (buf.copy b text).run pkt = .value buf' := by
  unfold SdesBuf.copy
  rw [dif_pos fits]
  exact ⟨_, fun pkt => rfl⟩

theorem sdesItems_item {size fuel b : Nat} {buf buf' : SdesBuf}
    {item : UInt8 × List UInt8} (typed : item.1 ≠ 0) (short : item.2.length ≤ 255)
    (before rest : List UInt8)
    (whole : (before ++ item.1 :: UInt8.ofNat item.2.length :: item.2 ++ rest).length = size)
    (fits : b + item.2.length < sdesBufLen)
    (copied : ∀ pkt, (buf.copy b item.2).run pkt = .value buf') :
    (sdesItems size (fuel + 1) before.length b sdes buf).run
        (before ++ item.1 :: UInt8.ofNat item.2.length :: item.2 ++ rest)
      = (sdesItems size fuel (before ++ item.1 :: UInt8.ofNat item.2.length :: item.2).length
          (b + item.2.length) (sdes.set item.1 ⟨b, item.2.length⟩) buf').run
          (before ++ item.1 :: UInt8.ofNat item.2.length :: item.2 ++ rest) := by
  obtain ⟨type, text⟩ := item
  dsimp only at typed short whole fits copied ⊢
  have long : before.length + 2 + text.length + rest.length = size := by
    rw [← whole]
    simp only [List.length_append, List.length_cons]
    omega
  have counted : (UInt8.ofNat text.length).toNat = text.length := by
    rw [UInt8.toNat_ofNat']
    omega
  have after : before.length + 2 + text.length
      = (before ++ type :: UInt8.ofNat text.length :: text).length := by
    simp only [List.length_append, List.length_cons]
    omega
  have one : (octet before.length : RtcpReader UInt8).run
      (before ++ type :: UInt8.ofNat text.length :: text ++ rest) = .value type :=
    octet_between before type _ (List.append_assoc ..) rfl
  have two : (octet (before.length + 1) : RtcpReader UInt8).run
      (before ++ type :: UInt8.ofNat text.length :: text ++ rest)
        = .value (UInt8.ofNat text.length) :=
    octet_between (before ++ [type]) _ (text ++ rest) (by simp) (by simp)
  have three : (octets (before.length + 2) text.length : RtcpReader _).run
      (before ++ type :: UInt8.ofNat text.length :: text ++ rest) = .value ⟨text, rfl⟩ :=
    octets_between (before ++ [type, UInt8.ofNat text.length]) ⟨text, rfl⟩ rest (by simp) (by simp)
  have goesOn : ¬ (type = 0 ∨ before.length + 1 = size) := by
    rintro (zero | last)
    · exact typed zero
    · omega
  rw [sdesItems, if_pos (by omega), run_bind, one, bind_value, if_neg goesOn, run_bind, two,
    bind_value]
  rw [counted, if_neg (by omega), run_bind, three, bind_value, if_pos fits, run_bind, copied,
    bind_value, after]

theorem sdesItems_read {size : Nat} (items : List (UInt8 × List UInt8))
    (typed : ∀ item ∈ items, item.1 ≠ 0 ∧ item.2.length ≤ 255) (before pad : List UInt8)
    (whole : (before ++ (items.flatMap itemOctets ++ 0 :: pad)).length = size)
    (buf : SdesBuf) {fuel b : Nat} (enough : items.length < fuel) (inside : sdes.Inside b)
    (fits : b + (items.map fun item => item.2.length).sum < sdesBufLen) :
    ∃ sdes' buf', (sdesItems size fuel before.length b sdes buf).run
        (before ++ (items.flatMap itemOctets ++ 0 :: pad)) = .value (sdes', buf')
      ∧ sdes'.read buf' = items.foldl
          (fun sdes item => if item.2.length ≠ 0 then sdes.put item else sdes) (sdes.read buf) := by
  -- by induction on the items that are left: those before them are read already
  induction items generalizing before fuel b sdes buf with
  | nil =>
    obtain ⟨fuel, rfl⟩ := Nat.exists_eq_succ_of_ne_zero (Nat.ne_of_gt enough)
    have zero : (octet before.length : RtcpReader UInt8).run (before ++ 0 :: pad) = .value 0 :=
      octet_between before 0 pad rfl rfl
    have more : before.length < size := by
      rw [← whole]
      simp
    refine ⟨sdes, buf, ?_, rfl⟩
    show (sdesItems size (fuel + 1) before.length b sdes buf).run (before ++ 0 :: pad) = _
    rw [sdesItems, if_pos more, run_bind, zero, bind_value, if_pos (Or.inl rfl)]
    rfl
  | cons item items ih =>
    obtain ⟨own, others⟩ := List.forall_mem_cons.1 typed
    rw [List.map_cons, List.sum_cons] at fits
    rw [List.length_cons] at enough
    rw [List.foldl_cons]
    by_cases present : item.2.length ≠ 0
    · obtain ⟨fuel, rfl⟩ := Nat.exists_eq_succ_of_ne_zero (Nat.ne_of_gt (Nat.zero_lt_of_lt enough))
      obtain ⟨buf', copied⟩ := buf.copy_run b item.2 (by omega)
      have octets : before ++ ((item :: items).flatMap itemOctets ++ 0 :: pad)
          = before ++ item.1 :: UInt8.ofNat item.2.length :: item.2
            ++ (items.flatMap itemOctets ++ 0 :: pad) := by
        rw [List.flatMap_cons, itemOctets, if_pos present]
        simp
      rw [octets] at whole ⊢
      have inside' : (sdes.set item.1 ⟨b, item.2.length⟩).Inside (b + item.2.length) :=
        (inside.mono (Nat.le_add_right _ _)).set item.1 (Nat.le_refl _)
      have read := PeerSdes.read_set inside item (by omega) copied
      rw [if_pos present, ← read, sdesItems_item own.1 own.2 before _ whole (by omega) copied]
      exact ih others _ whole _ (by omega) inside' (by omega)
    · have octets : (item :: items).flatMap itemOctets = items.flatMap itemOctets := by
        rw [List.flatMap_cons, itemOctets, if_neg present, List.nil_append]
      rw [octets] at whole ⊢
      rw [if_neg present]
      exact ih others before whole _ (by omega) inside (by omega)

/-- Items whose strings are shorter than `peer_sdes_buf_`, all together. -/
structure ShortSdes extends Sdes where
  short : (toSdes.items.map fun item => item.2.length).sum < sdesBufLen

theorem ShortSdes.typed (sdes : ShortSdes) :
    ∀ item ∈ sdes.items, item.1 ≠ 0 ∧ item.2.length ≤ 255 := by
  intro item mem
  have own := List.single_le_sum (l := sdes.items.map fun item => item.2.length)
    (fun n _ => Nat.zero_le n) item.2.length (List.mem_map_of_mem mem)
  have short := sdes.short
  unfold sdesBufLen at short
  refine ⟨?_, by omega⟩
  unfold Sdes.items at mem
  simp only [List.mem_cons, List.not_mem_nil, or_false] at mem
  rcases mem with rfl | rfl | rfl | rfl | rfl | rfl | rfl <;> simp

theorem Sdes.put_items (sdes : Sdes) :
    sdes.items.foldl (fun sdes item => if item.2.length ≠ 0 then sdes.put item else sdes) {}
      = sdes := by
  have always {old : Sdes} {item : UInt8 × List UInt8} (empty : old.put (item.1, []) = old) :
      (if item.2.length ≠ 0 then old.put item else old) = old.put item := by
    split
    · rfl
    · next absent =>
        rw [Decidable.not_not, List.length_eq_zero_iff] at absent
        obtain ⟨type, text⟩ := item
        subst absent
        exact empty.symm
  unfold Sdes.items
  rw [List.foldl_cons, always, List.foldl_cons, always, List.foldl_cons, always, List.foldl_cons,
    always, List.foldl_cons, always, List.foldl_cons, always, List.foldl_cons, always]
  all_goals simp [Sdes.put]

theorem parseRtcpSdes_read {S : Type} (receiver : Session S) (header : List UInt8)
    {pad : List UInt8} (eight : header.length = 8) (sdes : ShortSdes) {size : Nat}
    (whole : (header ++ (sdes.items.flatMap itemOctets ++ 0 :: pad)).length = size) :
    ∃ receiver', (parseRtcpSdes size receiver).run
        (header ++ (sdes.items.flatMap itemOctets ++ 0 :: pad)) = .value receiver'
      ∧ receiver'.peerSdes.read receiver'.peerSdesBuf = sdes.toSdes := by
  have short := sdes.short
  have few : sdes.items.length < size + 1 := by
    rw [← whole, List.length_append, eight]
    show 7 < _
    omega
  have empty := PeerSdes.empty_inside 0
  obtain ⟨sdes', buf', run, read⟩ := sdesItems_read sdes.items sdes.typed header pad whole
    { receiver.peerSdesBuf with filled := 0 } few empty (by rw [Nat.zero_add]; exact short)
  rw [eight] at run
  refine ⟨{ receiver with peerSdes := sdes', peerSdesBuf := buf' }, ?_, ?_⟩
  · rw [parseRtcpSdes, run_bind, run]
    rfl
  · exact read.trans sdes.put_items

theorem sdesPacket_words (sdes : ShortSdes) :
    sdes.len / 4 - 1 < 65536 ∧ 12 ≤ sdes.len ∧ sdes.len % 4 = 0 := by
  have short := sdes.short
  have items : (sdes.items.map itemLen).sum ≤ (sdes.items.map fun item => item.2.length).sum
      + 2 * sdes.items.length := by
    generalize sdes.items = items
    induction items with
    | nil => exact Nat.le_refl _
    | cons item items ih =>
      simp only [List.map_cons, List.sum_cons, List.length_cons]
      have own : itemLen item ≤ item.2.length + 2 := by
        unfold itemLen
        split <;> omega
      omega
  have seven : sdes.items.length = 7 := rfl
  unfold sdesBufLen at short
  unfold Sdes.len
  omega

theorem rxRtcp_single {S : Type} (math : MathStat S) (ntp : Nat → NtpRec) (sess : Session S)
    {b0 pt b2 b3 : UInt8} (eight : 4 ≤ rest.length)
    (length : (b2.toNat * 256 + b3.toNat + 1) * 4 = rest.length + 4) :
    pjmediaRtcpRxRtcp math ntp sess (b0 :: pt :: b2 :: b3 :: rest)
      = (parseSub math (ntp 0) pt (rest.length + 4) sess).run (b0 :: pt :: b2 :: b3 :: rest) := by
  have size : (b0 :: pt :: b2 :: b3 :: rest).length = rest.length + 4 := rfl
  have common := parseCommon_run b0 pt b2 b3 rest
  have last (sess' : Session S) : (rxRtcpLoop math ntp (rest.length + 4) (rest.length + 4)
      (0 + (rest.length + 4)) sess').run (b0 :: pt :: b2 :: b3 :: rest) = .value sess' := by
    rw [rxRtcpLoop, if_neg (by omega), run_pure]
  generalize b0 :: pt :: b2 :: b3 :: rest = pkt at size common last ⊢
  have whole : (pkt.drop 0).take (rest.length + 4) = pkt := by
    rw [List.drop_zero, List.take_of_length_le (by omega)]
  have first : (within 0 (rest.length + 4 - 0) parseCommon).run pkt
      = .value ⟨b0.toNat % 32, pt, b2.toNat * 256 + b3.toNat⟩ := by
    show parseCommon.run ((pkt.drop 0).take (rest.length + 4)) = _
    rw [whole, common]
  rw [pjmediaRtcpRxRtcp, size, rxRtcpLoop, if_pos (by omega), if_neg (by omega), run_bind, first,
    bind_value]
  rw [length, if_neg (by omega), run_bind]
  show Read.bind ((parseSub math (ntp 0) pt (rest.length + 4) sess).run
    ((pkt.drop 0).take (rest.length + 4))) _ = _
  rw [whole]
  cases (parseSub math (ntp 0) pt (rest.length + 4) sess).run pkt with
  | value sess' => exact last sess'
  | error fault => rfl
  | outside => rfl

theorem rxRtcp_sdes {S : Type} (math : MathStat S) (ntp : Nat → NtpRec) (receiver : Session S)
    (common : Octets 8) (sdes : ShortSdes)
    (long : (sdesPacket common.1 sdes.toSdes).length = sdes.len) :
    ∃ receiver', pjmediaRtcpRxRtcp math ntp receiver (sdesPacket common.1 sdes.toSdes)
        = .value receiver'
      ∧ receiver'.peerSdes.read receiver'.peerSdesBuf = sdes.toSdes := by
  obtain ⟨words, nonempty, aligned⟩ := sdesPacket_words sdes
  obtain ⟨b0, b4, b5, b6, b7, pad, packet⟩ := sdesPacket_split common sdes.toSdes
  obtain ⟨b2, b3, written⟩ : ∃ b2 b3, put16 (UInt16.ofNat (sdes.len / 4 - 1)) = [b2, b3] :=
    ⟨_, _, rfl⟩
  have value : b2.toNat * 256 + b3.toNat = sdes.len / 4 - 1 := by
    rw [← toNat_value16, ← written, value16_put16, UInt16.toNat_ofNat']
    exact Nat.mod_eq_of_lt words
  rw [written] at packet
  rw [packet] at long ⊢
  have size : (b4 :: b5 :: b6 :: b7 :: (sdes.items.flatMap itemOctets ++ 0 :: pad)).length + 4
      = sdes.len := long
  show ∃ receiver', pjmediaRtcpRxRtcp math ntp receiver (b0 :: rtcpSdes :: b2 :: b3
    :: (b4 :: b5 :: b6 :: b7 :: (sdes.items.flatMap itemOctets ++ 0 :: pad))) = _ ∧ _
  rw [rxRtcp_single math ntp receiver (by simp) (by rw [size, value]; omega), size]
  exact parseRtcpSdes_read receiver [b0, rtcpSdes, b2, b3, b4, b5, b6, b7] rfl sdes long

/-- What is built has the length that was computed, a number of words that the header states,
and is received as the same items; a buffer that is shorter is refused. -/
theorem sdes_roundTrip {S : Type} (math : MathStat S) (ntp : Nat → NtpRec) (receiver : Session S)
    (common : Octets 8) (buf : Buffer) (length : Nat) (sdes : ShortSdes) :
    (length < sdes.len ∧ pjmediaRtcpBuildRtcpSdes common buf length sdes.toSdes = .error .etoosmall)
    ∨ ∃ buf' len receiver', len ≤ length
      ∧ pjmediaRtcpBuildRtcpSdes common buf length sdes.toSdes = .ok (buf', len)
      ∧ (∀ i, i ∈ buf'.stored ↔ i ∈ buf.stored ∨ i < len)
      ∧ len = ((value16 (((buf'.slice 0 len).drop 2).take 2)).toNat + 1) * 4
      ∧ pjmediaRtcpRxRtcp math ntp receiver (buf'.slice 0 len) = .value receiver'
      ∧ receiver'.peerSdes.read receiver'.peerSdesBuf = sdes.toSdes := by
  have typed := sdes.typed
  obtain ⟨words, nonempty, aligned⟩ := sdesPacket_words sdes
  by_cases room : sdes.len ≤ length
  · right
    obtain ⟨buf', built, wrote⟩ := build_wrote common buf (fun item mem => (typed item mem).2) room
    obtain ⟨receiver', received, read⟩ := rxRtcp_sdes math ntp receiver common sdes wrote.p.symm
    refine ⟨buf', sdes.len, receiver', room, built, wrote.stored, ?_, ?_, read⟩
    · have field : ((sdesPacket common.1 sdes.toSdes).drop 2).take 2
          = put16 (UInt16.ofNat (sdes.len / 4 - 1)) := by
        obtain ⟨b0, b4, b5, b6, b7, pad, packet⟩ := sdesPacket_split common sdes.toSdes
        rw [packet]
        rfl
      rw [wrote.slice, field, value16_put16, UInt16.toNat_ofNat', Nat.mod_eq_of_lt words]
      omega
    · rw [wrote.slice]
      exact received
  · left
    refine ⟨by omega, ?_⟩
    unfold pjmediaRtcpBuildRtcpSdes
    dsimp only
    rw [if_neg (not_long fun item mem => (typed item mem).2), if_pos (by omega)]

end Pjsip.Pjmedia.Rtcp
