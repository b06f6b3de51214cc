import Pjsip.PjlibUtil.Dns.Names

/-!
# Queries (`pj_dns_make_query`)

The labels of a name are written with their lengths in front of them, and read back to the name.
-/

namespace Pjsip.PjlibUtil.Dns

open Pjsip.Base Reader

/-! ## The model -/

/-- The dot between labels. -/
def dot : UInt8 := 0x2E

def labelOctets (label : List UInt8) : List UInt8 := .ofNat label.length :: label

/-- The loop over the name; `label` is what is between `startlabel` and `endlabel`. -/
def writeLabels (label : List UInt8) : List UInt8 → List UInt8
  | [] => labelOctets label
  | c :: rest =>
    if c = dot then labelOctets label ++ if rest = [] then [] else writeLabels [] rest
    else writeLabels (label ++ [c]) rest

/-- The name in a query. -/
def writeName (name : List UInt8) : List UInt8 :=
  (if name = [] then [] else writeLabels [] name) ++ [0]

/-- `PJ_DNS_SET_RD` -/
def dnsSetRd (on_ : UInt16) : UInt16 := on_ <<< 8

/-- `pj_dns_make_query`: the octets that are written from `packet` on. -/
def pjDnsMakeQuery (size : UInt32) (id : UInt16) (qtype : Int32) (name : List UInt8) :
    Except DnsStatus (List UInt8) :=
  if qtype = 0 then .error .einval
  else if size.toNat < 12 + name.length + 4 then .error .ednsqrytoosmall
  else .ok (put16 id ++ put16 (dnsSetRd 1) ++ put16 1 ++ put16 0 ++ put16 0 ++ put16 0
    ++ writeName name ++ put16 qtype.toUInt32.toUInt16 ++ put16 1)

/-! ## What is meant -/

/-- One or more labels, which have their lengths in six bits, and no dots. -/
structure ProperLabels (labels : List (List UInt8)) : Prop where
  nonempty : labels ≠ []
  sized : ∀ label ∈ labels, 1 ≤ label.length ∧ label.length ≤ 63
  dotless : ∀ label ∈ labels, dot ∉ label

def dotted (labels : List (List UInt8)) : List UInt8 := [dot].intercalate labels

/-- `parse_query` has the length of the name, and four more, in an `int`. -/
def Countable (name : List UInt8) : Prop := name.length + 4 < 2 ^ 31

instance (name : List UInt8) : Decidable (Countable name) := inferInstanceAs (Decidable (_ < _))

/-- The packet is taken for the query that it was made for. -/
def Understood (packet : List UInt8) (id : UInt16) (qtype : Int32) (name : List UInt8) : Prop :=
  Countable name ∧ ∃ parsed query, (pjDnsParsePacket packet.length).run packet = .value parsed
    ∧ parsed.hdr.id = id ∧ parsed.q = [query] ∧ query.name = name
    ∧ (query.type.toNat : Int) = qtype.toInt ∧ query.dnsclass = 1

/-- A query is refused, or it fits in and is understood. -/
def Queried (size : UInt32) (id : UInt16) (qtype : Int32) (name : List UInt8) : Prop :=
  ∀ packet, pjDnsMakeQuery size id qtype name = .ok packet →
    packet.length ≤ size.toNat ∧ Understood packet id qtype name

/-! ## Writing -/

variable {label : List UInt8}

theorem writeLabels_label (dotless : dot ∉ label) (before rest : List UInt8) :
    writeLabels before (label ++ rest) = writeLabels (before ++ label) rest := by
  induction label generalizing before with
  | nil => rw [List.nil_append, List.append_nil]
  | cons c label ih =>
    rw [List.mem_cons, not_or] at dotless
    show (if c = dot then _ else writeLabels (before ++ [c]) (label ++ rest)) = _
    rw [if_neg (Ne.symm dotless.1), ih dotless.2, List.append_assoc]
    rfl

theorem dotted_ne_nil {labels : List (List UInt8)} (proper : ProperLabels labels) :
    dotted labels ≠ [] := by
  obtain ⟨nonempty, sized, -⟩ := proper
  match labels with
  | [] => exact absurd rfl nonempty
  | [] :: rest =>
    have := (sized [] (List.mem_cons_self ..)).1
    simp at this
  | (c :: label) :: rest =>
    rw [dotted, List.intercalate_cons_cons_left]
    exact List.cons_ne_nil _ _

variable {rest : List (List UInt8)}

theorem ProperLabels.tail {label next : List UInt8}
    (proper : ProperLabels (label :: next :: rest)) : ProperLabels (next :: rest) :=
  ⟨List.cons_ne_nil _ _, fun l inside => proper.sized l (List.mem_cons_of_mem _ inside),
    fun l inside => proper.dotless l (List.mem_cons_of_mem _ inside)⟩

theorem writeLabels_dotted {labels : List (List UInt8)} (proper : ProperLabels labels) :
    writeLabels [] (dotted labels) = labels.flatMap labelOctets := by
  induction labels with
  | nil => exact absurd rfl proper.nonempty
  | cons label rest ih =>
    have dotless := proper.dotless label (List.mem_cons_self ..)
    cases rest with
    | nil =>
      have whole := writeLabels_label dotless [] []
      rw [List.append_nil] at whole
      rw [dotted, List.intercalate_singleton, whole, List.flatMap_cons, List.flatMap_nil,
        List.append_nil]
      rfl
    | cons next rest =>
      rw [dotted, List.intercalate_cons_cons, List.append_assoc, writeLabels_label dotless,
        List.flatMap_cons, ← ih proper.tail]
      show (if dot = dot then labelOctets label ++ _ else _) = _
      rw [if_pos rfl, if_neg]
      · rfl
      · exact dotted_ne_nil proper.tail

theorem writeName_dotted {labels : List (List UInt8)} (proper : ProperLabels labels) :
    writeName (dotted labels) = labels.flatMap labelOctets ++ [0] := by
  rw [writeName, if_neg (dotted_ne_nil proper), writeLabels_dotted proper]

theorem labels_length {labels : List (List UInt8)} (nonempty : labels ≠ []) :
    (labels.flatMap labelOctets).length = (dotted labels).length + 1 := by
  induction labels with
  | nil => exact absurd rfl nonempty
  | cons label rest ih =>
    cases rest with
    | nil => simp [dotted, labelOctets]
    | cons next rest =>
      have rest_ := ih (List.cons_ne_nil _ _)
      unfold dotted at rest_ ⊢
      rw [List.intercalate_cons_cons, List.flatMap_cons, List.length_append, rest_]
      simp only [labelOctets, List.length_append, List.length_cons, List.length_nil]
      omega

/-! ## Reading -/

section Reading

variable {pkt : List UInt8}

theorem length_octet {n : Nat} (least : 1 ≤ n) (most : n ≤ 63) :
    (UInt8.ofNat n).toNat = n ∧ UInt8.ofNat n ≠ 0 ∧ isPointer (.ofNat n) = false := by
  have small : ∀ n < 64, isPointer (.ofNat n) = false := by decide
  have same : (UInt8.ofNat n).toNat = n := by
    exact Nat.mod_eq_of_lt (by omega)
  refine ⟨same, fun zero => ?_, small n (by omega)⟩
  rw [zero] at same
  change 0 = n at same
  omega

/-- What the walks through a name see of a label at `p`, behind which there are others, or the
root. -/
structure LabelAt (pkt : List UInt8) (p : Nat) (label : List UInt8) (last : Prop) : Prop where
  length : (Reader.octet p : DnsReader UInt8).run pkt = .value (.ofNat label.length)
  label_ : ∃ bytes : Octets (UInt8.ofNat label.length).toNat, bytes.1 = label
    ∧ (Reader.octets (p + 1) _ : DnsReader _).run pkt = .value bytes
  next : ∃ octet, (octet = 0 ↔ last)
    ∧ (Reader.octet (p + (label.length + 1)) : DnsReader UInt8).run pkt = .value octet
  fits : p + 1 + label.length + 1 ≤ pkt.length

variable {before after : List UInt8}

theorem split_next {p : Nat}
    (split : pkt = before ++ ((label :: rest).flatMap labelOctets ++ 0 :: after))
    (index : before.length = p) :
    pkt = (before ++ labelOctets label) ++ (rest.flatMap labelOctets ++ 0 :: after) ∧
      (before ++ labelOctets label).length = p + (label.length + 1) := by
  constructor
  · rw [split, List.flatMap_cons, List.append_assoc, List.append_assoc]
  · rw [List.length_append, index]
    rfl

theorem labelAt {p : Nat}
    (sized : ∀ l ∈ label :: rest, 1 ≤ l.length ∧ l.length ≤ 63)
    (split : pkt = before ++ ((label :: rest).flatMap labelOctets ++ 0 :: after))
    (index : before.length = p) : LabelAt pkt p label (rest = []) := by
  obtain ⟨least, most⟩ := sized label (List.mem_cons_self ..)
  obtain ⟨same, -, -⟩ := length_octet least most
  have whole : pkt = before
      ++ (UInt8.ofNat label.length :: (label ++ (rest.flatMap labelOctets ++ 0 :: after))) := by
    rw [split, List.flatMap_cons, labelOctets]
    simp only [List.append_assoc, List.cons_append]
  obtain ⟨behind, place⟩ := split_next split index
  refine ⟨octet_between before _ _ whole index, ⟨⟨label, same.symm⟩, rfl, ?_⟩, ?_, ?_⟩
  · refine octets_between (before ++ [UInt8.ofNat label.length]) ⟨label, same.symm⟩
      (rest.flatMap labelOctets ++ 0 :: after) ?_ ?_
    · rw [whole, List.append_assoc]
      rfl
    · rw [List.length_append, index]
      rfl
  · cases rest with
    | nil => exact ⟨0, iff_of_true rfl rfl, octet_between _ _ _ behind place⟩
    | cons l rest =>
      obtain ⟨leastNext, mostNext⟩ :=
        sized l (List.mem_cons_of_mem _ (List.mem_cons_self ..))
      obtain ⟨-, nonzero, -⟩ := length_octet leastNext mostNext
      refine ⟨.ofNat l.length, iff_of_false nonzero (List.cons_ne_nil _ _), ?_⟩
      refine octet_between (before ++ labelOctets label) _
        (l ++ (rest.flatMap labelOctets ++ 0 :: after)) ?_ place
      rw [behind, List.flatMap_cons]
      simp only [labelOctets, List.append_assoc, List.cons_append]
  · rw [behind, List.length_append, place, List.length_append, List.length_cons]
    omega

theorem nameLoops_labels (jump : Nat → DnsReader (Nat × Nat))
    (jump' : Nat → List UInt8 → DnsReader (List UInt8)) {labels : List (List UInt8)}
    (sized : ∀ label ∈ labels, 1 ≤ label.length ∧ label.length ≤ 63)
    {p fuel : Nat} (split : pkt = before ++ (labels.flatMap labelOctets ++ 0 :: after))
    (index : before.length = p) (enough : labels.length < fuel) (parsedLen nameLen : Nat)
    (name : List UInt8) :
    (nameLenLoop pkt.length jump fuel p parsedLen nameLen).run pkt
        = .value (parsedLen + (labels.flatMap labelOctets).length + 1,
            nameLen + (dotted labels).length)
      ∧ (nameLoop pkt.length jump' fuel p name).run pkt = .value (name ++ dotted labels) := by
  -- by induction on the labels: the first walk finds what they take, and how long the name is; the
  -- second copies the name
  induction labels generalizing before p fuel parsedLen nameLen name with
  | nil =>
    obtain ⟨fuel, rfl⟩ : ∃ n, fuel = n + 1 := ⟨fuel - 1, by omega⟩
    unfold nameLenLoop nameLoop
    rw [run_bind, octet_between before 0 after split index, bind_value, if_pos rfl, run_bind,
      octet_between before 0 after split index, bind_value, if_pos rfl]
    refine ⟨rfl, ?_⟩
    show Read.value name = _
    rw [dotted, List.intercalate_nil, List.append_nil]
  | cons label rest ih =>
    obtain ⟨fuel, rfl⟩ : ∃ n, fuel = n + 1 := ⟨fuel - 1, by omega⟩
    obtain ⟨least, most⟩ := sized label (List.mem_cons_self ..)
    obtain ⟨same, nonzero, plain⟩ := length_octet least most
    obtain ⟨length, ⟨bytes, copied, readLabel⟩, ⟨octet, last, readNext⟩, fits⟩ :=
      labelAt sized split index
    obtain ⟨behind, place⟩ := split_next split index
    have onwards := fun parsedLen nameLen name =>
      ih (fun l inside => sized l (List.mem_cons_of_mem _ inside)) behind place
        (Nat.lt_of_succ_lt_succ enough) parsedLen nameLen name
    constructor
    · unfold nameLenLoop
      rw [run_bind, length, bind_value, if_neg nonzero, if_neg (by rw [plain]; simp), same,
        if_neg (by omega), run_bind, readNext, bind_value, (onwards _ _ name).1, List.flatMap_cons]
      cases rest with
      | nil =>
        rw [if_neg (not_not.mpr (last.mpr rfl))]
        simp only [dotted, List.flatMap_nil, List.intercalate_nil, List.intercalate_singleton,
          List.append_nil, List.length_nil, labelOctets, List.length_cons]
        congr 2
      | cons l rest =>
        rw [if_pos (fun zero => List.cons_ne_nil _ _ (last.mp zero))]
        simp only [dotted, List.intercalate_cons_cons, List.length_append, labelOctets,
          List.length_cons, List.length_nil]
        congr 2 <;> omega
    · rw [← same] at readNext onwards
      unfold nameLoop
      rw [run_bind, length, bind_value, if_neg nonzero, if_neg (by rw [plain]; simp),
        if_neg (by rw [same]; omega), run_bind, readLabel, bind_value, run_bind, readNext,
        bind_value, (onwards 0 0 _).2, copied]
      cases rest with
      | nil =>
        rw [if_neg (not_not.mpr (last.mpr rfl))]
        simp only [dotted, List.intercalate_nil, List.intercalate_singleton, List.append_nil]
      | cons l rest =>
        rw [if_pos (fun zero => List.cons_ne_nil _ _ (last.mp zero))]
        simp only [dotted, List.intercalate_cons_cons, List.append_assoc]
        rfl

theorem length_le_labels (labels : List (List UInt8)) :
    labels.length ≤ (labels.flatMap labelOctets).length := by
  induction labels with
  | nil => rfl
  | cons label rest ih =>
    rw [List.flatMap_cons, List.length_append]
    simp only [labelOctets, List.length_cons]
    omega

theorem parseName_labels {labels : List (List UInt8)}
    (sized : ∀ label ∈ labels, 1 ≤ label.length ∧ label.length ≤ 63)
    {p : Nat} (split : pkt = before ++ (labels.flatMap labelOctets ++ 0 :: after))
    (index : before.length = p) :
    (parseName pkt.length p).run pkt
      = .value (dotted labels, (labels.flatMap labelOctets).length + 1) := by
  have size : pkt.length = p + ((labels.flatMap labelOctets).length + (after.length + 1)) := by
    rw [split, List.length_append, index, List.length_append, List.length_cons]
  have few := length_le_labels labels
  have walked := nameLoops_labels (getNameLen pkt.length 10) (getName pkt.length 10) sized split
    index (show labels.length < pkt.length by omega) 0 0 []
  rw [Nat.zero_add, Nat.zero_add] at walked
  have lengths : (getNameLen pkt.length nameDepth p).run pkt
      = .value ((labels.flatMap labelOctets).length + 1, (dotted labels).length) := by
    show (if pkt.length ≤ p then _ else nameLenLoop pkt.length _ pkt.length p 0 0 :
      DnsReader _).run pkt = _
    rw [if_neg (by omega), walked.1]
  have copied : (getName pkt.length nameDepth p []).run pkt = .value (dotted labels) := by
    show (if pkt.length ≤ p then _ else nameLoop pkt.length _ pkt.length p [] :
      DnsReader _).run pkt = _
    rw [if_neg (by omega), walked.2, List.nil_append]
  rw [parseName, run_bind, lengths, bind_value, run_bind, copied]
  rfl

end Reading

/-! ## The packet -/

section Packet

variable {labels : List (List UInt8)}

/-- The header of a query. -/
def queryHdr (id : UInt16) : List UInt8 :=
  put16 id ++ put16 (dnsSetRd 1) ++ put16 1 ++ put16 0 ++ put16 0 ++ put16 0

/-- A query for a name with these labels. -/
def queryPacket (labels : List (List UInt8)) (id type : UInt16) : List UInt8 :=
  queryHdr id ++ (labels.flatMap labelOctets ++ 0 :: (put16 type ++ put16 1))

theorem queryPacket_length (nonempty : labels ≠ []) (id type : UInt16) :
    (queryPacket labels id type).length = (dotted labels).length + 18 := by
  have size := labels_length nonempty
  simp only [queryPacket, queryHdr, List.length_append, List.length_cons, put16_length]
  omega

theorem parseHdr_query (id : UInt16) (rest : List UInt8) :
    parseHdr.run (queryHdr id ++ rest) = .value ⟨id, dnsSetRd 1, 1, 0, 0, 0⟩ := by
  have first : (field16 0 : DnsReader _).run (queryHdr id ++ rest) = .value id :=
    field16_between [] id _ rfl rfl
  have second : (field16 2 : DnsReader _).run (queryHdr id ++ rest) = .value (dnsSetRd 1) :=
    field16_between (put16 id) (dnsSetRd 1) _ rfl rfl
  have third : (field16 4 : DnsReader _).run (queryHdr id ++ rest) = .value 1 :=
    field16_between (put16 id ++ put16 (dnsSetRd 1)) 1 _ rfl rfl
  have fourth : (field16 6 : DnsReader _).run (queryHdr id ++ rest) = .value 0 :=
    field16_between (put16 id ++ put16 (dnsSetRd 1) ++ put16 1) 0 _ rfl rfl
  have fifth : (field16 8 : DnsReader _).run (queryHdr id ++ rest) = .value 0 :=
    field16_between (put16 id ++ put16 (dnsSetRd 1) ++ put16 1 ++ put16 0) 0 _ rfl rfl
  have sixth : (field16 10 : DnsReader _).run (queryHdr id ++ rest) = .value 0 :=
    field16_between (put16 id ++ put16 (dnsSetRd 1) ++ put16 1 ++ put16 0 ++ put16 0) 0 _ rfl rfl
  unfold parseHdr
  rw [run_bind, first, bind_value, run_bind, second, bind_value, run_bind, third, bind_value,
    run_bind, fourth, bind_value, run_bind, fifth, bind_value, run_bind, sixth]
  rfl

theorem parseQuery_query (sized : ∀ label ∈ labels, 1 ≤ label.length ∧ label.length ≤ 63)
    (id type : UInt16) :
    ∃ parsedLen, (parseQuery (queryPacket labels id type).length 12).run
      (queryPacket labels id type) = .value (⟨dotted labels, type, 1⟩, parsedLen) := by
  obtain ⟨pkt, packet⟩ : ∃ pkt, queryPacket labels id type = pkt := ⟨_, rfl⟩
  have split : pkt = queryHdr id ++ (labels.flatMap labelOctets ++ 0 :: (put16 type ++ put16 1)) :=
    packet.symm
  rw [packet]
  have name := parseName_labels sized split (show (queryHdr id).length = 12 from rfl)
  have front : (queryHdr id ++ (labels.flatMap labelOctets ++ [0])).length
      = 12 + ((labels.flatMap labelOctets).length + 1) := by
    rw [List.length_append, List.length_append]
    rfl
  have type_ : pkt = (queryHdr id ++ (labels.flatMap labelOctets ++ [0]))
      ++ (put16 type ++ put16 1) := by
    rw [split]
    simp only [List.append_assoc, List.cons_append, List.nil_append]
  have class_ : pkt = (queryHdr id ++ (labels.flatMap labelOctets ++ [0]) ++ put16 type)
      ++ (put16 1 ++ []) := by
    rw [type_, List.append_nil]
    simp only [List.append_assoc]
  have size : pkt.length = 12 + ((labels.flatMap labelOctets).length + 1) + 4 := by
    rw [type_, List.length_append, front]
    rfl
  refine ⟨(labels.flatMap labelOctets).length + 1 + 4, ?_⟩
  unfold parseQuery
  rw [run_bind, name, bind_value]
  dsimp only
  rw [if_neg (by omega), run_bind, field16_between _ type _ type_ front, bind_value, run_bind,
    field16_between _ 1 _ class_ (by rw [List.length_append, front]; rfl)]
  rfl

theorem parsePacket_query (sized : ∀ label ∈ labels, 1 ≤ label.length ∧ label.length ≤ 63)
    (id type : UInt16) :
    (pjDnsParsePacket (queryPacket labels id type).length).run (queryPacket labels id type)
      = .value ⟨⟨id, dnsSetRd 1, 1, 0, 0, 0⟩, [⟨dotted labels, type, 1⟩], [], [], []⟩ := by
  obtain ⟨parsedLen, query⟩ := parseQuery_query sized id type
  have size : 12 ≤ (queryPacket labels id type).length := by
    rw [queryPacket, List.length_append]
    exact Nat.le_add_right 12 _
  have hdr : parseHdr.run (queryPacket labels id type) = .value ⟨id, dnsSetRd 1, 1, 0, 0, 0⟩ :=
    parseHdr_query id _
  unfold pjDnsParsePacket parsePlaced
  show ((parseHdr >>= _).run _).bind _ = _
  rw [run_bind, hdr]
  show (((parseQuery _ 12 >>= _ : DnsReader _) >>= _ : DnsReader _).run _).bind _ = _
  rw [run_bind, run_bind, query]
  rfl

theorem makeQuery_ok {size : UInt32} {qtype : Int32} (id : UInt16) (proper : ProperLabels labels)
    (typed : qtype ≠ 0) (room : (dotted labels).length + 16 ≤ size.toNat) :
    pjDnsMakeQuery size id qtype (dotted labels)
      = .ok (queryPacket labels id qtype.toUInt32.toUInt16) := by
  unfold pjDnsMakeQuery
  rw [if_neg typed, if_neg (by omega), writeName_dotted proper]
  simp only [queryPacket, queryHdr, List.append_assoc, List.cons_append, List.nil_append]

theorem type_written (qtype : Int32) : (qtype.toUInt32.toUInt16.toNat : Int) = qtype.toInt
      ↔ 0 ≤ qtype.toInt ∧ qtype.toInt < 2 ^ 16 := by
  have low : qtype.toUInt32.toUInt16.toNat = qtype.toUInt32.toNat % 2 ^ 16 :=
    UInt32.toNat_toUInt16 _
  have whole : qtype.toInt = if 2 * qtype.toUInt32.toNat < 2 ^ 32 then
      (qtype.toUInt32.toNat : Int) else qtype.toUInt32.toNat - (2 ^ 32 : Nat) :=
    BitVec.toInt_eq_toNat_cond qtype.toBitVec
  rw [low, whole]
  split <;> omega

end Packet

/-- A query is refused, or fits in and is understood, exactly if the buffer has none of the two
sizes that are let through although they are too small, the type is one of 16 bits, and the name
is not too long to be read. -/
theorem make_query_queried_iff (labels : List (List UInt8)) (proper : ProperLabels labels)
    (size : UInt32) (id : UInt16) (qtype : Int32) :
    Queried size id qtype (dotted labels) ↔ qtype = 0 ∨ size.toNat < (dotted labels).length + 16
        ∨ (dotted labels).length + 18 ≤ size.toNat ∧ (0 ≤ qtype.toInt ∧ qtype.toInt < 2 ^ 16)
          ∧ Countable (dotted labels) := by
  by_cases refused : qtype = 0 ∨ size.toNat < (dotted labels).length + 16
  · refine iff_of_true (fun packet made => ?_) (refused.imp_right .inl)
    unfold pjDnsMakeQuery at made
    rcases refused with untyped | small
    · rw [if_pos untyped] at made
      cases made
    · by_cases untyped : qtype = 0
      · rw [if_pos untyped] at made
        cases made
      · rw [if_neg untyped, if_pos (by omega)] at made
        cases made
  · obtain ⟨typed, room⟩ := not_or.mp refused
    have made := makeQuery_ok id proper typed (Nat.le_of_not_lt room)
    have length := queryPacket_length proper.nonempty id qtype.toUInt32.toUInt16
    have parsed := parsePacket_query proper.sized id qtype.toUInt32.toUInt16
    rw [or_iff_right typed, or_iff_right room, ← length, ← type_written]
    constructor
    · intro queried
      obtain ⟨fits, counted, parsed', query, read, -, only, -, sameType, -⟩ := queried _ made
      rw [parsed] at read
      cases read
      cases only
      exact ⟨fits, sameType, counted⟩
    · rintro ⟨fits, sameType, counted⟩ packet same
      rw [made] at same
      cases same
      exact ⟨fits, counted, _, _, parsed, rfl, rfl, rfl, sameType, rfl⟩

section Examples

/-- "a.bc" -/
def shortName : List (List UInt8) := [[0x61], [0x62, 0x63]]

theorem shortName_queried : Queried 22 7 33 (dotted shortName) :=
  (make_query_queried_iff shortName ⟨by decide, by decide, by decide⟩ 22 7 33).mpr
    (.inr (.inr ⟨by decide, by decide, by decide⟩))

/-- For a buffer of 20 octets, the query has 22. -/
theorem shortName_overflows : ¬ Queried 20 7 33 (dotted shortName) := by
  intro queried
  have fits := (queried _ rfl).1
  exact absurd fits (by decide)

end Examples

end Pjsip.PjlibUtil.Dns
