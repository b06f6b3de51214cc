import Pjsip.Base.Buffer
import Pjsip.Base.Extents
import Pjsip.Base.Octets
import Pjsip.Base.Run

/-!
# The FIFO allocator (`fifobuf.c`)

Blocks are taken from a buffer behind each other, with their sizes in front of them, and from the
start of the buffer again when there is no room at the end of it. What is left over at the end is
passed over then, and nothing says how much that is.
-/

namespace Pjsip.Pjlib.Fifo

open Pjsip.Base

/-! ## The model -/

/-- `SZ`, a `size_t`: sums with it do not wrap around. -/
def sz : Nat := 4

/-- `pj_fifobuf_t`: places are counted from `first`, and `last` is the size of the buffer. -/
structure Fifobuf where
  last : Nat
  ubegin : Nat
  uend : Nat
  full : Bool
  memory : Buffer

/-- `pj_fifobuf_init` -/
def pjFifobufInit (memory : Buffer) (size : UInt32) : Fifobuf where
  last := size.toNat
  ubegin := 0
  uend := 0
  full := false
  memory := memory

/-- The size in front of a block, in whichever order its octets are. -/
def sizeAt (memory : Buffer) (ptr : Nat) : UInt32 := value32 (memory.slice ptr 4)

/-- A block at `ptr`, which brings the end to `uend`. -/
def Fifobuf.take (f : Fifobuf) (ptr uend : Nat) (size : UInt32) : Option Nat × Fifobuf :=
  (some (ptr + sz),
    { f with
      uend
      full := uend = f.ubegin
      memory := f.memory.store ptr (put32 (UInt32.ofNat (size.toNat + sz))) })

/-- `pj_fifobuf_alloc` -/
def pjFifobufAlloc (f : Fifobuf) (size : UInt32) : Option Nat × Fifobuf :=
  if f.full then (none, f)
  else if f.ubegin ≤ f.uend ∧ size.toNat + sz ≤ f.last - f.uend then
    -- from the end part
    let uend := f.uend + (size.toNat + sz)
    f.take f.uend (if uend = f.last then 0 else uend) size
  else
    -- from the start part
    let start := if f.uend ≤ f.ubegin then f.uend else 0
    if size.toNat + sz ≤ f.ubegin - start then f.take start (start + (size.toNat + sz)) size
    else (none, f)

/-- `pj_fifobuf_unalloc` -/
def pjFifobufUnalloc (f : Fifobuf) (buf : Nat) : Int × Fifobuf :=
  let ptr := buf - sz
  let size := sizeAt f.memory ptr
  let endptr := if f.uend = 0 then f.last else f.uend
  if ptr + size.toNat ≠ endptr then (-1, f) else (0, { f with uend := ptr, full := false })

/-- The end of `pj_fifobuf_free`, with the place that `ubegin` comes to. -/
def Fifobuf.release (f : Fifobuf) (ubegin : Nat) : Fifobuf :=
  let ubegin := if ubegin = f.last then 0 else ubegin
  if ubegin = f.uend then { f with ubegin := 0, uend := 0, full := false }
  else { f with ubegin, full := false }

/-- `pj_fifobuf_free` -/
def pjFifobufFree (f : Fifobuf) (buf : Nat) : Int × Fifobuf :=
  let ptr := buf - sz
  if f.last ≤ ptr then (-1, f)
  else if ptr ≠ f.ubegin ∧ ptr ≠ 0 then (-1, f)
  else
    let stop := if f.ubegin < f.uend then f.uend else f.last
    let size := sizeAt f.memory ptr
    if stop < ptr + size.toNat then (-1, f) else (0, f.release (ptr + size.toNat))

/-! ## Runs -/

/-- A block that has been returned, with the size that was asked for. -/
structure Block where
  buf : Nat
  size : UInt32
  deriving DecidableEq, Repr

/-- The allocator, and the live blocks, the oldest first. -/
structure State where
  fifobuf : Fifobuf
  live : List Block

/-- The oldest live block is freed, the newest one is unallocated. In between, the octets of the
live block at index `i` are written by who owns it. -/
inductive Op where
  | alloc (size : UInt32)
  | free
  | unalloc
  | write (i : Nat) (octets : List UInt8)
  deriving DecidableEq, Repr

def State.write (s : State) (i : Nat) (octets : List UInt8) : State :=
  match s.live[i]? with
  | some block =>
    { s with fifobuf := { s.fifobuf with
        memory := s.fifobuf.memory.store block.buf (octets.take block.size.toNat) } }
  | none => s

/-- A block that has been returned is the newest one. -/
def State.alloc (s : State) (size : UInt32) : State :=
  let allocated := pjFifobufAlloc s.fifobuf size
  { fifobuf := allocated.2, live := s.live ++ (allocated.1.map (Block.mk · size)).toList }

/-- The status is 0 for what has none; there is no call when there is no live block. -/
def step (s : State) : Op → Option (State × Int)
  | .alloc size => some (s.alloc size, 0)
  | .free =>
    match s.live with
    | block :: live =>
      let freed := pjFifobufFree s.fifobuf block.buf
      some ({ fifobuf := freed.2, live }, freed.1)
    | [] => some (s, 0)
  | .unalloc =>
    match s.live.getLast? with
    | some block =>
      let undone := pjFifobufUnalloc s.fifobuf block.buf
      some ({ fifobuf := undone.2, live := s.live.dropLast }, undone.1)
    | none => some (s, 0)
  | .write i octets => some (s.write i octets, 0)

def State.start (memory : Buffer) (size : UInt32) : State where
  fifobuf := pjFifobufInit memory size
  live := []

/-- A block and the size in front of it. -/
def Block.extent (block : Block) : Extent where
  start := block.buf - 4
  size := block.size.toNat + 4

/-- The live blocks are inside of the buffer, with room for the sizes in front of them, and apart
from each other. -/
structure State.Sound (s : State) : Prop where
  inside : ∀ block ∈ s.live, 4 ≤ block.buf ∧ block.extent.stop ≤ s.fifobuf.last
  apart : (s.live.map Block.extent).Pairwise Extent.Apart

def Succeeds (_s : State) (_op : Op) (s' : State) (status : Int) : Prop := s'.Sound ∧ status = 0

/-! ## The sizes in front of the blocks -/

/-- The size that was asked for can be counted with the header, and stands in front of the block. -/
structure Headed (memory : Buffer) (block : Block) : Prop where
  behind : 4 ≤ block.buf
  counted : block.size.toNat + 4 < 2 ^ 32
  size : sizeAt memory (block.buf - 4) = UInt32.ofNat (block.size.toNat + sz)

section Headed

variable {memory : Buffer} {block : Block}

theorem Headed.stop (headed : Headed memory block) :
    block.buf - 4 + (sizeAt memory (block.buf - 4)).toNat = block.extent.stop := by
  rw [headed.size, sz, UInt32.toNat_ofNat_of_lt' headed.counted]
  rfl

theorem Headed.store (headed : Headed memory block) {pos : Nat} {octets : List UInt8}
    (elsewhere : block.buf ≤ pos ∨ pos + octets.length ≤ block.buf - 4) :
    Headed (memory.store pos octets) block := by
  have behind := headed.behind
  refine ⟨behind, headed.counted, ?_⟩
  have size := headed.size
  unfold sizeAt at size ⊢
  rcases elsewhere with after | before
  · rw [Buffer.slice_store_before memory (by omega)]
    exact size
  · rw [Buffer.slice_store_after memory before]
    exact size

theorem headed_new (memory : Buffer) (ptr : Nat) {size : UInt32}
    (counted : size.toNat + 4 < 2 ^ 32) :
    Headed (memory.store ptr (put32 (UInt32.ofNat (size.toNat + sz)))) ⟨ptr + 4, size⟩ := by
  refine ⟨Nat.le_add_left .., counted, ?_⟩
  show value32 (Buffer.slice _ (ptr + 4 - 4) 4) = _
  rw [Nat.add_sub_cancel]
  have stored := Buffer.slice_store memory ptr (put32 (UInt32.ofNat (size.toNat + sz)))
  rw [put32_length] at stored
  rw [stored, value32_put32]

end Headed

/-! ## Where the live blocks are -/

/-- One behind the other from `ubegin` to `uend`. -/
structure Linear (f : Fifobuf) (live : List Block) : Prop where
  adjoin : Adjoin f.ubegin (live.map Block.extent) f.uend
  within : f.uend ≤ f.last
  before : live ≠ [] → f.uend < f.last
  free : f.full = false

/-- The older ones from `ubegin` to a gap at the end of the buffer, the newer ones from the start
of the buffer to `uend`. -/
structure Wrapped (f : Fifobuf) (older newer : List Block) (gap : Nat) : Prop where
  older : Adjoin f.ubegin (older.map Block.extent) gap
  newer : Adjoin 0 (newer.map Block.extent) f.uend
  ordered : f.uend ≤ f.ubegin
  before : f.ubegin < f.last
  within : gap ≤ f.last
  full : f.full = decide (f.uend = f.ubegin)

inductive Placed (f : Fifobuf) : List Block → Prop
  | linear {live : List Block} (linear : Linear f live) : Placed f live
  | wrapped {older newer : List Block} {gap : Nat} (wrapped : Wrapped f older newer gap) :
      Placed f (older ++ newer)

structure Inv (s : State) : Prop where
  headed : ∀ block ∈ s.live, Headed s.fifobuf.memory block
  placed : Placed s.fifobuf s.live

theorem Placed.within {f : Fifobuf} {live : List Block} (placed : Placed f live) :
    (∀ block ∈ live, block.extent.stop ≤ f.last)
      ∧ (live.map Block.extent).Pairwise Extent.Apart := by
  cases placed with
  | linear linear =>
    refine ⟨fun block inside => ?_, linear.adjoin.apart⟩
    exact (linear.adjoin.within _ (List.mem_map_of_mem inside)).2.trans linear.within
  | @wrapped older newer gap wrapped =>
    have ordered := wrapped.ordered
    have before := wrapped.before
    refine ⟨fun block inside => ?_, ?_⟩
    · rcases List.mem_append.1 inside with old | new
      · exact (wrapped.older.within _ (List.mem_map_of_mem old)).2.trans wrapped.within
      · have := (wrapped.newer.within _ (List.mem_map_of_mem new)).2
        omega
    · rw [List.map_append]
      exact apart_append wrapped.older wrapped.newer ordered

variable {s : State}

theorem Inv.sound (inv : Inv s) : s.Sound where
  inside block inside := ⟨(inv.headed block inside).behind, inv.placed.within.1 block inside⟩
  apart := inv.placed.within.2

theorem Placed.memory {f : Fifobuf} {live : List Block} (placed : Placed f live)
    (memory : Buffer) : Placed { f with memory } live := by
  cases placed with
  | linear linear => exact .linear { linear with }
  | wrapped wrapped =>
    exact .wrapped { wrapped with }

theorem start_inv (memory : Buffer) (size : UInt32) : Inv (State.start memory size) where
  headed := nofun
  placed := .linear ⟨.nil 0, Nat.zero_le _, fun more => absurd rfl more, rfl⟩

/-! ## Writing -/

theorem write_inv (inv : Inv s) (i : Nat) (octets : List UInt8) :
    Inv (s.write i octets) := by
  unfold State.write
  cases found : s.live[i]? with
  | none => exact inv
  | some block =>
    have mem : block ∈ s.live := List.mem_of_getElem? found
    refine ⟨fun other inside => ?_, inv.placed.memory _⟩
    have size : (octets.take block.size.toNat).length ≤ block.size.toNat := by
      rw [List.length_take]
      exact Nat.min_le_left ..
    refine (inv.headed other inside).store ?_
    have own := (inv.headed block mem).behind
    by_cases same : other.extent = block.extent
    · have start := congrArg Extent.start same
      simp only [Block.extent] at start
      omega
    · have apart := inv.placed.within.2.forall (List.mem_map_of_mem inside)
        (List.mem_map_of_mem mem) same
      simp only [Extent.Apart, Extent.stop, Block.extent] at apart
      omega

/-! ## Allocating -/

section Alloc

variable {f : Fifobuf} {live : List Block} {size : UInt32}

theorem headed_take {ptr uend : Nat} (headed : ∀ block ∈ live, Headed f.memory block)
    (counted : size.toNat + 4 < 2 ^ 32)
    (apart : ∀ block ∈ live, block.extent.stop ≤ ptr ∨ ptr + size.toNat + 4 ≤ block.extent.start) :
    ∀ block ∈ live ++ [⟨ptr + 4, size⟩], Headed (f.take ptr uend size).2.memory block := by
  intro block inside
  rcases List.mem_append.1 inside with old | new
  · refine (headed block old).store ?_
    have elsewhere := apart block old
    simp only [Extent.stop, Block.extent] at elsewhere
    rw [put32_length]
    omega
  · rw [List.mem_singleton.1 new]
    exact headed_new f.memory ptr counted

theorem alloc_inv (inv : Inv s) (small : s.fifobuf.last < 2 ^ 32) (size : UInt32) :
    Inv (s.alloc size) := by
  obtain ⟨f, live⟩ := s
  obtain ⟨headed, placed⟩ := inv
  dsimp only at headed placed small
  unfold State.alloc
  have refused : Inv ⟨f, live ++ ((none : Option Nat).map (Block.mk · size)).toList⟩ := by
    simpa using Inv.mk headed placed
  unfold pjFifobufAlloc
  rw [show size.toNat + sz = size.toNat + 4 from rfl]
  cases full : f.full with
  | true => simpa using refused
  | false =>
    dsimp only
    rw [if_neg Bool.false_ne_true]
    cases placed with
    | linear linear =>
      have onwards := linear.adjoin.le
      have within := linear.within
      by_cases room : f.ubegin ≤ f.uend ∧ size.toNat + 4 ≤ f.last - f.uend
      · rw [if_pos room]
        have adjoin : Adjoin f.ubegin ((live ++ [Block.mk (f.uend + 4) size]).map Block.extent)
            (f.uend + (size.toNat + 4)) := by
          rw [List.map_append]
          exact linear.adjoin.append (.cons ⟨f.uend, _⟩ (Nat.succ_pos _) (.nil _))
        refine ⟨headed_take headed (by omega) fun block inside => .inl ?_, ?_⟩
        · exact (linear.adjoin.within _ (List.mem_map_of_mem inside)).2
        · by_cases last : f.uend + (size.toNat + 4) = f.last
          · -- up to the end of the buffer: the next block is at its start
            rw [if_pos last]
            rw [last] at adjoin
            have wrapped : Wrapped (f.take f.uend 0 size).2 (live ++ [⟨f.uend + 4, size⟩]) []
                f.last := by
              refine ⟨adjoin, .nil 0, Nat.zero_le _, ?_, Nat.le_refl _, rfl⟩
              show f.ubegin < f.last
              omega
            have placed := Placed.wrapped wrapped
            rw [List.append_nil] at placed
            exact placed
          · rw [if_neg last]
            refine .linear ⟨adjoin, ?_, fun _ => ?_, ?_⟩
            · show f.uend + (size.toNat + 4) ≤ f.last
              omega
            · show f.uend + (size.toNat + 4) < f.last
              omega
            · show decide (f.uend + (size.toNat + 4) = f.ubegin) = false
              rw [decide_eq_false_iff_not]
              omega
      · rw [if_neg room]
        by_cases nothing : f.uend ≤ f.ubegin
        · rw [if_pos nothing, if_neg (by omega)]
          exact refused
        · rw [if_neg nothing, Nat.zero_add]
          -- the gap at the end is skipped
          by_cases front : size.toNat + 4 ≤ f.ubegin - 0
          · rw [if_pos front]
            refine ⟨headed_take headed (by omega) fun block inside => .inr ?_, ?_⟩
            · have := (linear.adjoin.within _ (List.mem_map_of_mem inside)).1
              omega
            · refine @Placed.wrapped _ live _ _ ⟨linear.adjoin, ?_, ?_, ?_, within, rfl⟩
              · exact .cons ⟨0, _⟩ (Nat.succ_pos _) (by simp [Extent.stop, Fifobuf.take])
              · show size.toNat + 4 ≤ f.ubegin
                omega
              · show f.ubegin < f.last
                omega
          · rw [if_neg front]
            exact refused
    | @wrapped older newer gap wrapped =>
      have ordered := wrapped.ordered
      have before := wrapped.before
      have room : f.uend ≠ f.ubegin := by
        rw [wrapped.full] at full
        exact of_decide_eq_false full
      rw [if_neg (by omega), if_pos ordered]
      by_cases fits : size.toNat + 4 ≤ f.ubegin - f.uend
      · rw [if_pos fits]
        show Inv ⟨_, (older ++ newer) ++ [Block.mk (f.uend + 4) size]⟩
        refine ⟨headed_take headed (by omega) fun block inside => ?_, ?_⟩
        · rcases List.mem_append.1 inside with old | new
          · have := (wrapped.older.within _ (List.mem_map_of_mem old)).1
            right
            omega
          · exact .inl (wrapped.newer.within _ (List.mem_map_of_mem new)).2
        · rw [List.append_assoc]
          refine .wrapped ⟨wrapped.older, ?_, ?_, wrapped.before, wrapped.within, rfl⟩
          · rw [List.map_append]
            exact wrapped.newer.append (.cons ⟨f.uend, _⟩ (Nat.succ_pos _) (.nil _))
          · show f.uend + (size.toNat + 4) ≤ f.ubegin
            omega
      · rw [if_neg fits]
        exact refused

end Alloc

/-! ## Freeing the oldest block -/

section Free

variable {f : Fifobuf} {live : List Block} {block : Block}

theorem release_linear (adjoin : Adjoin block.extent.stop (live.map Block.extent) f.uend)
    (before : f.uend < f.last) : Placed (f.release block.extent.stop) live := by
  have onwards := adjoin.le
  have inside : block.extent.stop ≠ f.last := by omega
  unfold Fifobuf.release
  rw [if_neg inside]
  by_cases empty : block.extent.stop = f.uend
  · rw [if_pos empty]
    rw [List.map_eq_nil_iff.1 (adjoin.eq_nil (Nat.le_of_eq empty.symm))]
    exact .linear ⟨.nil 0, Nat.zero_le _, fun more => absurd rfl more, rfl⟩
  · rw [if_neg empty]
    exact .linear ⟨adjoin, Nat.le_of_lt before, fun _ => before, rfl⟩

theorem free_inv (inv : Inv ⟨f, block :: live⟩) :
    ∃ f', pjFifobufFree f block.buf = (0, f') ∧ Inv ⟨f', live⟩ := by
  obtain ⟨headed, placed⟩ := inv
  change Placed f (block :: live) at placed
  have own : Headed f.memory block := headed block List.mem_cons_self
  have stop := own.stop
  -- the memory stays
  have keeps (ubegin : Nat) : ∀ other ∈ live, Headed (f.release ubegin).memory other := by
    intro other inside
    have same : (f.release ubegin).memory = f.memory := by
      unfold Fifobuf.release
      dsimp only
      split <;> split <;> rfl
    rw [same]
    exact headed other (List.mem_cons_of_mem _ inside)
  suffices passes : block.buf - 4 < f.last ∧ (block.buf - 4 = f.ubegin ∨ block.buf - 4 = 0)
      ∧ block.extent.stop ≤ (if f.ubegin < f.uend then f.uend else f.last)
      ∧ Placed (f.release block.extent.stop) live by
    obtain ⟨inside, oldest, within, placed⟩ := passes
    refine ⟨f.release block.extent.stop, ?_, keeps _, placed⟩
    show (if f.last ≤ block.buf - 4 then _
      else if block.buf - 4 ≠ f.ubegin ∧ block.buf - 4 ≠ 0 then _ else _) = _
    rw [if_neg (by omega), if_neg (by omega)]
    show (if _ < block.buf - 4 + (sizeAt f.memory (block.buf - 4)).toNat then _
      else (0, f.release (block.buf - 4 + (sizeAt f.memory (block.buf - 4)).toNat))) = _
    rw [stop, if_neg (by omega)]
  generalize whole : block :: live = all at placed
  cases placed with
  | linear linear =>
    subst whole
    have before := linear.before (List.cons_ne_nil _ _)
    obtain ⟨start, more, rest⟩ := adjoin_cons.1 linear.adjoin
    have onwards := rest.le
    have positive : block.extent.start < block.extent.stop := Nat.lt_add_of_pos_right more
    have begins : block.buf - 4 = f.ubegin := start
    refine ⟨by omega, .inl begins, ?_, release_linear rest before⟩
    rw [if_pos (by omega)]
    exact onwards
  | @wrapped older newer gap wrapped =>
    have ordered := wrapped.ordered
    have before := wrapped.before
    have within := wrapped.within
    rw [if_neg (by omega)]
    cases older with
    | nil =>
      -- only the blocks at the start of the buffer are left
      have same : newer = block :: live := whole.symm
      have newerAdjoin := wrapped.newer
      rw [same] at newerAdjoin
      obtain ⟨start, more, rest⟩ := adjoin_cons.1 newerAdjoin
      have onwards := rest.le
      exact ⟨by show block.extent.start < _; omega, .inr start, by omega,
        release_linear rest (by omega)⟩
    | cons first older =>
      cases whole
      obtain ⟨start, more, rest⟩ := adjoin_cons.1 wrapped.older
      have onwards := rest.le
      have positive : block.extent.start < block.extent.stop := Nat.lt_add_of_pos_right more
      refine ⟨by show block.extent.start < _; omega, .inl start, by omega, ?_⟩
      unfold Fifobuf.release
      by_cases last : block.extent.stop = f.last
      · -- the gap is behind it
        rw [if_pos last]
        have empty : older = [] := List.map_eq_nil_iff.1 (rest.eq_nil (by omega))
        subst empty
        change Placed _ newer
        by_cases empty : 0 = f.uend
        · rw [if_pos empty]
          rw [List.map_eq_nil_iff.1 (wrapped.newer.eq_nil (Nat.le_of_eq empty.symm))]
          exact .linear ⟨.nil 0, Nat.zero_le _, fun more => absurd rfl more, rfl⟩
        · rw [if_neg empty]
          refine .linear ⟨wrapped.newer, ?_, fun _ => ?_, rfl⟩
          · show f.uend ≤ f.last
            omega
          · show f.uend < f.last
            omega
      · rw [if_neg last, if_neg (by omega)]
        refine .wrapped ⟨rest, wrapped.newer, ?_, ?_, within, ?_⟩
        · show f.uend ≤ block.extent.stop
          omega
        · show block.extent.stop < f.last
          omega
        · show false = decide (f.uend = block.extent.stop)
          rw [eq_comm, decide_eq_false_iff_not]
          omega

end Free

/-! ## Unallocating the newest block -/

/-- The newest live block ends in front of the end of the buffer, but the next one would be at the
start: the blocks that were there have been unallocated. -/
def Stranded (s : State) : Prop :=
  ∃ block, s.live.getLast? = some block ∧ s.fifobuf.uend = 0 ∧ block.extent.stop ≠ s.fifobuf.last

section Unalloc

variable {f : Fifobuf} {live : List Block} {block : Block}

theorem unalloc_eq (own : Headed f.memory block) : pjFifobufUnalloc f block.buf
      = if block.extent.stop ≠ (if f.uend = 0 then f.last else f.uend) then (-1, f)
        else (0, { f with uend := block.extent.start, full := false }) := by
  have stop := own.stop
  show (if block.buf - 4 + (sizeAt f.memory (block.buf - 4)).toNat ≠ _ then _ else _) = _
  rw [stop]
  rfl

theorem unalloc_stranded (inv : Inv ⟨f, live ++ [block]⟩) (start : f.uend = 0)
    (stranded : block.extent.stop ≠ f.last) : pjFifobufUnalloc f block.buf = (-1, f) := by
  rw [unalloc_eq (inv.headed block (by simp)), if_pos start, if_pos stranded]

theorem unalloc_inv (inv : Inv ⟨f, live ++ [block]⟩)
    (fine : f.uend = 0 → block.extent.stop = f.last) :
    ∃ f', pjFifobufUnalloc f block.buf = (0, f') ∧ Inv ⟨f', live⟩ := by
  obtain ⟨headed, placed⟩ := inv
  change Placed f (live ++ [block]) at placed
  rw [unalloc_eq (headed block (by simp))]
  have keeps : ∀ other ∈ live, Headed f.memory other := fun other inside =>
    headed other (List.mem_append_left _ inside)
  suffices passes : block.extent.stop = (if f.uend = 0 then f.last else f.uend)
      ∧ Placed { f with uend := block.extent.start, full := false } live by
    rw [if_neg (not_not.2 passes.1)]
    exact ⟨_, rfl, keeps, passes.2⟩
  generalize whole : live ++ [block] = all at placed
  cases placed with
  | linear linear =>
    subst whole
    have adjoin := linear.adjoin
    rw [List.map_append] at adjoin
    obtain ⟨rest, more, stop⟩ := adjoin.last
    have before := linear.before (by simp)
    have positive : block.extent.start < block.extent.stop := Nat.lt_add_of_pos_right more
    refine ⟨?_, .linear ⟨rest, ?_, fun _ => ?_, rfl⟩⟩
    · rw [if_neg (by omega), stop]
    · show block.extent.start ≤ f.last
      omega
    · show block.extent.start < f.last
      omega
  | @wrapped older newer gap wrapped =>
    have ordered := wrapped.ordered
    have before := wrapped.before
    rcases List.eq_nil_or_concat newer with empty | ⟨newer, last, ends⟩
    · -- it is in front of the end of the buffer
      subst empty
      have same : live ++ [block] = older := whole.trans (List.append_nil older)
      subst same
      have start : f.uend = 0 := (adjoin_nil.1 wrapped.newer).symm
      have adjoin := wrapped.older
      rw [List.map_append] at adjoin
      obtain ⟨rest, more, stop⟩ := adjoin.last
      have ends := fine start
      have positive : block.extent.start < block.extent.stop := Nat.lt_add_of_pos_right more
      refine ⟨?_, .linear ⟨rest, ?_, fun _ => ?_, rfl⟩⟩
      · rw [if_pos start, ends]
      · show block.extent.start ≤ f.last
        omega
      · show block.extent.start < f.last
        omega
    · subst ends
      change live ++ [block] = older ++ newer.concat last at whole
      rw [List.concat_eq_append, ← List.append_assoc] at whole
      obtain ⟨same, own⟩ := List.append_inj' whole rfl
      cases own
      have adjoin := wrapped.newer
      rw [List.concat_eq_append, List.map_append] at adjoin
      obtain ⟨rest, more, stop⟩ := adjoin.last
      have positive : block.extent.start < block.extent.stop := Nat.lt_add_of_pos_right more
      refine ⟨?_, ?_⟩
      · rw [if_neg (by omega), stop]
      · rw [same]
        refine .wrapped ⟨wrapped.older, rest, ?_, before, wrapped.within, ?_⟩
        · show block.extent.start ≤ f.ubegin
          omega
        · show false = decide (block.extent.start = f.ubegin)
          rw [eq_comm, decide_eq_false_iff_not]
          omega

end Unalloc

/-! ## Runs of calls -/

/-- No unallocation of a block that is stranded. -/
def Careful (s : State) : Op → Prop
  | .unalloc => ¬ Stranded s
  | _ => True

@[simp] theorem free_last (f : Fifobuf) (buf : Nat) : (pjFifobufFree f buf).2.last = f.last := by
  unfold pjFifobufFree Fifobuf.release
  dsimp only
  split_ifs <;> rfl

@[simp] theorem unalloc_last (f : Fifobuf) (buf : Nat) :
    (pjFifobufUnalloc f buf).2.last = f.last := by
  unfold pjFifobufUnalloc
  dsimp only
  split_ifs <;> rfl

@[simp] theorem alloc_last (f : Fifobuf) (size : UInt32) :
    (pjFifobufAlloc f size).2.last = f.last := by
  unfold pjFifobufAlloc Fifobuf.take
  dsimp only
  split_ifs <;> rfl

theorem step_last {s s' : State} {op : Op} {status : Int} (taken : step s op = some (s', status)) :
    s'.fifobuf.last = s.fifobuf.last := by
  obtain ⟨f, live⟩ := s
  cases op with
  | alloc size =>
    cases taken
    exact alloc_last f size
  | free =>
    cases live with
    | nil =>
      cases taken
      rfl
    | cons block rest =>
      cases taken
      exact free_last f block.buf
  | unalloc =>
    unfold step at taken
    dsimp only at taken
    generalize live.getLast? = newest at taken
    cases newest with
    | none =>
      cases taken
      rfl
    | some block =>
      cases taken
      exact unalloc_last f block.buf
  | write i octets =>
    cases taken
    unfold State.write
    cases live[i]? <;> rfl

theorem careful_succeeds {op : Op} (inv : Inv s) (small : s.fifobuf.last < 2 ^ 32)
    (careful : Careful s op) :
    ∃ s' status, step s op = some (s', status) ∧ Succeeds s op s' status ∧ Inv s' := by
  cases op with
  | alloc size =>
    have inv' := alloc_inv inv small size
    exact ⟨_, _, rfl, ⟨inv'.sound, rfl⟩, inv'⟩
  | free =>
    obtain ⟨f, live⟩ := s
    cases live with
    | nil => exact ⟨_, _, rfl, ⟨inv.sound, rfl⟩, inv⟩
    | cons block live =>
      obtain ⟨f', freed, inv'⟩ := free_inv inv
      refine ⟨⟨f', live⟩, 0, ?_, ⟨inv'.sound, rfl⟩, inv'⟩
      show some (State.mk (pjFifobufFree f block.buf).2 live, (pjFifobufFree f block.buf).1) = _
      rw [freed]
  | unalloc =>
    obtain ⟨f, live⟩ := s
    rcases List.eq_nil_or_concat live with rfl | ⟨live, block, rfl⟩
    · exact ⟨_, _, rfl, ⟨inv.sound, rfl⟩, inv⟩
    · rw [List.concat_eq_append] at *
      have newest : (live ++ [block]).getLast? = some block := List.getLast?_concat
      obtain ⟨f', undone, inv'⟩ := unalloc_inv inv fun start => by
        by_contra stranded
        exact careful ⟨block, newest, start, stranded⟩
      refine ⟨⟨f', live⟩, 0, ?_, ⟨inv'.sound, rfl⟩, inv'⟩
      unfold step
      rw [newest]
      dsimp only
      rw [undone, List.dropLast_concat]
  | write i octets =>
    have inv' := write_inv inv i octets
    exact ⟨_, _, rfl, ⟨inv'.sound, rfl⟩, inv'⟩

theorem careless_fails {s s' : State} {op : Op} {status : Int} (inv : Inv s)
    (careless : ¬ Careful s op) (taken : step s op = some (s', status)) :
    ¬ Succeeds s op s' status := by
  cases op with
  | alloc size => exact absurd trivial careless
  | free => exact absurd trivial careless
  | unalloc =>
    obtain ⟨block, newest, start, stranded⟩ := not_not.1 careless
    obtain ⟨f, live⟩ := s
    obtain ⟨rest, whole⟩ := List.getLast?_eq_some_iff.1 newest
    subst whole
    have refused := unalloc_stranded inv start stranded
    unfold step at taken
    rw [newest] at taken
    dsimp only at taken
    rw [refused] at taken
    cases taken
    rintro ⟨-, success⟩
    cases success
  | write i octets => exact absurd trivial careless

/-- All calls of a run return sound blocks and succeed exactly if none of them unallocates a block
that is stranded. -/
theorem fifobuf_succeeds_iff (memory : Buffer) (size : UInt32) (ops : List Op) :
    Stepwise step Succeeds (State.start memory size) ops
      ↔ Along step Careful (State.start memory size) ops := by
  have allowed (s : State) : Along step (fun _ _ => True) s ops := by
    induction ops generalizing s with
    | nil => trivial
    | cons op ops ih => exact ⟨trivial, fun s' _ _ => ih s'⟩
  refine Along.stepwise_iff_breaks (I := fun s => Inv s ∧ s.fifobuf.last < 2 ^ 32) ?_ ?_
    (allowed _) ⟨start_inv memory size, size.toNat_lt⟩
  · rintro s op ⟨inv, small⟩ - careful
    obtain ⟨s', status, taken, succeeds, inv'⟩ := careful_succeeds inv small careful
    exact ⟨s', status, taken, succeeds, inv', by rw [step_last taken]; exact small⟩
  · rintro s op s' status ⟨inv, -⟩ - careless taken
    exact careless_fails inv careless taken

section Examples

/-- Twenty octets: a block of 6, which is freed behind one of 4, one at the start of the buffer in
front of a gap, which is unallocated, and then the one of 4. -/
def stranding : List Op := [.alloc 6, .alloc 4, .free, .alloc 2, .unalloc, .unalloc]

theorem unalloc_refused :
    ¬ Stepwise step Succeeds (State.start { cells := fun _ => 0, stored := [] } 20) stranding := by
  rintro ⟨s₁, _, ⟨⟩, -, s₂, _, ⟨⟩, -, s₃, _, ⟨⟩, -, s₄, _, ⟨⟩, -, s₅, _, ⟨⟩, -, s₆, _, ⟨⟩, ⟨-, zero⟩, -⟩
  exact absurd zero (by decide)

end Examples

end Pjsip.Pjlib.Fifo
