/-
# Rewind.Memory -- the memory that guest and host share

A region is mapped once, zeroed, and never moves: the host keeps its address across
every rewind.  Regions are handed out at rising addresses, so each has an address of
its own (`next` is past every address in use).  The kernel may refuse to map and may
refuse to lock; `Kernel` says which attempt it refuses, and why, so that any pattern
of refusals can be asked about.

Main statements: `map_cases` (what mapping can do), `region?_map_self`, `region?_map_ne`,
`region?_write_self`, `region?_write_ne` (mapping and writing touch one region only).
-/
import Rewind.Buffer
import Rewind.Errno

namespace Rewind

set_option autoImplicit false

/-- Where a shared region is and how long it is. -/
structure Region where
  addr : UInt64
  len : Nat
  deriving DecidableEq, Repr

/-- Bytes of the program that lie outside every region. -/
structure Slice where
  addr : UInt64
  content : Buffer

/-- What the kernel refuses: the attempts to map, given how many came before and the
length, and the attempts to lock, given how many came before and the range.  It may
also set a limit to the bytes that are locked. -/
structure Kernel where
  refusesMap : Nat → Nat → Option Errno
  refusesLock : Nat → UInt64 → Nat → Option Errno
  lockLimit : Option Nat

namespace Memory

def pageSize : Nat := 4096

/-- The least number of pages that hold so many bytes. -/
def pages (bytes : Nat) : Nat := (bytes + (pageSize - 1)) / pageSize

/-- Where the bytes of a program begin that lie outside every region. -/
def dataStart : Nat := 0x8010

def regionStart : Nat := 0x10000

/-- No address of a program reaches this. -/
def addressLimit : Nat := 0x800000000000

end Memory

namespace Kernel

/-- Refuses nothing by itself. -/
def ordinary : Kernel where
  refusesMap _ _ := none
  refusesLock _ _ _ := none
  lockLimit := none

/-- The limit on locked bytes goes down to this.  It never goes up again. -/
def lockingAtMost (limit : Nat) (kernel : Kernel) : Kernel :=
  { kernel with lockLimit := some ((kernel.lockLimit.map (min limit)).getD limit) }

/-- Why a limit forbids to lock a range, if it does: as many whole pages are locked as fit
in the limit, and none at all at 0. -/
def overLimit (limit : Nat) (addr : UInt64) (len : Nat) : Option Errno :=
  if limit = 0 then some Errno.notPermitted
  else if limit / Memory.pageSize < Memory.pages (addr.toNat % Memory.pageSize + len) then
    some Errno.outOfMemory
  else none

/-- Why the kernel refuses to lock a range, if it does. -/
def lockRefusal (kernel : Kernel) (attempts : Nat) (addr : UInt64) (len : Nat) : Option Errno :=
  (kernel.refusesLock attempts addr len).or
    (kernel.lockLimit.bind fun limit => overLimit limit addr len)

end Kernel

/-- The regions of a process, and the kernel that manages them. -/
structure Memory where
  kernel : Kernel
  mapAttempts : Nat
  lockAttempts : Nat
  /-- The lowest address that was not handed out. -/
  next : Nat
  /-- The mapped regions: their addresses and contents. -/
  contents : List (UInt64 × Buffer)
  next_le : next ≤ Memory.addressLimit
  lt_next : ∀ region ∈ contents, region.1.toNat < next

namespace Slice

/-- Where bytes lie in a program: those of an empty slice have no place in memory. -/
def ofBytes (bytes : Bytes) : Slice :=
  ⟨if bytes.isEmpty then 1 else UInt64.ofNat Memory.dataStart, Buffer.ofList bytes⟩

end Slice

namespace Memory

def fresh (kernel : Kernel) : Memory where
  kernel := kernel
  mapAttempts := 0
  lockAttempts := 0
  next := regionStart
  contents := []
  next_le := by decide
  lt_next := by simp

def region? (m : Memory) (addr : UInt64) : Option Buffer :=
  (m.contents.find? fun region => region.1 == addr).map Prod.snd

/-- The content of a region, nothing if it is not mapped. -/
def read (m : Memory) (region : Region) : Buffer :=
  (m.region? region.addr).getD (Buffer.zeros 0)

/-- Put an entry in the place of the one with its address. -/
def place (entry : UInt64 × Buffer) :
    List (UInt64 × Buffer) → List (UInt64 × Buffer)
  | [] => []
  | first :: rest => if first.1 == entry.1 then entry :: rest else first :: place entry rest

/-- An entry is replaced only where one with its address stands already. -/
theorem mem_place {entry region : UInt64 × Buffer} {contents : List (UInt64 × Buffer)}
    (member : region ∈ place entry contents) : region ∈ contents ∨ region = entry ∧
      ∃ old ∈ contents, old.1 = entry.1 := by
  induction contents with
  | nil => simp [place] at member
  | cons first rest ih =>
      unfold place at member
      split at member
      · next same =>
          rcases List.mem_cons.mp member with rfl | later
          · exact .inr ⟨rfl, first, by simp, by simpa using same⟩
          · exact .inl (List.mem_cons_of_mem _ later)
      · rcases List.mem_cons.mp member with rfl | later
        · exact .inl (by simp)
        · rcases ih later with old | ⟨rfl, old, inside, same⟩
          · exact .inl (List.mem_cons_of_mem _ old)
          · exact .inr ⟨rfl, old, List.mem_cons_of_mem _ inside, same⟩

/-- Set the content of a mapped region; an address where none is mapped stays so. -/
def write (m : Memory) (addr : UInt64) (content : Buffer) : Memory :=
  { m with
    contents := place (addr, content) m.contents
    lt_next := fun region member => by
      rcases mem_place member with old | ⟨rfl, old, inside, same⟩
      · exact m.lt_next region old
      · exact same ▸ m.lt_next old inside }

def modify (m : Memory) (addr : UInt64) (change : Buffer → Buffer) : Memory :=
  match m.region? addr with
  | some content => m.write addr (change content)
  | none => m

/-- Give a region back.  Nothing is mapped at its address any more. -/
def unmap (m : Memory) (addr : UInt64) : Memory :=
  { m with
    contents := m.contents.filter fun region => region.1 != addr
    lt_next := fun region member => m.lt_next region (List.mem_filter.mp member).1 }

/-- Map a region of zeros.  Either the kernel refuses or there is no room for it. -/
def map (m : Memory) (len : Nat) : Except Errno Region × Memory :=
  let tried := { m with mapAttempts := m.mapAttempts + 1 }
  match m.kernel.refusesMap m.mapAttempts len with
  | some errno => (.error errno, tried)
  | none =>
      let after := m.next + pages (len + 1) * pageSize
      if room : after ≤ addressLimit then
        (.ok ⟨UInt64.ofNat m.next, len⟩,
          { tried with
            next := after
            contents := (UInt64.ofNat m.next, Buffer.zeros len) :: m.contents
            next_le := room
            lt_next := fun region member => by
              have above : m.next < after := by
                simp only [after, pages, pageSize]
                omega
              rcases List.mem_cons.mp member with rfl | old
              · exact Nat.lt_of_le_of_lt (Nat.mod_le _ _) above
              · exact Nat.lt_trans (m.lt_next region old) above })
      else (.error Errno.outOfMemory, tried)

/-- There is memory at the address: a region, or bytes outside every region. -/
def isResident (m : Memory) (addr : UInt64) : Bool :=
  (m.region? addr).isSome || dataStart ≤ addr.toNat && addr.toNat < regionStart

/-- Try to lock a range: the kernel refuses, or there is no memory to lock. -/
def lock (m : Memory) (addr : UInt64) (len : Nat) : Option Errno × Memory :=
  let refusal := (m.kernel.lockRefusal m.lockAttempts addr len).or
    (if m.isResident addr then none else some Errno.outOfMemory)
  (refusal, { m with lockAttempts := m.lockAttempts + 1 })

/-- Why a range cannot be unlocked, if it cannot. -/
def unlockRefusal (m : Memory) (addr : UInt64) : Option Errno :=
  if m.isResident addr then none else some Errno.outOfMemory

/-! ## What each operation does to the regions -/

/-- No region is mapped yet at the address that comes next. -/
theorem region?_next (m : Memory) : m.region? (UInt64.ofNat m.next) = none := by
  rw [region?, Option.map_eq_none_iff, List.find?_eq_none]
  intro region member same
  have below := m.lt_next region member
  have small : m.next % 2 ^ 64 = m.next := by
    have := m.next_le
    simp only [addressLimit] at this
    omega
  simp only [beq_iff_eq] at same
  rw [same, UInt64.toNat_ofNat', small] at below
  exact Nat.lt_irrefl _ below

theorem find?_place_self (entry : UInt64 × Buffer) (contents : List (UInt64 × Buffer)) :
    (place entry contents).find? (fun region => region.1 == entry.1) =
      (contents.find? fun region => region.1 == entry.1).map fun _ => entry := by
  induction contents with
  | nil => rfl
  | cons first rest ih =>
      by_cases same : first.1 == entry.1
      · simp [place, same]
      · simp [place, same, ih]

theorem find?_place_ne {entry : UInt64 × Buffer} {addr : UInt64} (ne : addr ≠ entry.1)
    (contents : List (UInt64 × Buffer)) :
    (place entry contents).find? (fun region => region.1 == addr) =
      contents.find? fun region => region.1 == addr := by
  induction contents with
  | nil => rfl
  | cons first rest ih =>
      by_cases same : first.1 == entry.1
      · have other : (entry.1 == addr) = false := by simpa using fun h => ne h.symm
        have first_ne : (first.1 == addr) = false := by
          rw [eq_of_beq same]
          exact other
        simp [place, same, other, first_ne]
      · by_cases here : first.1 == addr <;> simp [place, same, here, ih]

/-- A region that is not mapped stays so. -/
theorem region?_write_self (m : Memory) (addr : UInt64) (content : Buffer) :
    (m.write addr content).region? addr = (m.region? addr).map fun _ => content := by
  simp only [region?, write]
  rw [find?_place_self (addr, content)]
  cases m.contents.find? (fun region => region.1 == addr) <;> rfl

theorem region?_write_ne (m : Memory) {addr other : UInt64} (content : Buffer) (ne : other ≠ addr) :
    (m.write addr content).region? other = m.region? other := by
  simp only [region?, write]
  rw [find?_place_ne (by exact ne)]

theorem region?_modify_self (m : Memory) (addr : UInt64) (change : Buffer → Buffer) :
    (m.modify addr change).region? addr = (m.region? addr).map change := by
  unfold modify
  split
  · next content found => rw [region?_write_self, found]; rfl
  · next none => rw [none]; rfl

theorem region?_modify_ne (m : Memory) {addr other : UInt64} (change : Buffer → Buffer)
    (ne : other ≠ addr) : (m.modify addr change).region? other = m.region? other := by
  unfold modify
  split
  · exact region?_write_ne m _ ne
  · rfl

/-- What mapping can do.  It is refused, and all that changes is that there was one more attempt;
or a region of zeros is at the next address. -/
theorem map_cases {m after : Memory} {len : Nat} {result : Except Errno Region}
    (mapped : m.map len = (result, after)) :
    let next := m.next + pages (len + 1) * pageSize
    (∃ errno, result = .error errno ∧ after = { m with mapAttempts := m.mapAttempts + 1 } ∧
      (m.kernel.refusesMap m.mapAttempts len = some errno ∨ addressLimit < next)) ∨
    (result = .ok ⟨UInt64.ofNat m.next, len⟩ ∧ after.kernel = m.kernel ∧ after.next = next ∧
      after.contents = (UInt64.ofNat m.next, Buffer.zeros len) :: m.contents) := by
  simp only [map] at mapped
  split at mapped
  · next errno refused =>
      obtain ⟨rfl, rfl⟩ := Prod.mk.inj mapped
      exact .inl ⟨errno, rfl, rfl, .inl refused⟩
  · split at mapped
    · obtain ⟨rfl, rfl⟩ := Prod.mk.inj mapped
      exact .inr ⟨rfl, rfl, rfl, rfl⟩
    · next cramped =>
        obtain ⟨rfl, rfl⟩ := Prod.mk.inj mapped
        exact .inl ⟨_, rfl, rfl, .inr (Nat.lt_of_not_le cramped)⟩

/-- A new region is of the size that was asked for, all zero, and at an address that was free. -/
theorem region?_map_self {m after : Memory} {len : Nat} {region : Region}
    (mapped : m.map len = (.ok region, after)) :
    region.len = len ∧ after.region? region.addr = some (Buffer.zeros len) ∧
      m.region? region.addr = none := by
  rcases map_cases mapped with ⟨_, refused, -⟩ | ⟨granted, -, -, contents⟩
  · cases refused
  · cases granted
    exact ⟨rfl, by simp [region?, contents], region?_next m⟩

/-- The other regions stay as they are. -/
theorem region?_map_ne {m after : Memory} {len : Nat} {region : Region} {addr : UInt64}
    (mapped : m.map len = (.ok region, after)) (ne : addr ≠ region.addr) :
    after.region? addr = m.region? addr := by
  rcases map_cases mapped with ⟨_, refused, -⟩ | ⟨granted, -, -, contents⟩
  · cases refused
  · cases granted
    have other : (UInt64.ofNat m.next == addr) = false := by simpa using fun h => ne h.symm
    simp [region?, contents, other]

end Memory

end Rewind
