/-
# Rewind.Proofs.Mapping -- regions that stay, and a kernel that grants

A region that was mapped stays mapped, at its address and with its size, whatever is
mapped, locked or written afterwards (`Memory.Holds`).  Where the kernel grants every
attempt (`Kernel.Grants`) and the address space has room, mapping gives a region of
the size asked for, and every range in memory can be locked.

Main statements: `Memory.holds_map`, `Memory.holds_modify` (nothing takes a region
away), `Memory.map_of_grants`, `Memory.lock_of_grants`.
-/
import Rewind.Memory

namespace Rewind

set_option autoImplicit false

namespace Kernel

/-- Every attempt to map and every attempt to lock is granted. -/
structure Grants (kernel : Kernel) : Prop where
  maps : ∀ attempts len, kernel.refusesMap attempts len = none
  locks : ∀ attempts addr len, kernel.lockRefusal attempts addr len = none

theorem ordinary_grants : ordinary.Grants :=
  ⟨fun _ _ => rfl, fun _ _ _ => rfl⟩

end Kernel

namespace Memory

/-- No region that a host can ask for takes more of the address space. -/
def regionLimit : Nat := 0x100000000

/-- The address space has room for so many regions more. -/
def HasRoom (m : Memory) (regions : Nat) : Prop :=
  m.next + regions * regionLimit ≤ addressLimit

/-- The region is mapped, with its size. -/
def Holds (m : Memory) (region : Region) : Prop :=
  ∃ content, m.region? region.addr = some content ∧ content.size = region.len

/-! ## What stays -/

@[simp] theorem kernel_modify (m : Memory) (addr : UInt64) (change : Buffer → Buffer) :
    (m.modify addr change).kernel = m.kernel := by
  unfold modify
  split <;> rfl

@[simp] theorem next_modify (m : Memory) (addr : UInt64) (change : Buffer → Buffer) :
    (m.modify addr change).next = m.next := by
  unfold modify
  split <;> rfl

@[simp] theorem kernel_lock (m : Memory) (addr : UInt64) (len : Nat) :
    (m.lock addr len).2.kernel = m.kernel := rfl

@[simp] theorem next_lock (m : Memory) (addr : UInt64) (len : Nat) :
    (m.lock addr len).2.next = m.next := rfl

@[simp] theorem region?_lock (m : Memory) (addr : UInt64) (len : Nat) (other : UInt64) :
    (m.lock addr len).2.region? other = m.region? other := rfl

@[simp] theorem kernel_map (m : Memory) (len : Nat) : (m.map len).2.kernel = m.kernel := by
  cases mapped : m.map len with
  | mk result after =>
      rcases map_cases mapped with ⟨_, -, rfl, -⟩ | ⟨-, kernel, -⟩
      · rfl
      · exact kernel

theorem holds_modify {m : Memory} {region : Region} (held : m.Holds region) (addr : UInt64)
    {change : Buffer → Buffer} (sized : ∀ b, (change b).size = b.size) :
    (m.modify addr change).Holds region := by
  obtain ⟨content, found, size⟩ := held
  by_cases here : region.addr = addr
  · refine ⟨change content, ?_, (sized content).trans size⟩
    rw [here, region?_modify_self, ← here, found]
    rfl
  · exact ⟨content, (region?_modify_ne m change here).trans found, size⟩

@[simp] theorem holds_lock (m : Memory) (addr : UInt64) (len : Nat) (region : Region) :
    (m.lock addr len).2.Holds region ↔ m.Holds region := Iff.rfl

/-- A refused attempt to map leaves the regions as they are. -/
theorem region?_map_error {m after : Memory} {len : Nat} {errno : Errno}
    (refused : m.map len = (.error errno, after)) (addr : UInt64) :
    after.region? addr = m.region? addr := by
  rcases map_cases refused with ⟨_, -, rfl, -⟩ | ⟨granted, -⟩
  · rfl
  · cases granted

theorem holds_map {m : Memory} {region : Region} (held : m.Holds region) (len : Nat) :
    (m.map len).2.Holds region := by
  obtain ⟨content, found, size⟩ := held
  refine ⟨content, ?_, size⟩
  cases mapped : m.map len with
  | mk result after =>
      cases result with
      | error errno => rw [region?_map_error mapped, found]
      | ok new =>
          have apart : region.addr ≠ new.addr := by
            intro same
            rw [same, (region?_map_self mapped).2.2] at found
            cases found
          rw [region?_map_ne mapped apart, found]

theorem holds_new {m after : Memory} {len : Nat} {region : Region}
    (mapped : m.map len = (.ok region, after)) : after.Holds region := by
  obtain ⟨size, found, -⟩ := region?_map_self mapped
  exact ⟨_, found, size.symm⟩

/-- A new region lies apart from every region that was there. -/
theorem addr_ne_of_map {m after : Memory} {len : Nat} {new region : Region}
    (mapped : m.map len = (.ok new, after)) (held : m.Holds region) : new.addr ≠ region.addr := by
  obtain ⟨content, found, -⟩ := held
  intro same
  rw [← same, (region?_map_self mapped).2.2] at found
  cases found

/-! ## What is granted -/

theorem isResident_of_holds {m : Memory} {region : Region} (held : m.Holds region) :
    m.isResident region.addr = true := by
  obtain ⟨content, found, -⟩ := held
  simp [isResident, found]

/-- The data of a program is in memory, whatever is mapped. -/
theorem isResident_dataStart (m : Memory) : m.isResident (UInt64.ofNat dataStart) = true := by
  have within : (decide (dataStart ≤ (UInt64.ofNat dataStart).toNat) &&
      decide ((UInt64.ofNat dataStart).toNat < regionStart)) = true := by decide
  rw [isResident, within, Bool.or_true]

theorem lock_of_grants {m : Memory} {addr : UInt64} (grants : m.kernel.Grants)
    (resident : m.isResident addr = true) (len : Nat) : (m.lock addr len).1 = none := by
  simp [lock, grants.locks, resident]

/-- What a region takes of the address space, its last page and the gap behind it included. -/
theorem pages_mul_le {len : Nat} (fits : len < regionLimit) :
    pages (len + 1) * pageSize ≤ regionLimit := by
  simp only [pages, pageSize, regionLimit] at *
  omega

theorem map_of_grants {m : Memory} {len regions : Nat} (grants : m.kernel.Grants)
    (room : m.HasRoom (regions + 1)) (fits : len < regionLimit) :
    ∃ after, m.map len = (.ok ⟨UInt64.ofNat m.next, len⟩, after) ∧ after.HasRoom regions := by
  have taken := pages_mul_le fits
  rw [HasRoom, Nat.succ_mul] at room
  have free : m.next + pages (len + 1) * pageSize ≤ addressLimit := by omega
  cases mapped : m.map len with
  | mk result after =>
      rcases map_cases mapped with ⟨_, -, -, refused | cramped⟩ | ⟨rfl, -, next, -⟩
      · rw [grants.maps] at refused
        cases refused
      · exact absurd free (Nat.not_le_of_lt cramped)
      · refine ⟨after, rfl, ?_⟩
        rw [HasRoom, next]
        omega

theorem hasRoom_mono {m : Memory} {few many : Nat} (room : m.HasRoom many) (le : few ≤ many) :
    m.HasRoom few :=
  Nat.le_trans (Nat.add_le_add_left (Nat.mul_le_mul_right _ le) _) room

theorem fresh_hasRoom (kernel : Kernel) : (fresh kernel).HasRoom 2 := by
  have room : regionStart + 2 * regionLimit ≤ addressLimit := by decide
  exact room

end Memory

end Rewind
