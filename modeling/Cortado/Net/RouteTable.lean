import Mathlib.Data.List.Sort
import Cortado.Net.Addr

/-!
# CIDR blocks and the bypass table

The data path classifies a destination by matching it against masks which are
computed once from the bypass list.  Order and repetition of the entries do
not matter to the classification: `decide_eq_direct_iff` reduces it to the
existence of a containing block.
-/

namespace Cortado.Net

abbrev CidrList := List (IpAddr × Nat)

def prefixMaskV4 (prefixLen : Nat) : BitVec 32 :=
  if prefixLen = 0 then 0
  else if prefixLen ≥ 32 then BitVec.allOnes 32
  else BitVec.allOnes 32 <<< (32 - prefixLen)

def prefixMaskV6 (prefixLen : Nat) : BitVec 128 :=
  if prefixLen = 0 then 0
  else if prefixLen ≥ 128 then BitVec.allOnes 128
  else BitVec.allOnes 128 <<< (128 - prefixLen)

def maskV4 (addr : Ipv4Addr) (prefixLen : Nat) : Ipv4Addr :=
  addr &&& prefixMaskV4 prefixLen

def maskV6 (addr : Ipv6Addr) (prefixLen : Nat) : Ipv6Addr :=
  addr &&& prefixMaskV6 prefixLen

/-- The address with its host bits cleared. -/
def IpAddr.mask : IpAddr → Nat → IpAddr
  | .v4 addr, prefixLen => .v4 (maskV4 addr prefixLen)
  | .v6 addr, prefixLen => .v6 (maskV6 addr prefixLen)

/-- A block whose base has no host bits: the constructor of the source is the
only way to build one. -/
structure Cidr where
  base : IpAddr
  prefixLen : Nat
  normalized : base.mask prefixLen = base

theorem maskV4_maskV4 (addr : Ipv4Addr) (prefixLen : Nat) :
    maskV4 (maskV4 addr prefixLen) prefixLen = maskV4 addr prefixLen := by
  simp [maskV4, BitVec.and_assoc]

theorem maskV6_maskV6 (addr : Ipv6Addr) (prefixLen : Nat) :
    maskV6 (maskV6 addr prefixLen) prefixLen = maskV6 addr prefixLen := by
  simp [maskV6, BitVec.and_assoc]

theorem IpAddr.mask_mask (addr : IpAddr) (prefixLen : Nat) :
    (addr.mask prefixLen).mask prefixLen = addr.mask prefixLen := by
  cases addr with
  | v4 addr => simp [IpAddr.mask, maskV4_maskV4]
  | v6 addr => simp [IpAddr.mask, maskV6_maskV6]

namespace Cidr

def new (addr : IpAddr) (prefixLen : Nat) : Cidr :=
  { base := addr.mask prefixLen
    prefixLen := prefixLen
    normalized := addr.mask_mask prefixLen }

def contains (cidr : Cidr) (addr : IpAddr) : Bool :=
  match cidr.base, addr with
  | .v4 base, .v4 addr => maskV4 addr cidr.prefixLen == base
  | .v6 base, .v6 addr => maskV6 addr cidr.prefixLen == base
  | _, _ => false

end Cidr

/-- Entries to install and entries to remove when one list replaces another,
compared as unmasked pairs. -/
def diffCidrs (old new : CidrList) : CidrList × CidrList :=
  (new.filter fun entry => !old.contains entry,
    old.filter fun entry => !new.contains entry)

theorem mem_diffCidrs_add {old new : CidrList} {entry : IpAddr × Nat} :
    entry ∈ (diffCidrs old new).1 ↔ entry ∈ new ∧ entry ∉ old := by
  simp [diffCidrs]

theorem mem_diffCidrs_remove {old new : CidrList} {entry : IpAddr × Nat} :
    entry ∈ (diffCidrs old new).2 ↔ entry ∈ old ∧ entry ∉ new := by
  simp [diffCidrs]

/-- Nothing to add and nothing to remove means the same set of entries. -/
theorem mem_iff_of_diffCidrs_empty {old new : CidrList}
    (noneAdded : (diffCidrs old new).1 = [])
    (noneRemoved : (diffCidrs old new).2 = []) (entry : IpAddr × Nat) :
    entry ∈ old ↔ entry ∈ new := by
  constructor
  · intro inOld
    by_contra outside
    have removed := mem_diffCidrs_remove.mpr ⟨inOld, outside⟩
    simp [noneRemoved] at removed
  · intro inNew
    by_contra outside
    have added := mem_diffCidrs_add.mpr ⟨inNew, outside⟩
    simp [noneAdded] at added

inductive RouteDecision where
  | direct
  | proxy
  deriving DecidableEq, Repr

structure RouteTable where
  v4 : List (BitVec 32 × BitVec 32)
  v6 : List (BitVec 128 × BitVec 128)
  len : Nat
  deriving DecidableEq

namespace RouteTable

def entryV4 (cidr : Cidr) : Option (BitVec 32 × BitVec 32) :=
  match cidr.base with
  | .v4 base => some (base, prefixMaskV4 cidr.prefixLen)
  | .v6 _ => none

def entryV6 (cidr : Cidr) : Option (BitVec 128 × BitVec 128) :=
  match cidr.base with
  | .v4 _ => none
  | .v6 base => some (base, prefixMaskV6 cidr.prefixLen)

/-- The blocks of a list, longest first and otherwise in list order. -/
def sortedBlocks (blocks : CidrList) : List Cidr :=
  (blocks.map fun entry => Cidr.new entry.1 entry.2).insertionSort
    fun left right => right.prefixLen ≤ left.prefixLen

def new (blocks : CidrList) : RouteTable :=
  { v4 := (sortedBlocks blocks).filterMap entryV4
    v6 := (sortedBlocks blocks).filterMap entryV6
    len := (sortedBlocks blocks).length }

def matched (table : RouteTable) : IpAddr → Bool
  | .v4 addr => table.v4.any fun (base, mask) => addr &&& mask == base
  | .v6 addr => table.v6.any fun (base, mask) => addr &&& mask == base

def decide (table : RouteTable) (addr : IpAddr) : RouteDecision :=
  if table.matched addr then .direct else .proxy

theorem mem_sortedBlocks {blocks : CidrList} {cidr : Cidr} :
    cidr ∈ sortedBlocks blocks ↔
      ∃ entry ∈ blocks, Cidr.new entry.1 entry.2 = cidr := by
  rw [sortedBlocks, (List.perm_insertionSort _ _).mem_iff, List.mem_map]

theorem mem_new_v4 {blocks : CidrList} {base mask : BitVec 32} :
    (base, mask) ∈ (new blocks).v4 ↔
      ∃ addr prefixLen, (IpAddr.v4 addr, prefixLen) ∈ blocks ∧
        maskV4 addr prefixLen = base ∧ prefixMaskV4 prefixLen = mask := by
  simp only [new, List.mem_filterMap, mem_sortedBlocks]
  constructor
  · rintro ⟨cidr, ⟨⟨addr, prefixLen⟩, inList, rfl⟩, isEntry⟩
    cases addr with
    | v4 addr =>
        simp only [entryV4, Cidr.new, IpAddr.mask, Option.some.injEq,
          Prod.mk.injEq] at isEntry
        exact ⟨addr, prefixLen, inList, isEntry⟩
    | v6 addr => simp [entryV4, Cidr.new, IpAddr.mask] at isEntry
  · rintro ⟨addr, prefixLen, inList, rfl, rfl⟩
    exact ⟨_, ⟨_, inList, rfl⟩, rfl⟩

theorem mem_new_v6 {blocks : CidrList} {base mask : BitVec 128} :
    (base, mask) ∈ (new blocks).v6 ↔
      ∃ addr prefixLen, (IpAddr.v6 addr, prefixLen) ∈ blocks ∧
        maskV6 addr prefixLen = base ∧ prefixMaskV6 prefixLen = mask := by
  simp only [new, List.mem_filterMap, mem_sortedBlocks]
  constructor
  · rintro ⟨cidr, ⟨⟨addr, prefixLen⟩, inList, rfl⟩, isEntry⟩
    cases addr with
    | v4 addr => simp [entryV6, Cidr.new, IpAddr.mask] at isEntry
    | v6 addr =>
        simp only [entryV6, Cidr.new, IpAddr.mask, Option.some.injEq,
          Prod.mk.injEq] at isEntry
        exact ⟨addr, prefixLen, inList, isEntry⟩
  · rintro ⟨addr, prefixLen, inList, rfl, rfl⟩
    exact ⟨_, ⟨_, inList, rfl⟩, rfl⟩

theorem matched_new_iff (blocks : CidrList) (addr : IpAddr) :
    (new blocks).matched addr = true ↔
      ∃ entry ∈ blocks, addr.mask entry.2 = entry.1.mask entry.2 := by
  cases addr with
  | v4 addr =>
      simp only [matched, List.any_eq_true, Prod.exists, mem_new_v4,
        beq_iff_eq]
      constructor
      · rintro ⟨_, _, ⟨base, prefixLen, inList, rfl, rfl⟩, equal⟩
        exact ⟨_, _, inList, congrArg IpAddr.v4 equal⟩
      · rintro ⟨base, prefixLen, inList, equal⟩
        cases base with
        | v4 base =>
            exact ⟨_, _, ⟨base, prefixLen, inList, rfl, rfl⟩,
              IpAddr.v4.inj equal⟩
        | v6 base => simp [IpAddr.mask] at equal
  | v6 addr =>
      simp only [matched, List.any_eq_true, Prod.exists, mem_new_v6,
        beq_iff_eq]
      constructor
      · rintro ⟨_, _, ⟨base, prefixLen, inList, rfl, rfl⟩, equal⟩
        exact ⟨_, _, inList, congrArg IpAddr.v6 equal⟩
      · rintro ⟨base, prefixLen, inList, equal⟩
        cases base with
        | v4 base => simp [IpAddr.mask] at equal
        | v6 base =>
            exact ⟨_, _, ⟨base, prefixLen, inList, rfl, rfl⟩,
              IpAddr.v6.inj equal⟩

/-- A destination is direct exactly when some block of the list contains it. -/
theorem decide_eq_direct_iff (blocks : CidrList) (addr : IpAddr) :
    (new blocks).decide addr = .direct ↔
      ∃ entry ∈ blocks, addr.mask entry.2 = entry.1.mask entry.2 := by
  rw [← matched_new_iff, decide]
  split <;> simp_all

theorem eq_of_direct_iff {left right : RouteDecision}
    (same : left = .direct ↔ right = .direct) : left = right := by
  cases left <;> cases right <;> simp_all

/-- The classification depends on the set of entries only. -/
theorem decide_congr {left right : CidrList}
    (same : ∀ entry, entry ∈ left ↔ entry ∈ right) (addr : IpAddr) :
    (new left).decide addr = (new right).decide addr := by
  apply eq_of_direct_iff
  simp only [decide_eq_direct_iff, same]

end RouteTable

/-! ## Masks of particular lengths -/

theorem maskV4_full (addr : Ipv4Addr) : maskV4 addr 32 = addr := by
  have full : prefixMaskV4 32 = BitVec.allOnes 32 := rfl
  rw [maskV4, full, BitVec.and_allOnes]

theorem maskV6_full (addr : Ipv6Addr) : maskV6 addr 128 = addr := by
  have full : prefixMaskV6 128 = BitVec.allOnes 128 := rfl
  rw [maskV6, full, BitVec.and_allOnes]

theorem IpAddr.mask_width (addr : IpAddr) : addr.mask addr.width = addr := by
  cases addr with
  | v4 addr => simp [IpAddr.mask, IpAddr.width, maskV4_full]
  | v6 addr => simp [IpAddr.mask, IpAddr.width, maskV6_full]

theorem maskV4_one (addr : Ipv4Addr) :
    maskV4 addr 1 = 0 ∨ maskV4 addr 1 = Ipv4Addr.ofOctets 128 0 0 0 := by
  have one : prefixMaskV4 1 = BitVec.twoPow 32 31 := by decide
  have top : Ipv4Addr.ofOctets 128 0 0 0 = BitVec.twoPow 32 31 := by decide
  rw [maskV4, one, top, BitVec.and_twoPow]
  cases addr.getLsbD 31 <;> simp

theorem maskV6_one (addr : Ipv6Addr) :
    maskV6 addr 1 = 0 ∨
      maskV6 addr 1 = Ipv6Addr.ofSegments [0x8000, 0, 0, 0, 0, 0, 0, 0] := by
  have one : prefixMaskV6 1 = BitVec.twoPow 128 127 := by decide
  have top : Ipv6Addr.ofSegments [0x8000, 0, 0, 0, 0, 0, 0, 0] =
      BitVec.twoPow 128 127 := by decide
  rw [maskV6, one, top, BitVec.and_twoPow]
  cases addr.getLsbD 127 <;> simp

@[simp] theorem IpAddr.width_mask (addr : IpAddr) (prefixLen : Nat) :
    (addr.mask prefixLen).width = addr.width := by
  cases addr <;> rfl

/-! ## Keys of routes -/

/-- A routing table files a route under its family, its masked destination and
the length of its network part. -/
structure RouteKey where
  dst : IpAddr
  prefixLen : Nat
  deriving DecidableEq, Repr

def RouteKey.of (dst : IpAddr) (prefixLen : Nat) : RouteKey :=
  { dst := dst.mask prefixLen
    prefixLen := prefixLen }

def RouteKey.ofEntry (entry : IpAddr × Nat) : RouteKey :=
  RouteKey.of entry.1 entry.2

theorem RouteKey.of_width (addr : IpAddr) :
    RouteKey.of addr addr.width = ⟨addr, addr.width⟩ := by
  simp [RouteKey.of, addr.mask_width]

end Cortado.Net
