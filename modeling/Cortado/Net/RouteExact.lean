import Cortado.Lib.BitPrefix
import Cortado.Lib.CheckedArith
import Cortado.Net.RouteTable

/-!
# What the bypass table matches

The masks of the table are words of leading ones, so a destination is direct
exactly if it agrees with an entry of its family on the leading bits of that
entry.  `Cidr::contains`, the second implementation, says the same.
-/

namespace Cortado.Net

open BitPrefix CheckedArith

/-! ## Masks -/

theorem prefixMaskV4_eq_leading (prefixLen : Nat) :
    prefixMaskV4 prefixLen = leading 32 prefixLen :=
  ite_eq_leading 32 prefixLen

theorem prefixMaskV6_eq_leading (prefixLen : Nat) :
    prefixMaskV6 prefixLen = leading 128 prefixLen :=
  ite_eq_leading 128 prefixLen

/-- A mask function with the checks on its subtraction and on its shift. -/
def prefixMaskChecked (width prefixLen : Nat) : Checked (BitVec width) :=
  if prefixLen = 0 then .ok 0
  else if prefixLen ≥ width then .ok (BitVec.allOnes width)
  else do
    let amount ← sub width prefixLen
    shiftLeft (BitVec.allOnes width) amount

def prefixMaskV4Checked (prefixLen : Nat) : Checked (BitVec 32) :=
  prefixMaskChecked 32 prefixLen

def prefixMaskV6Checked (prefixLen : Nat) : Checked (BitVec 128) :=
  prefixMaskChecked 128 prefixLen

/-- Neither check fails. -/
theorem prefixMaskChecked_eq_ok (width prefixLen : Nat) :
    prefixMaskChecked width prefixLen = .ok (leading width prefixLen) := by
  rw [← ite_eq_leading]
  unfold prefixMaskChecked
  split
  · rfl
  · rename_i some
    split
    · rfl
    · rename_i short
      rw [sub_eq_ok (by omega)]
      exact shiftLeft_eq_ok _ (by omega)

theorem prefixMaskV4Checked_eq_ok (prefixLen : Nat) :
    prefixMaskV4Checked prefixLen = .ok (prefixMaskV4 prefixLen) := by
  rw [prefixMaskV4_eq_leading]
  exact prefixMaskChecked_eq_ok 32 prefixLen

theorem prefixMaskV6Checked_eq_ok (prefixLen : Nat) :
    prefixMaskV6Checked prefixLen = .ok (prefixMaskV6 prefixLen) := by
  rw [prefixMaskV6_eq_leading]
  exact prefixMaskChecked_eq_ok 128 prefixLen

/-! ## Entries -/

namespace IpAddr

/-- A bit of an address, counted from the most significant one. -/
def bit : IpAddr → Nat → Bool
  | .v4 addr, index => addr.getMsbD index
  | .v6 addr, index => addr.getMsbD index

/-- The addresses are of one family and agree on their leading bits. -/
def AgreeOn (count : Nat) (left right : IpAddr) : Prop :=
  left.isIpv4 = right.isIpv4 ∧
    ∀ index < min count right.width, left.bit index = right.bit index

theorem mask_eq_mask_iff (left right : IpAddr) (prefixLen : Nat) :
    right.mask prefixLen = left.mask prefixLen ↔
      AgreeOn prefixLen left right := by
  cases left with
  | v4 left =>
      cases right with
      | v4 right =>
          simp only [mask, maskV4, prefixMaskV4_eq_leading, v4.injEq]
          rw [eq_comm, and_leading_eq_iff]
          simp [AgreeOn, Agree, isIpv4, width, bit]
      | v6 right => simp [mask, AgreeOn, isIpv4]
  | v6 left =>
      cases right with
      | v4 right => simp [mask, AgreeOn, isIpv4]
      | v6 right =>
          simp only [mask, maskV6, prefixMaskV6_eq_leading, v6.injEq]
          rw [eq_comm, and_leading_eq_iff]
          simp [AgreeOn, Agree, isIpv4, width, bit]

end IpAddr

theorem Cidr.contains_new_iff (addr other : IpAddr) (prefixLen : Nat) :
    (Cidr.new addr prefixLen).contains other = true ↔
      other.mask prefixLen = addr.mask prefixLen := by
  cases addr with
  | v4 addr => cases other <;> simp [Cidr.new, contains, IpAddr.mask]
  | v6 addr => cases other <;> simp [Cidr.new, contains, IpAddr.mask]

/-- Host bits of the address do not matter to the block. -/
theorem Cidr.new_congr {left right : IpAddr} {prefixLen : Nat}
    (same : left.mask prefixLen = right.mask prefixLen) :
    Cidr.new left prefixLen = Cidr.new right prefixLen := by
  simp only [Cidr.new, same]

namespace RouteTable

/-- The blocks of a list, without their order, repetitions and host bits. -/
def SameBlocks (left right : CidrList) : Prop :=
  ∀ cidr : Cidr,
    (∃ entry ∈ left, Cidr.new entry.1 entry.2 = cidr) ↔
      ∃ entry ∈ right, Cidr.new entry.1 entry.2 = cidr

theorem decide_eq_direct_iff_agree (blocks : CidrList) (addr : IpAddr) :
    (new blocks).decide addr = .direct ↔
      ∃ entry ∈ blocks, IpAddr.AgreeOn entry.2 entry.1 addr := by
  simp only [decide_eq_direct_iff, IpAddr.mask_eq_mask_iff]

theorem decide_eq_direct_iff_contains (blocks : CidrList) (addr : IpAddr) :
    (new blocks).decide addr = .direct ↔
      ∃ entry ∈ blocks, (Cidr.new entry.1 entry.2).contains addr = true := by
  simp only [decide_eq_direct_iff, Cidr.contains_new_iff]

theorem decide_of_sameBlocks {left right : CidrList}
    (same : SameBlocks left right) (addr : IpAddr) :
    (new left).decide addr = (new right).decide addr := by
  have transfer : ∀ {first second : CidrList}, SameBlocks first second →
      (new first).decide addr = .direct →
        (new second).decide addr = .direct := by
    intro first second blocks direct
    rw [decide_eq_direct_iff_contains] at direct ⊢
    obtain ⟨entry, member, contained⟩ := direct
    obtain ⟨other, otherMember, equal⟩ :=
      (blocks _).mp ⟨entry, member, rfl⟩
    exact ⟨other, otherMember, equal ▸ contained⟩
  apply eq_of_direct_iff
  constructor
  · exact transfer same
  · exact transfer (fun cidr => (same cidr).symm)

/-- The table classifies exactly, and its masks are computed without a shift
by the full width. -/
theorem decide_exact (blocks : CidrList) (addr : IpAddr) :
    ((new blocks).decide addr = .direct ↔
      ∃ entry ∈ blocks, IpAddr.AgreeOn entry.2 entry.1 addr) ∧
    ((new blocks).decide addr = .direct ↔
      ∃ entry ∈ blocks,
        (Cidr.new entry.1 entry.2).contains addr = true) ∧
    (∀ others, SameBlocks blocks others →
      (new others).decide addr = (new blocks).decide addr) ∧
    ∀ prefixLen,
      prefixMaskV4Checked prefixLen = .ok (prefixMaskV4 prefixLen) ∧
        prefixMaskV6Checked prefixLen = .ok (prefixMaskV6 prefixLen) := by
  refine ⟨decide_eq_direct_iff_agree blocks addr,
    decide_eq_direct_iff_contains blocks addr, ?_, ?_⟩
  · intro others same
    exact (decide_of_sameBlocks same addr).symm
  · intro prefixLen
    exact ⟨prefixMaskV4Checked_eq_ok prefixLen,
      prefixMaskV6Checked_eq_ok prefixLen⟩

/-- A repeated entry with host bits changes nothing. -/
theorem decide_exact_repeated :
    let network : IpAddr := .v4 (Ipv4Addr.ofOctets 10 0 0 0)
    let host : IpAddr := .v4 (Ipv4Addr.ofOctets 10 5 6 7)
    SameBlocks [(network, 8)] [(host, 8), (network, 8)] ∧
      (new [(host, 8), (network, 8)]).decide host =
        (new [(network, 8)]).decide host := by
  intro network host
  have same : Cidr.new host 8 = Cidr.new network 8 :=
    Cidr.new_congr (by decide)
  have blocks : SameBlocks [(network, 8)] [(host, 8), (network, 8)] := by
    intro cidr
    simp [same]
  exact ⟨blocks, (decide_exact [(network, 8)] host).2.2.1 _ blocks⟩

end RouteTable

end Cortado.Net
