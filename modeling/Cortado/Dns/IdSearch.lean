import Mathlib.Data.List.Perm.Subperm
import Mathlib.Data.UInt
import Cortado.Dns.PoolStep

/-!
# Choosing an identifier

`allocate_id` draws from a 64-bit counter, keeps the low 16 bits of each draw
and takes the first value that is not a key of the map.  Fewer than 256 keys
cannot cover 256 values in a row, so the search below the limit ends after at
most 256 draws, wherever the counter stands.
-/

namespace Cortado.Dns

/-- Fewer values than an injective sequence has terms leave a term out, and
there is a first such term. -/
theorem exists_first_not_mem {α : Type*} [DecidableEq α] {sequence : Nat → α}
    {bound : Nat} {taken : List α} (few : taken.length < bound)
    (injective : ∀ left < bound, ∀ right < bound,
      sequence left = sequence right → left = right) :
    ∃ index < bound, sequence index ∉ taken ∧
      ∀ earlier < index, sequence earlier ∈ taken := by
  have vacant : ∃ index, index < bound ∧ sequence index ∉ taken := by
    by_contra covered
    push Not at covered
    have distinct : ((List.range bound).map sequence).Nodup := by
      apply List.Nodup.map_on _ List.nodup_range
      intro left leftBound right rightBound
      exact injective left (List.mem_range.mp leftBound) right
        (List.mem_range.mp rightBound)
    have within : (List.range bound).map sequence ⊆ taken := by
      intro value member
      obtain ⟨index, indexBound, rfl⟩ := List.mem_map.mp member
      exact covered index (List.mem_range.mp indexBound)
    have count := (distinct.subperm within).length_le
    rw [List.length_map, List.length_range] at count
    omega
  refine ⟨Nat.find vacant, (Nat.find_spec vacant).1,
    (Nat.find_spec vacant).2, ?_⟩
  intro earlier before
  by_contra outside
  have bounded := (Nat.find_spec vacant).1
  exact Nat.find_min vacant before ⟨by omega, outside⟩

/-- The search stops at the first vacant draw within its fuel. -/
theorem searchId_eq_some {inflight : Inflight} {fuel draws skipped : Nat}
    (reached : skipped < fuel)
    (vacant : candidate (draws + skipped) ∉ inflight)
    (taken : ∀ earlier < skipped, candidate (draws + earlier) ∈ inflight) :
    searchId inflight fuel draws =
      (some (draws + skipped), draws + skipped + 1) := by
  induction skipped generalizing fuel draws with
  | zero =>
      obtain ⟨fuel, rfl⟩ := Nat.exists_eq_add_one.mpr reached
      simp only [Nat.add_zero] at vacant ⊢
      rw [searchId, if_neg vacant]
  | succ skipped induction =>
      obtain ⟨fuel, rfl⟩ :=
        Nat.exists_eq_add_one.mpr (Nat.zero_lt_of_lt reached)
      have first : candidate draws ∈ inflight :=
        taken 0 (Nat.succ_pos skipped)
      have shift : ∀ offset, draws + (offset + 1) = draws + 1 + offset := by
        intro offset
        omega
      rw [shift] at vacant ⊢
      rw [searchId, if_pos first]
      apply induction (Nat.lt_of_succ_lt_succ reached) vacant
      intro earlier before
      rw [← shift]
      exact taken (earlier + 1) (Nat.succ_lt_succ before)

/-- The value of the 64-bit counter. -/
def Conn.nextId (conn : Conn) : UInt64 :=
  UInt64.ofNat conn.draws

/-- The identifiers in the order in which the search tries them. -/
def Conn.idAt (conn : Conn) (offset : Nat) : UInt16 :=
  conn.nextId.toUInt16 + UInt16.ofNat offset

theorem candidate_add (conn : Conn) (offset : Nat) :
    candidate (conn.draws + offset) = conn.idAt offset := by
  have start : conn.nextId.toUInt16 = UInt16.ofNat conn.draws := by
    apply UInt16.toNat_inj.mp
    simp only [Conn.nextId, UInt64.toNat_toUInt16, UInt64.toNat_ofNat',
      UInt16.toNat_ofNat']
    omega
  rw [candidate_eq, Conn.idAt, start, UInt16.ofNat_add]

theorem candidate_eq_iff (left right : Nat) :
    candidate left = candidate right ↔ left % 65536 = right % 65536 := by
  rw [candidate_eq, candidate_eq, ← UInt16.toNat_inj, UInt16.toNat_ofNat',
    UInt16.toNat_ofNat']

theorem Conn.idAt_injective (conn : Conn) {left right : Nat}
    (leftBound : left < 65536) (rightBound : right < 65536)
    (same : conn.idAt left = conn.idAt right) : left = right := by
  rw [← candidate_add, ← candidate_add, candidate_eq_iff] at same
  omega

/-- Below the limit the search ends at a vacant identifier. -/
theorem Conn.exists_first_vacant (conn : Conn)
    (room : conn.inflight.keys.length < maxInflightPerConn) :
    ∃ skipped < maxInflightPerConn, conn.idAt skipped ∉ conn.inflight ∧
      ∀ earlier < skipped, conn.idAt earlier ∈ conn.inflight := by
  simp only [AList.mem_keys]
  apply exists_first_not_mem room
  intro left leftBound right rightBound
  unfold maxInflightPerConn at leftBound rightBound
  exact conn.idAt_injective (by omega) (by omega)

/-- The counter after a number of draws, with its wrap. -/
theorem Conn.nextId_advanced (conn : Conn) (skipped : Nat) :
    Conn.nextId { conn with draws := conn.draws + skipped + 1 } =
      conn.nextId + UInt64.ofNat skipped + 1 := by
  simp only [Conn.nextId, UInt64.ofNat_add]
  rfl

theorem Conn.allocateId_of_room (conn : Conn) (owner : AttemptId)
    {skipped : Nat} (room : conn.inflight.keys.length < maxInflightPerConn)
    (reached : skipped < 65536)
    (vacant : conn.idAt skipped ∉ conn.inflight)
    (taken : ∀ earlier < skipped, conn.idAt earlier ∈ conn.inflight) :
    conn.allocateId owner =
      (some (conn.draws + skipped),
        conn.reserve owner (conn.draws + skipped)) := by
  simp only [← candidate_add] at vacant taken
  have searched := searchId_eq_some reached vacant taken
  rw [allocateId, if_neg (Nat.not_le.mpr room), searched]
  rfl

theorem Conn.allocateId_of_full (conn : Conn) (owner : AttemptId)
    (full : maxInflightPerConn ≤ conn.inflight.keys.length) :
    conn.allocateId owner = (none, conn) := by
  rw [allocateId, if_pos full]

/-- Below the limit `allocate_id` stores a placeholder under the first vacant
identifier in cyclic order from the counter, and at the limit it changes
nothing. -/
theorem Conn.allocateId_first_vacant (conn : Conn) (owner : AttemptId) :
    (conn.inflight.keys.length < maxInflightPerConn →
      ∃ skipped < 65536, conn.idAt skipped ∉ conn.inflight ∧
        (∀ earlier < skipped, conn.idAt earlier ∈ conn.inflight) ∧
        (conn.allocateId owner).1.map candidate =
          some (conn.idAt skipped) ∧
        (conn.allocateId owner).2.inflight =
          conn.inflight.insert (conn.idAt skipped)
            { owner := owner, armed := false } ∧
        (conn.allocateId owner).2.nextId =
          conn.nextId + UInt64.ofNat skipped + 1) ∧
    (maxInflightPerConn ≤ conn.inflight.keys.length →
      conn.allocateId owner = (none, conn)) := by
  constructor
  · intro room
    obtain ⟨skipped, bounded, vacant, taken⟩ := conn.exists_first_vacant room
    have reached : skipped < 65536 := by
      unfold maxInflightPerConn at bounded
      omega
    rw [conn.allocateId_of_room owner room reached vacant taken]
    refine ⟨skipped, reached, vacant, taken, ?_, ?_, ?_⟩
    · rw [Option.map_some, candidate_add]
    · rw [← candidate_add]
      rfl
    · exact conn.nextId_advanced skipped
  · intro full
    exact conn.allocateId_of_full owner full

/-- A connection whose counter is about to wrap, with the two identifiers at
the wrap in flight. -/
def wrappingConn : Conn :=
  { Conn.fresh exampleServer exampleProxy 0 0 with
    inflight :=
      (AList.singleton 65535 { owner := (0, false), armed := true }).insert 0
        { owner := (1, false), armed := true }
    draws := 2 ^ 64 - 1 }

theorem wrappingConn_allocates :
    wrappingConn.inflight.keys.length < maxInflightPerConn ∧
      ∃ skipped < 65536, wrappingConn.idAt skipped ∉ wrappingConn.inflight ∧
        (∀ earlier < skipped,
          wrappingConn.idAt earlier ∈ wrappingConn.inflight) ∧
        (wrappingConn.allocateId (2, false)).1.map candidate =
          some (wrappingConn.idAt skipped) ∧
        (wrappingConn.allocateId (2, false)).2.inflight =
          wrappingConn.inflight.insert (wrappingConn.idAt skipped)
            { owner := (2, false), armed := false } ∧
        (wrappingConn.allocateId (2, false)).2.nextId =
          wrappingConn.nextId + UInt64.ofNat skipped + 1 := by
  have room : wrappingConn.inflight.keys.length < maxInflightPerConn := by
    decide
  exact ⟨room, (wrappingConn.allocateId_first_vacant (2, false)).1 room⟩

example :
    (wrappingConn.allocateId (2, false)).1.map candidate = some 1 := by
  decide +kernel

end Cortado.Dns
