import Mathlib.Order.MinMax
import Cortado.Lib.CheckedArith
import Cortado.Lib.Outcome

/-!
# Automatic tuning

Buffer sizes and connection limits are computed from what the host reports.
The computation is written with overflow checks on a 64-bit machine, and none
of them fails.  The limits stay within the descriptors and the share of the
memory that they are derived from as soon as these cover the smallest limits.
-/

namespace Cortado

open CheckedArith

def fallbackMtu : UInt32 := 1500

def minMtu : Nat := 576

def maxMtu : Nat := 65535

def defaultMemory : UInt64 := 2 * 1024 * 1024 * 1024

def defaultFdLimit : UInt64 := 1024

def relayBufPerMtu : Nat := 176

def relayBufMin : Nat := 128 * 1024

def relayBufMax : Nat := 4 * 1024 * 1024

def copyBufPerMtu : Nat := 16

def copyBufMin : Nat := 32 * 1024

def copyBufMax : Nat := 256 * 1024

def stackBufMin : Nat := 512

def stackBufMax : Nat := 4096

def stackBufPerBytes : Nat := 2 * 1024 * 1024

def fdReserve : Nat := 64

def fdsPerConn : Nat := 2

def memFractionForRelay : Nat := 4

def tcpConnMin : Nat := 128

def tcpConnMax : Nat := 65536

def udpPerTcp : Nat := 4

def udpSessionMin : Nat := 64

def udpSessionMax : Nat := 16384

/-- In seconds. -/
def udpIdleTimeout : Nat := 60

structure SystemProbe where
  linkMtu : Option UInt32
  hasIpv6Gateway : Bool
  totalMemoryBytes : Option UInt64
  fdLimit : Option UInt64
  deriving DecidableEq, Repr

structure Tuning where
  mtu : Nat
  relayBufSize : Nat
  relayCopyBufSize : Nat
  stackBufSize : Nat
  udpIdleTimeout : Nat
  maxTcpConnections : Nat
  maxUdpSessions : Nat
  captureIpv6 : Bool
  deriving DecidableEq, Repr

namespace SystemProbe

/-- The reported value, or its default. -/
def mtu (probe : SystemProbe) : Nat :=
  (probe.linkMtu.getD fallbackMtu).toNat

def memory (probe : SystemProbe) : Nat :=
  (probe.totalMemoryBytes.getD defaultMemory).toNat

def fds (probe : SystemProbe) : Nat :=
  (probe.fdLimit.getD defaultFdLimit).toNat

end SystemProbe

namespace Tuning

def compute (probe : SystemProbe) : Checked Tuning := do
  let mtu := clamp probe.mtu minMtu maxMtu
  let relayBytes ← mul 64 mtu relayBufPerMtu
  let relayBufSize := clamp relayBytes relayBufMin relayBufMax
  let copyBytes ← mul 64 mtu copyBufPerMtu
  let relayCopyBufSize := clamp copyBytes copyBufMin copyBufMax
  let stackDepth ← div probe.memory stackBufPerBytes
  let stackBufSize := clamp stackDepth stackBufMin stackBufMax
  let relayBufs ← mul 64 2 relayBufSize
  let perConn ← add 64 relayBufs relayCopyBufSize
  let memShare ← div probe.memory memFractionForRelay
  let memQuota ← div memShare (max perConn 1)
  let memConns := max memQuota 1
  -- The subtraction saturates.
  let fdQuota ← div (probe.fds - fdReserve) fdsPerConn
  let fdConns := max fdQuota 1
  let maxTcpConnections := clamp (min memConns fdConns) tcpConnMin tcpConnMax
  let udpShare ← div maxTcpConnections udpPerTcp
  return {
    mtu := mtu
    relayBufSize := relayBufSize
    relayCopyBufSize := relayCopyBufSize
    stackBufSize := stackBufSize
    udpIdleTimeout := Cortado.udpIdleTimeout
    maxTcpConnections := maxTcpConnections
    maxUdpSessions := clamp udpShare udpSessionMin udpSessionMax
    captureIpv6 := probe.hasIpv6Gateway }

/-- The memory of one connection, as `compute` reckons it. -/
def perConn (tuning : Tuning) : Nat :=
  2 * tuning.relayBufSize + tuning.relayCopyBufSize

/-- The memory of the buffers of one relay: it copies in both directions, each
with a buffer of its own. -/
def heldPerConn (tuning : Tuning) : Nat :=
  2 * tuning.relayBufSize + 2 * tuning.relayCopyBufSize

/-! ## The values without the checks -/

/-- A buffer of a number of packets, within bounds. -/
def bufferFor (packets low high mtu : Nat) : Nat :=
  clamp (clamp mtu minMtu maxMtu * packets) low high

def relayBufFor (mtu : Nat) : Nat :=
  bufferFor relayBufPerMtu relayBufMin relayBufMax mtu

def copyBufFor (mtu : Nat) : Nat :=
  bufferFor copyBufPerMtu copyBufMin copyBufMax mtu

def memConnsFor (memory perConn : Nat) : Nat :=
  max (memory / memFractionForRelay / perConn) 1

def fdConnsFor (fds : Nat) : Nat :=
  max ((fds - fdReserve) / fdsPerConn) 1

def tcpConnsFor (memory fds perConn : Nat) : Nat :=
  clamp (min (memConnsFor memory perConn) (fdConnsFor fds)) tcpConnMin
    tcpConnMax

def udpSessionsFor (tcpConns : Nat) : Nat :=
  clamp (tcpConns / udpPerTcp) udpSessionMin udpSessionMax

structure Derived (probe : SystemProbe) (tuning : Tuning) : Prop where
  relayBufSize : tuning.relayBufSize = relayBufFor probe.mtu
  relayCopyBufSize : tuning.relayCopyBufSize = copyBufFor probe.mtu
  maxTcpConnections : tuning.maxTcpConnections =
    tcpConnsFor probe.memory probe.fds tuning.perConn
  maxUdpSessions :
    tuning.maxUdpSessions = udpSessionsFor tuning.maxTcpConnections

theorem mul_packets_lt {packets : Nat} (mtu : Nat)
    (few : packets ≤ relayBufPerMtu) :
    clamp mtu minMtu maxMtu * packets < 2 ^ 64 := by
  have bounded : clamp mtu minMtu maxMtu ≤ maxMtu := clamp_le_high (by decide)
  calc clamp mtu minMtu maxMtu * packets
      ≤ maxMtu * relayBufPerMtu := Nat.mul_le_mul bounded few
    _ < 2 ^ 64 := by decide

theorem relayBufMin_le (mtu : Nat) : relayBufMin ≤ relayBufFor mtu :=
  low_le_clamp (by decide)

theorem relayBufFor_le (mtu : Nat) : relayBufFor mtu ≤ relayBufMax :=
  clamp_le_high (by decide)

theorem copyBufFor_le (mtu : Nat) : copyBufFor mtu ≤ copyBufMax :=
  clamp_le_high (by decide)

theorem four_mul_copyBufFor_le (mtu : Nat) :
    4 * copyBufFor mtu ≤ relayBufFor mtu := by
  unfold copyBufFor relayBufFor bufferFor
  generalize clamp mtu minMtu maxMtu = packet
  unfold clamp copyBufPerMtu copyBufMin copyBufMax relayBufPerMtu relayBufMin
    relayBufMax
  split_ifs <;> omega

theorem perConn_bounds (mtu : Nat) :
    0 < 2 * relayBufFor mtu + copyBufFor mtu ∧
      2 * relayBufFor mtu + copyBufFor mtu < 2 ^ 64 := by
  have relayMin := relayBufMin_le mtu
  have relayMax := relayBufFor_le mtu
  have copyMax := copyBufFor_le mtu
  unfold relayBufMin at relayMin
  unfold relayBufMax at relayMax
  unfold copyBufMax at copyMax
  omega

/-- No check fails. -/
theorem compute_derived (probe : SystemProbe) :
    ∃ tuning, compute probe = .ok tuning ∧ Derived probe tuning := by
  obtain ⟨positive, fits⟩ := perConn_bounds probe.mtu
  have relayFits := mul_packets_lt probe.mtu (Nat.le_refl relayBufPerMtu)
  have copyFits : clamp probe.mtu minMtu maxMtu * copyBufPerMtu < 2 ^ 64 :=
    mul_packets_lt probe.mtu (by decide)
  have relay : clamp (clamp probe.mtu minMtu maxMtu * relayBufPerMtu)
      relayBufMin relayBufMax = relayBufFor probe.mtu := rfl
  have copy : clamp (clamp probe.mtu minMtu maxMtu * copyBufPerMtu)
      copyBufMin copyBufMax = copyBufFor probe.mtu := rfl
  have pairFits : 2 * relayBufFor probe.mtu < 2 ^ 64 := by omega
  have stack : 0 < stackBufPerBytes := by decide
  have share : 0 < memFractionForRelay := by decide
  have pair : 0 < fdsPerConn := by decide
  have udp : 0 < udpPerTcp := by decide
  simp only [compute, mul_eq_ok relayFits, mul_eq_ok copyFits, relay, copy,
    mul_eq_ok pairFits, add_eq_ok fits, Nat.max_eq_left positive,
    div_eq_ok positive, div_eq_ok stack, div_eq_ok share, div_eq_ok pair,
    div_eq_ok udp, Outcome.ok_bind]
  exact ⟨_, rfl, rfl, rfl, rfl, rfl⟩

/-! ## Budgets -/

theorem tcpConnsFor_ge (memory fds perConn : Nat) :
    tcpConnMin ≤ tcpConnsFor memory fds perConn :=
  low_le_clamp (by decide)

/-- The connections and their descriptors fit as soon as the smallest limit
does. -/
theorem fdsPerConn_mul_tcpConns_le (memory perConn : Nat) {fds : Nat}
    (enough : 320 ≤ fds) :
    2 * tcpConnsFor memory fds perConn + 64 ≤ fds := by
  have fdConns : fdConnsFor fds = (fds - 64) / 2 := by
    have positive : 1 ≤ (fds - 64) / 2 := by omega
    exact Nat.max_eq_left positive
  have bounded : tcpConnsFor memory fds perConn ≤ fdConnsFor fds := by
    apply clamp_le
    · rw [fdConns]
      unfold tcpConnMin
      omega
    · exact Nat.min_le_right _ _
  omega

theorem tcpConns_mul_perConn_le {memory fds perConn : Nat}
    (positive : 0 < perConn) (enough : 128 * perConn ≤ memory / 4) :
    tcpConnsFor memory fds perConn * perConn ≤ memory / 4 := by
  have quota : 128 ≤ memory / 4 / perConn :=
    (Nat.le_div_iff_mul_le positive).mpr enough
  have bounded : tcpConnsFor memory fds perConn ≤ memory / 4 / perConn := by
    apply clamp_le
    · exact quota
    · apply Nat.le_trans (Nat.min_le_left _ _)
      apply Nat.max_le.mpr
      exact ⟨Nat.le_refl _, by omega⟩
  calc tcpConnsFor memory fds perConn * perConn
      ≤ memory / 4 / perConn * perConn := Nat.mul_le_mul_right _ bounded
    _ ≤ memory / 4 := Nat.div_mul_le_self _ _

theorem two_mul_udpSessions_le {tcpConns : Nat}
    (enough : tcpConnMin ≤ tcpConns) :
    2 * udpSessionsFor tcpConns ≤ tcpConns := by
  unfold tcpConnMin at enough
  have bounded : udpSessionsFor tcpConns ≤ tcpConns / 2 := by
    apply clamp_le
    · unfold udpSessionMin
      omega
    · unfold udpPerTcp
      omega
  omega

/-! ## Monotonicity -/

theorem bufferFor_mono {packets low high mtu other : Nat}
    (ordered : low ≤ high) (le : mtu ≤ other) :
    bufferFor packets low high mtu ≤ bufferFor packets low high other := by
  apply clamp_le_clamp ordered
  apply Nat.mul_le_mul_right
  exact clamp_le_clamp (by decide) le

theorem tcpConnsFor_mono {memory moreMemory fds moreFds perConn less : Nat}
    (memoryLe : memory ≤ moreMemory) (fdsLe : fds ≤ moreFds)
    (positive : 0 < less) (perConnLe : less ≤ perConn) :
    tcpConnsFor memory fds perConn ≤ tcpConnsFor moreMemory moreFds less := by
  have memConns : memory / memFractionForRelay / perConn ≤
      moreMemory / memFractionForRelay / less :=
    Nat.div_le_div (Nat.div_le_div_right memoryLe) perConnLe
      (Nat.ne_of_gt positive)
  have fdConns : (fds - fdReserve) / fdsPerConn ≤
      (moreFds - fdReserve) / fdsPerConn :=
    Nat.div_le_div_right (Nat.sub_le_sub_right fdsLe _)
  apply clamp_le_clamp (by decide)
  apply min_le_min
  · exact max_le_max memConns (Nat.le_refl 1)
  · exact max_le_max fdConns (Nat.le_refl 1)

theorem udpSessionsFor_mono {tcpConns more : Nat} (le : tcpConns ≤ more) :
    udpSessionsFor tcpConns ≤ udpSessionsFor more :=
  clamp_le_clamp (by decide) (Nat.div_le_div_right le)

variable {probe larger : SystemProbe} {tuning grown : Tuning}

theorem Derived.perConn (derived : Derived probe tuning) :
    tuning.perConn = 2 * relayBufFor probe.mtu + copyBufFor probe.mtu := by
  rw [Tuning.perConn, derived.relayBufSize, derived.relayCopyBufSize]

theorem Derived.perConn_pos (derived : Derived probe tuning) :
    0 < tuning.perConn := by
  rw [derived.perConn]
  exact (perConn_bounds probe.mtu).1

/-- The second copy buffer is at most a ninth of what is reckoned. -/
theorem Derived.nine_mul_held_le (derived : Derived probe tuning) :
    9 * tuning.heldPerConn ≤ 10 * tuning.perConn := by
  have small := four_mul_copyBufFor_le probe.mtu
  rw [← derived.relayBufSize, ← derived.relayCopyBufSize] at small
  unfold heldPerConn Tuning.perConn
  omega

theorem derived_of_compute (computed : compute probe = .ok tuning) :
    Derived probe tuning := by
  obtain ⟨other, same, derived⟩ := compute_derived probe
  rw [computed] at same
  cases same
  exact derived

theorem Derived.fd_budget (derived : Derived probe tuning)
    (enough : 320 ≤ probe.fds) :
    tuning.maxTcpConnections + 2 * tuning.maxUdpSessions + 64 ≤
        2 * tuning.maxTcpConnections + 64 ∧
      2 * tuning.maxTcpConnections + 64 ≤ probe.fds := by
  have tcp := fdsPerConn_mul_tcpConns_le probe.memory tuning.perConn enough
  have floor := tcpConnsFor_ge probe.memory probe.fds tuning.perConn
  rw [← derived.maxTcpConnections] at tcp floor
  have udp := two_mul_udpSessions_le floor
  rw [← derived.maxUdpSessions] at udp
  omega

theorem Derived.memory_budget (derived : Derived probe tuning)
    (enough : 128 * tuning.perConn ≤ probe.memory / 4) :
    tuning.maxTcpConnections * tuning.perConn ≤ probe.memory / 4 := by
  rw [derived.maxTcpConnections]
  exact tcpConns_mul_perConn_le derived.perConn_pos enough

theorem Derived.buffers_le (derived : Derived probe tuning)
    (grownDerived : Derived larger grown) (mtuLe : probe.mtu ≤ larger.mtu) :
    tuning.relayBufSize ≤ grown.relayBufSize ∧
      tuning.relayCopyBufSize ≤ grown.relayCopyBufSize := by
  rw [derived.relayBufSize, derived.relayCopyBufSize,
    grownDerived.relayBufSize, grownDerived.relayCopyBufSize]
  constructor
  · exact bufferFor_mono (by decide) mtuLe
  · exact bufferFor_mono (by decide) mtuLe

theorem Derived.limits_le (derived : Derived probe tuning)
    (grownDerived : Derived larger grown)
    (memoryLe : probe.memory ≤ larger.memory) (fdsLe : probe.fds ≤ larger.fds)
    (mtuLe : larger.mtu ≤ probe.mtu) :
    tuning.maxTcpConnections ≤ grown.maxTcpConnections ∧
      tuning.maxUdpSessions ≤ grown.maxUdpSessions := by
  have perConnLe : grown.perConn ≤ tuning.perConn := by
    obtain ⟨relayLe, copyLe⟩ := grownDerived.buffers_le derived mtuLe
    unfold Tuning.perConn
    omega
  have tcpLe : tuning.maxTcpConnections ≤ grown.maxTcpConnections := by
    rw [derived.maxTcpConnections, grownDerived.maxTcpConnections]
    exact tcpConnsFor_mono memoryLe fdsLe grownDerived.perConn_pos perConnLe
  rw [derived.maxUdpSessions, grownDerived.maxUdpSessions]
  exact ⟨tcpLe, udpSessionsFor_mono tcpLe⟩

/-- Tuning succeeds on every host, keeps the budgets that cover its smallest
limits, and is monotone in what the host offers. -/
theorem compute_respects_budgets (probe : SystemProbe) :
    ∃ tuning, compute probe = .ok tuning ∧
      (320 ≤ probe.fds →
        tuning.maxTcpConnections + 2 * tuning.maxUdpSessions + 64 ≤
            2 * tuning.maxTcpConnections + 64 ∧
          2 * tuning.maxTcpConnections + 64 ≤ probe.fds) ∧
      (128 * tuning.perConn ≤ probe.memory / 4 →
        tuning.maxTcpConnections * tuning.perConn ≤ probe.memory / 4) ∧
      ∀ larger grown, compute larger = .ok grown →
        (probe.memory ≤ larger.memory → probe.fds ≤ larger.fds →
          larger.mtu ≤ probe.mtu →
            tuning.maxTcpConnections ≤ grown.maxTcpConnections ∧
              tuning.maxUdpSessions ≤ grown.maxUdpSessions) ∧
        (probe.mtu ≤ larger.mtu →
          tuning.relayBufSize ≤ grown.relayBufSize ∧
            tuning.relayCopyBufSize ≤ grown.relayCopyBufSize) := by
  obtain ⟨tuning, computed, derived⟩ := compute_derived probe
  refine ⟨tuning, computed, derived.fd_budget, derived.memory_budget, ?_⟩
  intro larger grown grownComputed
  have grownDerived := derived_of_compute grownComputed
  exact ⟨derived.limits_le grownDerived, derived.buffers_le grownDerived⟩

/-- A host with 8 GiB of memory and the usual limit on descriptors. -/
def usualProbe : SystemProbe :=
  { linkMtu := some 1500
    hasIpv6Gateway := false
    totalMemoryBytes := some (8 * 1024 * 1024 * 1024)
    fdLimit := none }

theorem compute_respects_budgets_usual :
    ∃ tuning, compute usualProbe = .ok tuning ∧
      2 * tuning.maxTcpConnections + 64 ≤ usualProbe.fds ∧
      tuning.maxTcpConnections * tuning.perConn ≤ usualProbe.memory / 4 := by
  obtain ⟨tuning, computed, fdBudget, memoryBudget, _⟩ :=
    compute_respects_budgets usualProbe
  have enough : 128 * tuning.perConn ≤ usualProbe.memory / 4 := by
    rw [(derived_of_compute computed).perConn]
    decide +kernel
  exact ⟨tuning, computed, (fdBudget (by decide)).2, memoryBudget enough⟩

end Tuning

end Cortado
