import Cortado.Dns.Wire
import Cortado.Lib.Outcome
import Cortado.Net.Addr

/-!
# The SOCKS5 UDP datagram

A datagram on the relay is two reserved bytes, a fragment number, an address
with its kind and port, and the payload.  `UdpDatagram` is that grammar; the
decoder accepts exactly its datagrams, and every index and range it takes is
inside the buffer.
-/

namespace Cortado.Socks

open Net
open Outcome (ok_bind)
open Dns (toBeBytes fromBeBytes toBeBytes_fromBeBytes exists_toBeBytes)

/-- An index or a range outside a slice, where the source panics. -/
structure OutOfRange where
  bound : Nat
  length : Nat
  deriving DecidableEq, Repr

abbrev Sliced := Except OutOfRange

/-- `buf[position]`. -/
def index (buf : List UInt8) (position : Nat) : Sliced UInt8 :=
  match buf[position]? with
  | some byte => .ok byte
  | none => .error { bound := position, length := buf.length }

/-- `&buf[start..stop]`. -/
def range (buf : List UInt8) (start stop : Nat) : Sliced (List UInt8) :=
  if start ≤ stop ∧ stop ≤ buf.length then .ok ((buf.take stop).drop start)
  else .error { bound := stop, length := buf.length }

/-- `&buf[start..]`. -/
def rangeFrom (buf : List UInt8) (start : Nat) : Sliced (List UInt8) :=
  if start ≤ buf.length then .ok (buf.drop start)
  else .error { bound := start, length := buf.length }

/-- `copy_from_slice` into an array of `width` bytes. -/
def copyFromSlice (width : Nat) (slice : List UInt8) :
    Sliced (List UInt8) :=
  if slice.length = width then .ok slice
  else .error { bound := width, length := slice.length }

/-- The kind and the octets of an address. -/
def encodeIp : IpAddr → List UInt8
  | .v4 addr => 0x01 :: addr.octets
  | .v6 addr => 0x04 :: addr.octets

/-- The previous content of the output buffer is cleared first. -/
def encodeUdp (target : SocketAddr) (payload _out : List UInt8) :
    List UInt8 :=
  [0x00, 0x00, 0x00] ++ encodeIp target.ip ++ toBeBytes target.port ++ payload

/-- The address of a datagram with the bytes after it; `none` where the decoder
returns early. -/
def decodeIp (buf : List UInt8) : Sliced (Option (IpAddr × List UInt8)) := do
  let kind ← index buf 3
  if kind = 0x01 then
    if buf.length < 10 then
      return none
    else
      let a ← index buf 4
      let b ← index buf 5
      let c ← index buf 6
      let d ← index buf 7
      let rest ← rangeFrom buf 8
      return some (.v4 (.ofOctets a.toNat b.toNat c.toNat d.toNat), rest)
  else if kind = 0x04 then
    if buf.length < 22 then
      return none
    else
      let slice ← range buf 4 20
      let octets ← copyFromSlice 16 slice
      let rest ← rangeFrom buf 20
      return some (.v6 (.fromOctets octets), rest)
  else
    return none

def decodeUdp (buf : List UInt8) :
    Sliced (Option (SocketAddr × List UInt8)) := do
  if buf.length < 4 then
    return none
  else
    let fragment ← index buf 2
    if fragment ≠ 0x00 then
      return none
    else
      match ← decodeIp buf with
      | none => return none
      | some (ip, rest) =>
          if rest.length < 2 then
            return none
          else
            let high ← index rest 0
            let low ← index rest 1
            let payload ← rangeFrom rest 2
            return some (.new ip (fromBeBytes high low), payload)

/-- The datagrams of the protocol that are not fragments: reserved bytes, kind,
address, port and payload. -/
inductive UdpDatagram : List UInt8 → SocketAddr → List UInt8 → Prop where
  | v4 (first second : UInt8) (addr : Ipv4Addr) (port : UInt16)
      (payload : List UInt8) :
      UdpDatagram
        (first :: second :: 0x00 :: 0x01 ::
          (addr.octets ++ (toBeBytes port ++ payload)))
        (.v4 addr port) payload
  | v6 (first second : UInt8) (addr : Ipv6Addr) (port : UInt16)
      (payload : List UInt8) :
      UdpDatagram
        (first :: second :: 0x00 :: 0x04 ::
          (addr.octets ++ (toBeBytes port ++ payload)))
        (.v6 addr port 0 0) payload

/-- The shapes of buffer the decoder accepts. -/
def WellFormed (buf : List UInt8) : Prop :=
  buf[2]? = some 0x00 ∧
    (buf[3]? = some 0x01 ∧ 10 ≤ buf.length ∨
      buf[3]? = some 0x04 ∧ 22 ≤ buf.length)

theorem index_of_getElem {buf : List UInt8} {position : Nat} {byte : UInt8}
    (found : buf[position]? = some byte) : index buf position = .ok byte := by
  simp only [index, found]

theorem exists_octets (addr : Ipv4Addr) :
    ∃ a b c d : UInt8, addr.octets = [a, b, c, d] ∧
      addr = .ofOctets a.toNat b.toNat c.toNat d.toNat := by
  refine ⟨_, _, _, _, rfl, ?_⟩
  apply Ipv4Addr.octets_injective
  rw [Ipv4Addr.octets_ofOctets]
  rfl

theorem decodeIp_v4 {buf : List UInt8} {first second fragment a b c d : UInt8}
    {rest : List UInt8}
    (shape : buf = first :: second :: fragment :: 0x01 :: a :: b :: c :: d ::
      rest)
    (long : 2 ≤ rest.length) :
    decodeIp buf =
      .ok (some
        (.v4 (.ofOctets a.toNat b.toNat c.toNat d.toNat), rest)) := by
  have enough : ¬buf.length < 10 := by
    simp only [shape, List.length_cons]
    omega
  have after : rangeFrom buf 8 = .ok rest := by
    simp [rangeFrom, shape]
  have byteAt (position : Nat) (byte : UInt8)
      (found : buf[position]? = some byte) :=
    index_of_getElem found
  rw [decodeIp, byteAt 3 0x01 (by simp [shape]), byteAt 4 a (by simp [shape]),
    byteAt 5 b (by simp [shape]), byteAt 6 c (by simp [shape]),
    byteAt 7 d (by simp [shape]), after]
  simp only [ok_bind, if_true, if_neg enough, pure, Except.pure]

theorem decodeIp_v6 {buf : List UInt8} {first second fragment : UInt8}
    {octets rest : List UInt8}
    (shape : buf = first :: second :: fragment :: 0x04 :: (octets ++ rest))
    (sixteen : octets.length = 16) (long : 2 ≤ rest.length) :
    decodeIp buf = .ok (some (.v6 (.fromOctets octets), rest)) := by
  have enough : ¬buf.length < 22 := by
    simp only [shape, List.length_cons, List.length_append, sixteen]
    omega
  have kind : index buf 3 = .ok 0x04 := index_of_getElem (by simp [shape])
  have slice : range buf 4 20 = .ok octets := by
    simp [range, shape, ← sixteen]
  have after : rangeFrom buf 20 = .ok rest := by
    simp [rangeFrom, shape, ← sixteen]
  have copied : copyFromSlice 16 octets = .ok octets := by
    rw [copyFromSlice, if_pos sixteen]
  have notV4 : ¬(0x04 : UInt8) = 0x01 := by decide
  rw [decodeIp, kind, slice, after]
  simp only [ok_bind, copied, if_true, if_neg notV4, if_neg enough, pure,
    Except.pure]

/-- What the decoder makes of an address and the bytes after it. -/
theorem decodeUdp_of_decodeIp {buf payload : List UInt8} {ip : IpAddr}
    {high low : UInt8} (long : 4 ≤ buf.length)
    (whole : buf[2]? = some 0x00)
    (decoded : decodeIp buf = .ok (some (ip, high :: low :: payload))) :
    decodeUdp buf = .ok (some (.new ip (fromBeBytes high low), payload)) := by
  have enough : ¬buf.length < 4 := by omega
  have portFits : ¬(high :: low :: payload).length < 2 := by
    simp only [List.length_cons]
    omega
  have after : rangeFrom (high :: low :: payload) 2 = .ok payload := by
    simp [rangeFrom]
  rw [decodeUdp, if_neg enough, index_of_getElem whole, decoded]
  simp only [ok_bind, ne_eq, not_true_eq_false, if_false, if_neg portFits,
    index_of_getElem (show (high :: low :: payload)[0]? = some high from rfl),
    index_of_getElem (show (high :: low :: payload)[1]? = some low from rfl),
    after, pure, Except.pure]

/-- Every datagram of the grammar is decoded to its address and payload. -/
theorem decodeUdp_of_datagram {buf payload : List UInt8} {target : SocketAddr}
    (datagram : UdpDatagram buf target payload) :
    decodeUdp buf = .ok (some (target, payload)) := by
  cases datagram with
  | v4 first second addr port =>
      obtain ⟨a, b, c, d, octets, sameAddr⟩ := exists_octets addr
      obtain ⟨high, low, bytes, samePort⟩ := exists_toBeBytes port
      rw [octets, bytes, sameAddr, ← samePort]
      have decoded := decodeIp_v4
        (rfl : first :: second :: 0x00 :: 0x01 ::
          ([a, b, c, d] ++ ([high, low] ++ payload)) = _) (by simp)
      exact decodeUdp_of_decodeIp (by simp) (by simp) decoded
  | v6 first second addr port =>
      obtain ⟨high, low, bytes, samePort⟩ := exists_toBeBytes port
      have sixteen : addr.octets.length = 16 :=
        BigEndian.length_toBytes 16 addr.toNat
      have decoded := decodeIp_v6
        (rfl : first :: second :: 0x00 :: 0x04 ::
          (addr.octets ++ ([high, low] ++ payload)) = _) sixteen (by simp)
      rw [Ipv6Addr.fromOctets_octets] at decoded
      rw [bytes, ← samePort]
      exact decodeUdp_of_decodeIp (by simp) (by simp) decoded

theorem exists_cut {tail : List UInt8} (long : 18 ≤ tail.length) :
    ∃ octets high low payload,
      tail = octets ++ (high :: low :: payload) ∧ octets.length = 16 := by
  have remaining : 2 ≤ (tail.drop 16).length := by
    rw [List.length_drop]
    omega
  match after : tail.drop 16, remaining with
  | high :: low :: payload, _ =>
      refine ⟨tail.take 16, high, low, payload, ?_, ?_⟩
      · rw [← after, List.take_append_drop]
      · rw [List.length_take]
        omega

/-- A buffer of an accepted shape is a datagram of the grammar. -/
theorem WellFormed.datagram {buf : List UInt8} (accepted : WellFormed buf) :
    ∃ target payload, UdpDatagram buf target payload := by
  obtain ⟨whole, kinds⟩ := accepted
  rcases kinds with ⟨isV4, long⟩ | ⟨isV6, long⟩
  · match buf, long with
    | first :: second :: fragment :: kind :: a :: b :: c :: d :: high :: low ::
        payload, _ =>
        obtain rfl : fragment = 0x00 := by simpa using whole
        obtain rfl : kind = 0x01 := by simpa using isV4
        have datagram := UdpDatagram.v4 first second
          (.ofOctets a.toNat b.toNat c.toNat d.toNat) (fromBeBytes high low)
          payload
        rw [Ipv4Addr.octets_ofOctets, toBeBytes_fromBeBytes] at datagram
        exact ⟨_, _, datagram⟩
  · match buf, long with
    | first :: second :: fragment :: kind :: tail, long =>
        obtain rfl : fragment = 0x00 := by simpa using whole
        obtain rfl : kind = 0x04 := by simpa using isV6
        have tailLong : 18 ≤ tail.length := by
          simp only [List.length_cons] at long
          omega
        obtain ⟨octets, high, low, payload, rfl, sixteen⟩ := exists_cut tailLong
        have datagram := UdpDatagram.v6 first second (.fromOctets octets)
          (fromBeBytes high low) payload
        rw [Ipv6Addr.octets_fromOctets sixteen, toBeBytes_fromBeBytes]
          at datagram
        exact ⟨_, _, datagram⟩

theorem decodeIp_none {buf : List UInt8} {kind : UInt8}
    (kindAt : buf[3]? = some kind) (shortV4 : kind = 0x01 → buf.length < 10)
    (shortV6 : kind = 0x04 → buf.length < 22) :
    decodeIp buf = .ok none := by
  rw [decodeIp, index_of_getElem kindAt, ok_bind]
  by_cases isV4 : kind = 0x01
  · rw [if_pos isV4, if_pos (shortV4 isV4)]
    rfl
  · rw [if_neg isV4]
    by_cases isV6 : kind = 0x04
    · rw [if_pos isV6, if_pos (shortV6 isV6)]
      rfl
    · rw [if_neg isV6]
      rfl

/-- A buffer of any other shape is dropped, with no index outside it. -/
theorem decodeUdp_of_not_wellFormed {buf : List UInt8}
    (rejected : ¬WellFormed buf) : decodeUdp buf = .ok none := by
  by_cases short : buf.length < 4
  · rw [decodeUdp, if_pos short]
    rfl
  · obtain ⟨kind, kindAt⟩ : ∃ kind, buf[3]? = some kind :=
      ⟨_, List.getElem?_eq_getElem (by omega)⟩
    obtain ⟨fragment, fragmentAt⟩ : ∃ fragment, buf[2]? = some fragment :=
      ⟨_, List.getElem?_eq_getElem (by omega)⟩
    rw [decodeUdp, if_neg short, index_of_getElem fragmentAt, ok_bind]
    by_cases whole : fragment = 0x00
    · subst whole
      have dropped : decodeIp buf = .ok none := by
        apply decodeIp_none kindAt
        · intro isV4
          by_contra long
          exact rejected
            ⟨fragmentAt, Or.inl ⟨isV4 ▸ kindAt, Nat.not_lt.mp long⟩⟩
        · intro isV6
          by_contra long
          exact rejected
            ⟨fragmentAt, Or.inr ⟨isV6 ▸ kindAt, Nat.not_lt.mp long⟩⟩
      rw [if_neg (not_not.mpr rfl), dropped]
      rfl
    · rw [if_pos whole]
      rfl

theorem decodeUdp_eq_some_iff {buf payload : List UInt8}
    {target : SocketAddr} :
    decodeUdp buf = .ok (some (target, payload)) ↔
      UdpDatagram buf target payload := by
  constructor
  · intro decoded
    by_cases accepted : WellFormed buf
    · obtain ⟨addressed, carried, datagram⟩ := accepted.datagram
      have same := (decodeUdp_of_datagram datagram).symm.trans decoded
      cases same
      exact datagram
    · rw [decodeUdp_of_not_wellFormed accepted] at decoded
      cases decoded
  · exact decodeUdp_of_datagram

/-- No buffer makes the decoder leave its bounds. -/
theorem decodeUdp_total (buf : List UInt8) :
    ∃ decoded, decodeUdp buf = .ok decoded := by
  by_cases accepted : WellFormed buf
  · obtain ⟨target, payload, datagram⟩ := accepted.datagram
    exact ⟨_, decodeUdp_of_datagram datagram⟩
  · exact ⟨_, decodeUdp_of_not_wellFormed accepted⟩

/-- What is encoded is a datagram of the grammar, whatever the buffer held. -/
theorem datagram_encodeUdp (target : SocketAddr) (payload out : List UInt8) :
    UdpDatagram (encodeUdp target payload out)
      (.new target.ip target.port) payload := by
  cases target with
  | v4 addr port =>
      have datagram := UdpDatagram.v4 0x00 0x00 addr port payload
      simp only [← List.append_assoc, ← List.cons_append] at datagram
      exact datagram
  | v6 addr port flowinfo scopeId =>
      have datagram := UdpDatagram.v6 0x00 0x00 addr port payload
      simp only [← List.append_assoc, ← List.cons_append] at datagram
      exact datagram

theorem decodeUdp_encodeUdp (target : SocketAddr)
    (payload out : List UInt8) :
    decodeUdp (encodeUdp target payload out) =
      .ok (some (.new target.ip target.port, payload)) :=
  decodeUdp_of_datagram (datagram_encodeUdp target payload out)

theorem UdpDatagram.encodeUdp_eq {buf payload : List UInt8}
    {target : SocketAddr} (datagram : UdpDatagram buf target payload)
    (out : List UInt8) :
    encodeUdp target payload out = 0x00 :: 0x00 :: buf.drop 2 := by
  cases datagram with
  | v4 first second addr port =>
      simp [encodeUdp, encodeIp, SocketAddr.ip, SocketAddr.port]
  | v6 first second addr port =>
      simp [encodeUdp, encodeIp, SocketAddr.ip, SocketAddr.port]

/-- The codec and the grammar determine each other: encoding then decoding
gives the target and the payload back, decoding then encoding gives the buffer
with its reserved bytes cleared, and a buffer is accepted exactly when it has
one of the two shapes, every access being in range. -/
theorem udp_codec_exact :
    (∀ (ip : IpAddr) (port : UInt16) (payload out : List UInt8),
      decodeUdp (encodeUdp (.new ip port) payload out) =
        .ok (some (.new ip port, payload))) ∧
    (∀ (buf : List UInt8) (target : SocketAddr) (payload out : List UInt8),
      decodeUdp buf = .ok (some (target, payload)) →
        encodeUdp target payload out = 0x00 :: 0x00 :: buf.drop 2) ∧
    ∀ buf : List UInt8, ∃ decoded, decodeUdp buf = .ok decoded ∧
      (decoded.isSome ↔
        buf[2]? = some 0x00 ∧
          (buf[3]? = some 0x01 ∧ 10 ≤ buf.length ∨
            buf[3]? = some 0x04 ∧ 22 ≤ buf.length)) := by
  refine ⟨?_, ?_, ?_⟩
  · intro ip port payload out
    rw [decodeUdp_encodeUdp]
    cases ip with
    | v4 addr => rfl
    | v6 addr => rfl
  · intro buf target payload out decoded
    exact (decodeUdp_eq_some_iff.mp decoded).encodeUdp_eq out
  · intro buf
    by_cases accepted : WellFormed buf
    · obtain ⟨target, payload, datagram⟩ := accepted.datagram
      exact ⟨_, decodeUdp_of_datagram datagram, iff_of_true rfl accepted⟩
    · exact ⟨_, decodeUdp_of_not_wellFormed accepted,
        iff_of_false (by simp) accepted⟩

/-- A reply of a resolver whose relay does not clear the reserved bytes. -/
theorem udp_codec_exact_reserved :
    decodeUdp [7, 9, 0, 1, 8, 8, 4, 4, 0, 53, 42] =
        .ok (some (.v4 (.ofOctets 8 8 4 4) 53, [42])) ∧
      encodeUdp (.v4 (.ofOctets 8 8 4 4) 53) [42] [1, 2, 3] =
        [0, 0, 0, 1, 8, 8, 4, 4, 0, 53, 42] := by
  have decoded : decodeUdp [7, 9, 0, 1, 8, 8, 4, 4, 0, 53, 42] =
      .ok (some (.v4 (.ofOctets 8 8 4 4) 53, [42])) := by
    decide +kernel
  exact ⟨decoded, udp_codec_exact.2.1 _ _ _ [1, 2, 3] decoded⟩

end Cortado.Socks
