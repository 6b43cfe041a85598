import Cortado.Lib.BigEndian
import Mathlib.Data.Nat.Notation

/-!
# Internet addresses

Addresses are the words the source converts them to before masking, so an
IPv4 address is a 32-bit and an IPv6 address a 128-bit vector, most
significant octet first.
-/

namespace Cortado.Net

abbrev Ipv4Addr := BitVec 32

abbrev Ipv6Addr := BitVec 128

inductive IpAddr where
  | v4 (addr : Ipv4Addr)
  | v6 (addr : Ipv6Addr)
  deriving DecidableEq, Repr

inductive SocketAddr where
  | v4 (addr : Ipv4Addr) (portNumber : UInt16)
  | v6 (addr : Ipv6Addr) (portNumber : UInt16) (flowinfo scopeId : UInt32)
  deriving DecidableEq, Repr

namespace IpAddr

def isIpv4 : IpAddr → Bool
  | .v4 _ => true
  | .v6 _ => false

def isIpv6 : IpAddr → Bool
  | .v4 _ => false
  | .v6 _ => true

/-- Number of address bits of the family. -/
def width : IpAddr → Nat
  | .v4 _ => 32
  | .v6 _ => 128

end IpAddr

namespace SocketAddr

def ip : SocketAddr → IpAddr
  | .v4 addr _ => .v4 addr
  | .v6 addr _ _ _ => .v6 addr

def port : SocketAddr → UInt16
  | .v4 _ portNumber => portNumber
  | .v6 _ portNumber _ _ => portNumber

/-- `SocketAddr::new` leaves flow information and scope at zero. -/
def new : IpAddr → UInt16 → SocketAddr
  | .v4 addr, portNumber => .v4 addr portNumber
  | .v6 addr, portNumber => .v6 addr portNumber 0 0

end SocketAddr

/-- An IPv4 address from its four octets. -/
def Ipv4Addr.ofOctets (a b c d : Nat) : Ipv4Addr :=
  BitVec.ofNat 32 (((a * 256 + b) * 256 + c) * 256 + d)

/-- An IPv6 address from its 16-bit segments. -/
def Ipv6Addr.ofSegments (segments : List Nat) : Ipv6Addr :=
  BitVec.ofNat 128 (segments.foldl (fun value segment => value * 65536 + segment) 0)

namespace Ipv4Addr

/-- `Ipv4Addr::octets`. -/
def octets (addr : Ipv4Addr) : List UInt8 :=
  BigEndian.toBytes 4 addr.toNat

theorem octets_ofOctets (a b c d : UInt8) :
    octets (ofOctets a.toNat b.toNat c.toNat d.toNat) = [a, b, c, d] := by
  have four : [a, b, c, d].length = 4 := rfl
  have bound : BigEndian.ofBytes [a, b, c, d] < 2 ^ 32 :=
    BigEndian.ofBytes_lt four
  have value : (ofOctets a.toNat b.toNat c.toNat d.toNat).toNat =
      BigEndian.ofBytes [a, b, c, d] := by
    rw [← Nat.mod_eq_of_lt bound, ofOctets, BitVec.toNat_ofNat]
    simp only [BigEndian.ofBytes, List.foldl_cons, List.foldl_nil,
      Nat.zero_mul, Nat.zero_add]
  rw [octets, value]
  exact BigEndian.toBytes_ofBytes [a, b, c, d]

theorem octets_injective {left right : Ipv4Addr}
    (same : octets left = octets right) : left = right := by
  apply BitVec.eq_of_toNat_eq
  have leftFits : left.toNat < 256 ^ 4 := left.isLt
  have rightFits : right.toNat < 256 ^ 4 := right.isLt
  calc left.toNat
    _ = BigEndian.ofBytes (octets left) :=
        (BigEndian.ofBytes_toBytes leftFits).symm
    _ = BigEndian.ofBytes (octets right) := congrArg BigEndian.ofBytes same
    _ = right.toNat := BigEndian.ofBytes_toBytes rightFits

end Ipv4Addr

namespace Ipv6Addr

/-- `Ipv6Addr::octets`. -/
def octets (addr : Ipv6Addr) : List UInt8 :=
  BigEndian.toBytes 16 addr.toNat

/-- An IPv6 address from its sixteen octets. -/
def fromOctets (bytes : List UInt8) : Ipv6Addr :=
  BitVec.ofNat 128 (BigEndian.ofBytes bytes)

theorem octets_fromOctets {bytes : List UInt8} (sixteen : bytes.length = 16) :
    octets (fromOctets bytes) = bytes := by
  have bound : BigEndian.ofBytes bytes < 2 ^ 128 :=
    BigEndian.ofBytes_lt sixteen
  rw [octets, fromOctets, BitVec.toNat_ofNat, Nat.mod_eq_of_lt bound,
    ← sixteen]
  exact BigEndian.toBytes_ofBytes bytes

theorem fromOctets_octets (addr : Ipv6Addr) :
    fromOctets (octets addr) = addr := by
  apply BitVec.eq_of_toNat_eq
  have fits : addr.toNat < 256 ^ 16 := addr.isLt
  rw [fromOctets, octets, BigEndian.ofBytes_toBytes fits, BitVec.toNat_ofNat]
  exact Nat.mod_eq_of_lt addr.isLt

end Ipv6Addr

end Cortado.Net
