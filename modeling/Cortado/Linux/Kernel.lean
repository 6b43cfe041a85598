import Cortado.Lib.KeyedTable
import Cortado.Net.RouteTable

/-!
# The kernel routing table

The kernel identifies a route by its key.  Adding replaces the route of that
key, deleting takes it away when the request's next hop is the route's, and a
packet follows the longest route that contains its destination.
-/

namespace Cortado.Linux

open Net

structure NextHop where
  gateway : Option IpAddr
  oif : Option Nat
  deriving DecidableEq, Repr

abbrev KernelTable := RouteKey → Option NextHop

/-- A delete request names an interface and possibly a gateway. -/
def NextHop.matchesRequest (hop : NextHop) (oif : Nat)
    (gateway : Option IpAddr) : Bool :=
  hop.oif == some oif && (gateway.isNone || hop.gateway == gateway)

namespace KernelTable

def add (table : KernelTable) (key : RouteKey) (hop : NextHop) : KernelTable :=
  Function.update table key (some hop)

/-- The route a delete request would remove exists. -/
def hits (table : KernelTable) (key : RouteKey) (oif : Nat)
    (gateway : Option IpAddr) : Bool :=
  (table key).any (·.matchesRequest oif gateway)

def delete (table : KernelTable) (key : RouteKey) : KernelTable :=
  Function.update table key none

/-- Longest-match route selection. -/
def lookup (table : KernelTable) (addr : IpAddr) : Option NextHop :=
  KeyedTable.longestMatch (fun length => table (RouteKey.of addr length))
    addr.width

end KernelTable

end Cortado.Linux
