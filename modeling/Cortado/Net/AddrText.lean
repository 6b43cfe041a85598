import Cortado.Net.Addr

/-!
# Textual form of addresses

The configuration stores addresses as text and reads them with the parsers of
the Rust standard library.  The definitions below follow those parsers: every
reader consumes a piece of text or fails without consuming any, and an
address parses when a reader consumes the whole text.
-/

namespace Cortado.Net

/-- A reader returns what it read and the text that remains. -/
abbrev Reader (α : Type) := List Char → Option (α × List Char)

namespace Reader

/-- The value of a digit in the given radix (at most 16). -/
def digitValue (radix : Nat) (c : Char) : Option Nat :=
  let value? :=
    if '0' ≤ c ∧ c ≤ '9' then some (c.toNat - '0'.toNat)
    else if 'a' ≤ c ∧ c ≤ 'f' then some (c.toNat - 'a'.toNat + 10)
    else if 'A' ≤ c ∧ c ≤ 'F' then some (c.toNat - 'A'.toNat + 10)
    else none
  value?.filter (· < radix)

/-- The longest run of digits and the text after it. -/
def spanDigits (radix : Nat) : List Char → List Nat × List Char
  | [] => ([], [])
  | c :: text =>
      match digitValue radix c with
      | some digit =>
          let (digits, rest) := spanDigits radix text
          (digit :: digits, rest)
      | none => ([], c :: text)

def valueOf (radix : Nat) (digits : List Nat) : Nat :=
  digits.foldl (fun value digit => value * radix + digit) 0

/-- `read_number`: a nonempty run of digits whose value is below `bound`.  A
digit limit rejects longer runs, and leading zeros may be forbidden. -/
def number (radix : Nat) (maxDigits : Option Nat) (allowZeroPrefix : Bool)
    (bound : Nat) : Reader Nat := fun text =>
  let (digits, rest) := spanDigits radix text
  if digits.isEmpty then none
  else if maxDigits.any (· < digits.length) then none
  else if !allowZeroPrefix && digits.head? == some 0 && 1 < digits.length then
    none
  else if valueOf radix digits < bound then some (valueOf radix digits, rest)
  else none

def givenChar (target : Char) : Reader Unit
  | c :: text => if c = target then some ((), text) else none
  | [] => none

/-- `read_separator`: all items but the first are preceded by a separator. -/
def separator (sep : Char) (index : Nat) (inner : Reader α) : Reader α :=
  fun text =>
    if index = 0 then inner text
    else (givenChar sep text).bind fun (_, rest) => inner rest

def ipv4Octet (index : Nat) : Reader Nat :=
  separator '.' index (number 10 (some 3) false 256)

def ipv4Addr : Reader Ipv4Addr := fun text => do
  let (a, text) ← ipv4Octet 0 text
  let (b, text) ← ipv4Octet 1 text
  let (c, text) ← ipv4Octet 2 text
  let (d, text) ← ipv4Octet 3 text
  return (Ipv4Addr.ofOctets a b c d, text)

/-- `read_groups`: up to `limit` groups, read as long as there are any.  The
flag says that the last two groups came from an embedded IPv4 address. -/
def groups (limit : Nat) : Nat → Nat → List Char →
    List Nat × Bool × List Char
  | 0, _, text => ([], false, text)
  | left + 1, index, text =>
      let embedded :=
        if index < limit - 1 then separator ':' index ipv4Addr text else none
      match embedded with
      | some (addr, rest) =>
          ([addr.toNat / 65536, addr.toNat % 65536], true, rest)
      | none =>
          match separator ':' index (number 16 (some 4) true 65536) text with
          | some (group, rest) =>
              let (more, isIpv4, rest) := groups limit left (index + 1) rest
              (group :: more, isIpv4, rest)
          | none => ([], false, text)

def ipv6Addr : Reader Ipv6Addr := fun text =>
  let (head, headIpv4, text) := groups 8 8 0 text
  if head.length = 8 then some (Ipv6Addr.ofSegments head, text)
  else if headIpv4 then none
  else do
    let (_, text) ← givenChar ':' text
    let (_, text) ← givenChar ':' text
    let limit := 8 - (head.length + 1)
    let (tail, _, text) := groups limit limit 0 text
    let zeros := List.replicate (8 - head.length - tail.length) 0
    return (Ipv6Addr.ofSegments (head ++ zeros ++ tail), text)

def ipAddr : Reader IpAddr := fun text =>
  match ipv4Addr text with
  | some (addr, rest) => some (.v4 addr, rest)
  | none => (ipv6Addr text).map fun (addr, rest) => (.v6 addr, rest)

def port : Reader UInt16 := fun text => do
  let (_, text) ← givenChar ':' text
  let (value, text) ← number 10 none true 65536 text
  return (UInt16.ofNat value, text)

def scopeId : Reader UInt32 := fun text => do
  let (_, text) ← givenChar '%' text
  let (value, text) ← number 10 none true 4294967296 text
  return (UInt32.ofNat value, text)

def socketAddrV4 : Reader SocketAddr := fun text => do
  let (addr, text) ← ipv4Addr text
  let (portNumber, text) ← port text
  return (.v4 addr portNumber, text)

def socketAddrV6 : Reader SocketAddr := fun text => do
  let (_, text) ← givenChar '[' text
  let (addr, text) ← ipv6Addr text
  let (scope, text) := (scopeId text).getD (0, text)
  let (_, text) ← givenChar ']' text
  let (portNumber, text) ← port text
  return (.v6 addr portNumber 0 scope, text)

def socketAddr : Reader SocketAddr := fun text =>
  (socketAddrV4 text).orElse fun _ => socketAddrV6 text

/-- `parse_with`: nothing may remain. -/
def whole (reader : Reader α) (text : String) : Option α :=
  match reader text.toList with
  | some (value, []) => some value
  | _ => none

end Reader

/-- Texts longer than the longest dotted quad are refused before reading. -/
def Ipv4Addr.parse? (text : String) : Option Ipv4Addr :=
  if text.utf8ByteSize > 15 then none else Reader.ipv4Addr.whole text

def IpAddr.parse? (text : String) : Option IpAddr :=
  Reader.ipAddr.whole text

def SocketAddr.parse? (text : String) : Option SocketAddr :=
  Reader.socketAddr.whole text

/-- `u8::from_str`: decimal digits after an optional plus sign. -/
def parseU8? (text : String) : Option Nat :=
  let digits := match text.toList with
    | '+' :: rest => rest
    | all => all
  match Reader.number 10 none true 256 digits with
  | some (value, []) => some value
  | _ => none

/-- `split_once`: the text before and after the first separator. -/
def splitOnce (sep : Char) : List Char → Option (List Char × List Char)
  | [] => none
  | c :: text =>
      if c = sep then some ([], text)
      else (splitOnce sep text).map fun (before, after) => (c :: before, after)

/-! ## Display -/

def Ipv4Addr.display (addr : Ipv4Addr) : String :=
  let octet (shift : Nat) := toString (addr.toNat / 2 ^ shift % 256)
  octet 24 ++ "." ++ octet 16 ++ "." ++ octet 8 ++ "." ++ octet 0

def Ipv6Addr.segments (addr : Ipv6Addr) : List Nat :=
  (List.range 8).map fun index => addr.toNat / 2 ^ (112 - 16 * index) % 65536

/-- Start and length of the first longest run of zero segments. -/
def longestZeros (segments : List Nat) : Nat × Nat :=
  let visit (spans : (Nat × Nat) × (Nat × Nat)) (item : Nat × Nat) :=
    let (longest, current) := spans
    if item.1 = 0 then
      let start := if current.2 = 0 then item.2 else current.1
      let current := (start, current.2 + 1)
      (if longest.2 < current.2 then current else longest, current)
    else (longest, (0, 0))
  (segments.zipIdx.foldl visit ((0, 0), (0, 0))).1

def hexSegments (segments : List Nat) : String :=
  ":".intercalate (segments.map fun segment =>
    String.ofList (Nat.toDigits 16 segment))

def Ipv6Addr.display (addr : Ipv6Addr) : String :=
  let segments := addr.segments
  if segments.take 6 = [0, 0, 0, 0, 0, 65535] then
    "::ffff:" ++ Ipv4Addr.display (addr.setWidth 32)
  else
    let (start, length) := longestZeros segments
    if 1 < length then
      hexSegments (segments.take start) ++ "::" ++
        hexSegments (segments.drop (start + length))
    else hexSegments segments

def IpAddr.display : IpAddr → String
  | .v4 addr => Ipv4Addr.display addr
  | .v6 addr => Ipv6Addr.display addr

def SocketAddr.display : SocketAddr → String
  | .v4 addr portNumber =>
      Ipv4Addr.display addr ++ ":" ++ toString portNumber.toNat
  | .v6 addr portNumber _ scopeId =>
      let scope := if scopeId = 0 then "" else "%" ++ toString scopeId.toNat
      "[" ++ Ipv6Addr.display addr ++ scope ++ "]:" ++
        toString portNumber.toNat

end Cortado.Net
