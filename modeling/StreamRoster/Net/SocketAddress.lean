import StreamRoster.Net.Ipv6
import StreamRoster.Number.Unsigned

/-!
# Socket Addresses

An address with a port: an IPv4 address, or an IPv6 address in brackets,
which may name the scope it is valid in. Host names are not read.

## Main definitions

* `SocketAddress`: An address with a port.
* `SocketAddress.read?`: Reads an address with a port.
* `SocketAddress.text`: The text of an address with a port.
-/

namespace StreamRoster

/-- An address with a port. -/
inductive SocketAddress where
  | ipv4 (address : Ipv4) (port : UInt16)
  | ipv6 (address : Ipv6) (scope : UInt32) (port : UInt16)
  deriving DecidableEq

namespace SocketAddress

/-- A decimal number below a limit, leading zeros allowed. -/
def number? (limit : Nat) (s : List Char) : Option Nat :=
  match s with
  | '+' :: _ => none
  | s => match Unsigned.read limit s with
    | .ok n => some n
    | .error _ => none

/-- A port. -/
def port? (s : List Char) : Option UInt16 := (number? 0x10000 s).map UInt16.ofNat

/-- The text before the first character `c` and the text behind it. -/
def cut? (c : Char) (s : List Char) : Option (List Char × List Char) :=
  match s.dropWhile (· ≠ c) with
  | [] => none
  | _ :: after => some (s.takeWhile (· ≠ c), after)

/-- The address and scope between brackets. -/
def scoped? (s : List Char) : Option (Ipv6 × UInt32) :=
  match cut? '%' s with
  | none => (Ipv6.read? s).map fun a => (a, 0)
  | some (address, scope) => do
    some (← Ipv6.read? address, UInt32.ofNat (← number? 0x100000000 scope))

/-- Read an address with a port. -/
def read? (s : List Char) : Option SocketAddress :=
  match s with
  | '[' :: s => do
    let (address, rest) ← cut? ']' s
    let (address, scope) ← scoped? address
    match rest with
    | ':' :: port => some (.ipv6 address scope (← port? port))
    | _ => none
  | s => do
    let (address, port) ← cut? ':' s
    some (.ipv4 (← Ipv4.read? address) (← port? port))

/-- The text of an IPv6 address, in which a mapped IPv4 address keeps its four
    numbers. -/
def ipv6Text (a : Ipv6) : List Char :=
  match a.groups with
  | [0, 0, 0, 0, 0, 0xffff, high, low] =>
    "::ffff:".toList ++ (Ipv4.mk (UInt32.ofNat (high.toNat * 0x10000 + low.toNat))).text
  | _ => a.text

/-- The text of an address with a port. -/
def text : SocketAddress → List Char
  | .ipv4 a port => a.text ++ ':' :: (toString port.toNat).toList
  | .ipv6 a scope port =>
    '[' :: ipv6Text a ++ (if scope = 0 then [] else '%' :: (toString scope.toNat).toList) ++
      [']', ':'] ++ (toString port.toNat).toList

end SocketAddress

end StreamRoster
