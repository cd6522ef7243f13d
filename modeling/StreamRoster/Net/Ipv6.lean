import StreamRoster.Net.Ipv4

/-!
# IPv6 Addresses

Addresses of eight groups of 16 bits. Two colons stand for one or more
groups of zeros, and the last two groups may be written as an IPv4 address.

## Main definitions

* `Ipv6`: An address.
* `Ipv6.read?`: Reads an address.
* `Ipv6.text`: The groups of an address, with its longest run of zeros left
  out.
-/

namespace StreamRoster

/-- An address of eight groups. -/
structure Ipv6 where
  groups : List UInt16
  size : groups.length = 8
  deriving DecidableEq

namespace Ipv6

/-- A group of one to four hexadecimal digits. -/
def group? (s : List Char) : Option UInt16 :=
  if s.isEmpty || 4 < s.length then none else (Ipv4.number? 16 s).map UInt16.ofNat

/-- The two groups of an IPv4 address. -/
def ipv4Groups (a : Ipv4) : List UInt16 :=
  [UInt16.ofNat (a.value.toNat / 0x10000), UInt16.ofNat (a.value.toNat % 0x10000)]

/-- The groups of the parts between colons. The last part of an address may be
    an IPv4 address. -/
def partGroups? (final : Bool) : List (List Char) → Option (List UInt16)
  | [] => some []
  | [part] =>
    match if final then Ipv4.read? part else none with
    | some a => some (ipv4Groups a)
    | none => (group? part).map ([·])
  | part :: parts => do some ((← group? part) :: (← partGroups? final parts))

/-- The groups of a text without two colons in a row. -/
def groups? (final : Bool) (s : List Char) : Option (List UInt16) :=
  if s.isEmpty then some [] else partGroups? final (Text.split (· = ':') s)

/-- The text around the first two colons in a row. -/
def cut? : List Char → Option (List Char × List Char)
  | [] => none
  | ':' :: ':' :: s => some ([], s)
  | c :: s => (cut? s).map fun (before, after) => (c :: before, after)

/-- The address of eight groups. -/
def ofGroups? (groups : List UInt16) : Option Ipv6 :=
  if h : groups.length = 8 then some ⟨groups, h⟩ else none

/-- Read an address. -/
def read? (s : List Char) : Option Ipv6 :=
  match cut? s with
  | none => (groups? true s).bind ofGroups?
  | some (before, after) => do
    let head ← groups? false before
    let tail ← groups? true after
    if head.length + tail.length < 8 then
      ofGroups? (head ++ List.replicate (8 - head.length - tail.length) 0 ++ tail)
    else none

/-- The hexadecimal digits of a group. -/
def groupText (g : UInt16) : List Char := Nat.toDigits 16 g.toNat

/-- How many zeros the groups start with. -/
def zeros (groups : List UInt16) : Nat := (groups.takeWhile (· = 0)).length

/-- Where the longest run of zeros starts, the first one of several, and how
    long it is. -/
def longestZeros (groups : List UInt16) : Nat × Nat :=
  (List.range groups.length).foldl (fun best i =>
    let n := zeros (groups.drop i)
    if best.2 < n then (i, n) else best) (0, 0)

/-- The groups of an address with its longest run of zeros left out. A single
    zero is written. -/
def text (a : Ipv6) : List Char :=
  let write (groups : List UInt16) : List Char := Text.join ':' (groups.map groupText)
  let (start, length) := longestZeros a.groups
  if 2 ≤ length then
    write (a.groups.take start) ++ [':', ':'] ++ write (a.groups.drop (start + length))
  else write a.groups

end Ipv6

end StreamRoster
