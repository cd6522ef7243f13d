import StreamRoster.Text.Split

/-!
# IPv4 Addresses

Addresses of 32 bits and their two ways of being read: the strict one wants
four decimal numbers, the lenient one also takes fewer numbers, the last of
which fills the rest of the address, and numbers in octal and hexadecimal.

## Main definitions

* `Ipv4`: An address.
* `Ipv4.text`: The four numbers of an address.
* `Ipv4.read?`: Reads an address strictly.
* `Ipv4.readLenient?`: Reads an address leniently.
-/

namespace StreamRoster

/-- An address of 32 bits. -/
structure Ipv4 where
  value : UInt32
  deriving DecidableEq, Repr

namespace Ipv4

/-- The address of four bytes. -/
def ofBytes (a b c d : Nat) : Ipv4 := ⟨UInt32.ofNat (((a * 256 + b) * 256 + c) * 256 + d)⟩

/-- The bytes of an address. -/
def bytes (a : Ipv4) : List Nat :=
  let n := a.value.toNat
  [n / 0x1000000, n / 0x10000 % 256, n / 0x100 % 256, n % 256]

/-- The four numbers of an address. -/
def text (a : Ipv4) : List Char := Text.join '.' (a.bytes.map fun b => (toString b).toList)

/-- The value of a digit in a base up to sixteen. -/
def digit? (base : Nat) (c : Char) : Option Nat :=
  let d :=
    if c.isDigit then c.toNat - '0'.toNat
    else if 'a' ≤ c && c ≤ 'f' then c.toNat - 'a'.toNat + 10
    else if 'A' ≤ c && c ≤ 'F' then c.toNat - 'A'.toNat + 10
    else base
  if d < base then some d else none

/-- The number written in a base. No digits at all are zero. -/
def number? (base : Nat) (s : List Char) : Option Nat :=
  s.foldlM (fun n c => (digit? base c).map fun d => n * base + d) 0

/-- A decimal number below 256 without leading zeros. -/
def byte? (s : List Char) : Option Nat := do
  if s.isEmpty || 3 < s.length || (1 < s.length && s.head? = some '0') then none
  let n ← number? 10 s
  if n < 256 then some n else none

/-- Read an address strictly. -/
def read? (s : List Char) : Option Ipv4 :=
  match Text.split (· = '.') s with
  | [a, b, c, d] => do some (ofBytes (← byte? a) (← byte? b) (← byte? c) (← byte? d))
  | _ => none

/-- A number that is hexadecimal behind `0x`, octal behind `0`, and decimal
    otherwise. -/
def lenientNumber? (s : List Char) : Option Nat :=
  match s with
  | [] => none
  | '0' :: 'x' :: s | '0' :: 'X' :: s => number? 16 s
  | '0' :: c :: s => number? 8 (c :: s)
  | s => number? 10 s

/-- The address of some bytes and a number that fills the rest of it. -/
def fill? (bytes : List Nat) (last : Nat) : Option Ipv4 :=
  let room := Nat.pow 256 (4 - bytes.length)
  if bytes.length ≤ 3 && bytes.all (· < 256) && last < room then
    some ⟨UInt32.ofNat (bytes.foldl (fun n b => n * 256 + b) 0 * room + last)⟩
  else none

/-- The parts of an address between its dots, without an empty last one. -/
def parts (s : List Char) : List (List Char) :=
  let all := Text.split (· = '.') s
  if all.getLast? = some [] then all.dropLast else all

/-- Read an address leniently. -/
def readLenient? (s : List Char) : Option Ipv4 := do
  let numbers ← (parts s).mapM lenientNumber?
  let last ← numbers.getLast?
  fill? numbers.dropLast last

/-- Whether a host name can only be an address, because a number stands at
    its end. -/
def endsInNumber (s : List Char) : Bool :=
  match (parts s).getLast? with
  | none => false
  | some last => (!last.isEmpty && last.all Char.isDigit) || (lenientNumber? last).isSome

end Ipv4

end StreamRoster
