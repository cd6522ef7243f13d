/-!
# Base64

Bytes as text: three bytes become four characters, and a group that is not
full is filled up with equals signs.

## Main definitions

* `Base64.encode`: The text of some bytes.
-/

namespace StreamRoster

namespace Base64

/-- The character of six bits. -/
def digit (n : Nat) : Char :=
  if n < 26 then Char.ofNat ('A'.toNat + n)
  else if n < 52 then Char.ofNat ('a'.toNat + (n - 26))
  else if n < 62 then Char.ofNat ('0'.toNat + (n - 52))
  else if n = 62 then '+'
  else '/'

/-- The four characters of 24 bits. -/
def group (n : Nat) : List Char :=
  [digit (n / 0x40000 % 64), digit (n / 0x1000 % 64), digit (n / 0x40 % 64), digit (n % 64)]

/-- The text of some bytes. -/
def encode : List UInt8 → List Char
  | [] => []
  | [a] => (group (a.toNat * 0x10000)).take 2 ++ ['=', '=']
  | [a, b] => (group (a.toNat * 0x10000 + b.toNat * 0x100)).take 3 ++ ['=']
  | a :: b :: c :: rest =>
    group (a.toNat * 0x10000 + b.toNat * 0x100 + c.toNat) ++ encode rest

end Base64

end StreamRoster
