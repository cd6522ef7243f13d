import StreamRoster.Text.Utf8

/-!
# Percent Encoding

Bytes inside a URL, written as a percent sign and two hexadecimal digits.

## Main definitions

* `Percent.decode`: Bytes with the escapes resolved.
* `Percent.encode`: A text with some of its bytes escaped.
-/

namespace StreamRoster

namespace Percent

/-- The value of a hexadecimal digit. -/
def hexValue? (b : UInt8) : Option Nat :=
  let n := b.toNat
  if 0x30 ≤ n && n ≤ 0x39 then some (n - 0x30)
  else if 0x41 ≤ n && n ≤ 0x46 then some (n - 0x41 + 10)
  else if 0x61 ≤ n && n ≤ 0x66 then some (n - 0x61 + 10)
  else none

/-- The percent sign as a byte. -/
def sign : UInt8 := 0x25

/-- Resolve the escapes in some bytes. A percent sign without two digits
    behind it stands for itself. -/
def decode : List UInt8 → List UInt8
  | [] => []
  | b :: h :: l :: rest =>
    if b = sign then
      match hexValue? h, hexValue? l with
      | some high, some low => UInt8.ofNat (high * 16 + low) :: decode rest
      | _, _ => b :: decode (h :: l :: rest)
    else b :: decode (h :: l :: rest)
  | b :: rest => b :: decode rest

/-- An upper case hexadecimal digit. -/
def hexDigit (n : Nat) : Char := (Nat.digitChar n).toUpper

/-- The escape of a byte. -/
def escape (b : UInt8) : List Char :=
  ['%', hexDigit (b.toNat / 16), hexDigit (b.toNat % 16)]

/-- Whether a character of ASCII has no appearance. -/
def isControl (c : Char) : Bool := c.toNat < 0x20 || c.toNat = 0x7f

/-- Escape the ASCII characters that satisfy a test, and all others that are
    not ASCII. -/
def encode (escaped : Char → Bool) (s : List Char) : List Char :=
  s.flatMap fun c =>
    if c.toNat < 0x80 && !escaped c then [c] else (Text.utf8 [c]).flatMap escape

end Percent

end StreamRoster
