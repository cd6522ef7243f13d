/-!
# UTF-8

Text as bytes, and bytes as text.

Bytes that are not UTF-8 are either refused, or replaced: every longest run
of bytes that starts a character without finishing it, and every byte that
cannot start one, becomes one replacement character.

## Main definitions

* `Text.utf8`: The bytes of a text.
* `Text.ofUtf8?`: The text of bytes that are UTF-8.
* `Text.ofUtf8Lossy`: The text of any bytes.
-/

namespace StreamRoster

namespace Text

/-- The bytes of a text. -/
def utf8 (s : List Char) : List UInt8 := s.flatMap String.utf8EncodeChar

/-- The text of bytes, if they are UTF-8. -/
def ofUtf8? (bytes : List UInt8) : Option (List Char) :=
  bytes.toByteArray.utf8Decode?.map Array.toList

/-- Which bytes may come second in a character, by its first byte. -/
def secondRange (first : Nat) : Nat × Nat :=
  if first = 0xe0 then (0xa0, 0xbf)
  else if first = 0xed then (0x80, 0x9f)
  else if first = 0xf0 then (0x90, 0xbf)
  else if first = 0xf4 then (0x80, 0x8f)
  else (0x80, 0xbf)

/-- How many bytes a character has behind its first byte, or `none` if no
    character starts with it. -/
def followers? (first : Nat) : Option Nat :=
  if first < 0x80 then some 0
  else if 0xc2 ≤ first && first ≤ 0xdf then some 1
  else if 0xe0 ≤ first && first ≤ 0xef then some 2
  else if 0xf0 ≤ first && first ≤ 0xf4 then some 3
  else none

/-- Take the following bytes of a character: the code point if all are there,
    and the bytes left over. -/
def takeFollowers (range : Nat × Nat) : Nat → Nat → List UInt8 → Option Nat × List UInt8
  | 0, n, bytes => (some n, bytes)
  | _ + 1, _, [] => (none, [])
  | count + 1, n, b :: bytes =>
    if range.1 ≤ b.toNat && b.toNat ≤ range.2 then
      takeFollowers (0x80, 0xbf) count (n * 0x40 + (b.toNat - 0x80)) bytes
    else (none, b :: bytes)

/-- The bits of a code point in the first byte of its character. -/
def firstBits (followers first : Nat) : Nat :=
  match followers with
  | 0 => first
  | 1 => first - 0xc0
  | 2 => first - 0xe0
  | _ => first - 0xf0

/-- Decode bytes with a step of fuel for each. -/
def decodeLossy : Nat → List UInt8 → List Char
  | 0, _ | _, [] => []
  | fuel + 1, b :: bytes =>
    match followers? b.toNat with
    | none => '\uFFFD' :: decodeLossy fuel bytes
    | some count =>
      match takeFollowers (secondRange b.toNat) count (firstBits count b.toNat) bytes with
      | (some n, rest) => Char.ofNat n :: decodeLossy fuel rest
      | (none, rest) => '\uFFFD' :: decodeLossy fuel rest

/-- The text of any bytes, with replacement characters for what is not
    UTF-8. -/
def ofUtf8Lossy (bytes : List UInt8) : List Char := decodeLossy bytes.length bytes

end Text

end StreamRoster
