/-!
# Blank Characters

The characters that count as white space in names and numbers typed by a
person, which are those with the Unicode property `White_Space`, and the
removal of them from both ends of a text.

## Main definitions

* `Text.isBlank`: Whether a character is white space.
* `Text.trim`: A text without white space at either end.
-/

namespace StreamRoster

namespace Text

/-- Whether a character has the Unicode property `White_Space`. -/
def isBlank (c : Char) : Bool :=
  let n := c.toNat
  (0x09 ≤ n && n ≤ 0x0d) || n = 0x20 || n = 0x85 || n = 0xa0 || n = 0x1680
    || (0x2000 ≤ n && n ≤ 0x200a) || n = 0x2028 || n = 0x2029 || n = 0x202f
    || n = 0x205f || n = 0x3000

/-- A list without the elements at its end that satisfy a test. -/
def dropEndWhile (p : α → Bool) (s : List α) : List α :=
  (s.reverse.dropWhile p).reverse

/-- A text without white space at its start. -/
def trimStart (s : List Char) : List Char := s.dropWhile isBlank

/-- A text without white space at either end. -/
def trim (s : List Char) : List Char := dropEndWhile isBlank (trimStart s)

end Text

end StreamRoster
