import StreamRoster.Text.CodeTable
import StreamRoster.Text.CompositionTable

/-!
# Composed Text

Text in its composed form: letters with marks are single characters where
such characters exist, and the marks that remain stand in a fixed order.

A text is taken apart completely, its marks are put in order, and then each
letter takes up the marks it has a composed character with. Characters that
are canonically one single other character, and those that are excluded from
composition, are left as they are.

## Main definitions

* `Text.decompose`: A text taken apart.
* `Text.orderMarks`: A text with its marks in order.
* `Text.compose`: A text put together.
* `Text.composedForm`: The composed form of a text.
-/

namespace StreamRoster

namespace Text

/-- The composed characters and their parts. -/
def composedEntries : List CodeEntry := CodeEntry.ofLines composed

/-- The combining classes of marks. -/
def classEntries : List CodeEntry := CodeEntry.ofLines classes

/-- The combining class of a character, zero if it is no mark that can be
    reordered. -/
def markClass (c : Char) : Nat :=
  match CodeEntry.find? classEntries c with
  | some { target := [k], .. } => k
  | _ => 0

namespace Hangul

/-- Where the syllables start, and the leading, vowel and trailing parts. -/
def syllables : Nat := 0xac00

/-- The first leading consonant. -/
def leading : Nat := 0x1100

/-- The first vowel. -/
def vowels : Nat := 0x1161

/-- The code point before the first trailing consonant. -/
def trailing : Nat := 0x11a7

/-- The parts of a syllable: a shorter syllable with a trailing consonant, or
    a leading consonant with a vowel. -/
def parts? (c : Char) : Option (Char × Char) :=
  let n := c.toNat
  if n < syllables || syllables + 11172 ≤ n then none
  else
    let i := n - syllables
    if i % 28 = 0 then
      some (Char.ofNat (leading + i / 588), Char.ofNat (vowels + i % 588 / 28))
    else some (Char.ofNat (n - i % 28), Char.ofNat (trailing + i % 28))

/-- The syllable of two parts. -/
def syllable? (a b : Char) : Option Char :=
  let m := a.toNat
  let n := b.toNat
  if leading ≤ m && m < leading + 19 && vowels ≤ n && n < vowels + 21 then
    some (Char.ofNat (syllables + (m - leading) * 588 + (n - vowels) * 28))
  else if syllables ≤ m && m < syllables + 11172 && (m - syllables) % 28 = 0 && trailing < n &&
      n < trailing + 28 then
    some (Char.ofNat (m + (n - trailing)))
  else none

end Hangul

/-- The two parts of a composed character. -/
def parts? (c : Char) : Option (Char × Char) :=
  match Hangul.parts? c with
  | some parts => some parts
  | none => match CodeEntry.find? composedEntries c with
    | some { target := [a, b], .. } => some (Char.ofNat a, Char.ofNat b)
    | _ => none

/-- The composed character of two parts. -/
def composed? (a b : Char) : Option Char :=
  match Hangul.syllable? a b with
  | some c => some c
  | none =>
    (composedEntries.find? fun entry => entry.target = [a.toNat, b.toNat]).map
      fun entry => Char.ofNat entry.source.first

/-- How often a composed character can be taken apart again. -/
def depth : Nat := 4

/-- A character taken apart, its first part again and again. -/
def decomposeChar : Nat → Char → List Char
  | 0, c => [c]
  | fuel + 1, c => match parts? c with
    | none => [c]
    | some (a, b) => decomposeChar fuel a ++ [b]

/-- A text taken apart. -/
def decompose (s : List Char) : List Char := s.flatMap (decomposeChar depth)

/-- Put a character in front of ordered text, behind the marks of lower
    class that it starts with. -/
def placeMark (c : Char) : List Char → List Char
  | [] => [c]
  | d :: s =>
    if 0 < markClass d && markClass d < markClass c then d :: placeMark c s else c :: d :: s

/-- A text with its marks in order. -/
def orderMarks (s : List Char) : List Char := s.foldr placeMark []

/-- Compose the characters behind a letter with it. The marks that stay apart
    are kept in reverse, and a mark of the same class as one of them, or a
    lower one, stays apart as well. -/
def composeOn (letter : Char) (apart : List Char) : List Char → List Char
  | [] => letter :: apart.reverse
  | c :: s =>
    let near := match apart with
      | [] => true
      | last :: _ => markClass last < markClass c
    match if near then composed? letter c else none with
    | some d => composeOn d apart s
    | none =>
      if markClass c = 0 then letter :: apart.reverse ++ composeOn c [] s
      else composeOn letter (c :: apart) s

/-- A text put together. -/
def compose : List Char → List Char
  | [] => []
  | c :: s => composeOn c [] s

/-- The composed form of a text. -/
def composedForm (s : List Char) : List Char := compose (orderMarks (decompose s))

end Text

end StreamRoster
