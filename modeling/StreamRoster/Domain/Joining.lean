import StreamRoster.Domain.JoiningTable
import StreamRoster.Text.CodeTable

/-!
# Joiners

Two characters without appearance change how letters join. A name may
contain them only where they change something: behind a mark that suppresses
a vowel, and the one that separates letters also between letters that would
join.

## Main definitions

* `Domain.joinersFit`: Whether all joiners in a label have their place.
* `Domain.isMark`: Whether a character is a combining mark.
-/

namespace StreamRoster

namespace Domain

/-- The joiner that connects. -/
def connecting : Char := '\u200D'

/-- The joiner that separates. -/
def separating : Char := '\u200C'

/-- Whether a character is a combining mark. -/
def isMark (c : Char) : Bool := (CodeRun.ofLines mark).any (·.has c)

/-- Whether a character suppresses a vowel. -/
def isVirama (c : Char) : Bool := (CodeRun.ofLines virama).any (·.has c)

/-- Whether letters join across a character. -/
def isTransparent (c : Char) : Bool := (CodeRun.ofLines transparent).any (·.has c)

/-- Whether a letter joins to the next one. -/
def joinsForward (c : Char) : Bool :=
  (CodeRun.ofLines joinsBoth).any (·.has c) || (CodeRun.ofLines joinsNext).any (·.has c)

/-- Whether a letter joins to the previous one. -/
def joinsBackward (c : Char) : Bool :=
  (CodeRun.ofLines joinsBoth).any (·.has c) || (CodeRun.ofLines joinsPrevious).any (·.has c)

/-- Whether the letter that a text starts with, behind characters that do not
    count, satisfies a test. -/
def nextLetter (p : Char → Bool) (s : List Char) : Bool :=
  match s.dropWhile isTransparent with
  | c :: _ => p c
  | [] => false

/-- Whether a joiner between some text, given in reverse, and some other text
    has its place there. -/
def joinerFits (joiner : Char) (before after : List Char) : Bool :=
  match before with
  | [] => false
  | c :: _ =>
    isVirama c ||
      (joiner = separating && nextLetter joinsForward before && nextLetter joinsBackward after)

/-- Whether all joiners in a label have their place, when `before` stands in
    front of it in reverse. -/
def joinersFitBehind (before : List Char) : List Char → Bool
  | [] => true
  | c :: s =>
    (if c = connecting || c = separating then joinerFits c before s else true) &&
      joinersFitBehind (c :: before) s

/-- Whether all joiners in a label have their place. -/
def joinersFit (label : List Char) : Bool := joinersFitBehind [] label

end Domain

end StreamRoster
