import StreamRoster.Domain.DirectionTable
import StreamRoster.Text.CodeTable

/-!
# Writing Direction

A name with letters that are written from right to left must not be shown
with its parts exchanged. So each of its labels keeps to one direction: it
starts with a letter of that direction, contains nothing of the other one,
and ends with a letter or a digit.

## Main definitions

* `Direction`: How a character behaves when the direction changes.
* `Domain.directionsFit`: Whether each label keeps to one direction, if that
  matters.
-/

namespace StreamRoster

/-- How a character behaves when the direction changes. -/
inductive Direction where
  | leftToRight
  | rightToLeft
  | europeanNumber
  | arabicNumber
  | neutral
  | nonspacing
  deriving DecidableEq, Repr

namespace Domain

/-- The direction of a character. -/
def direction (c : Char) : Direction :=
  let among (lines : List String) := (CodeRun.ofLines lines).any (·.has c)
  if among rightToLeft then .rightToLeft
  else if among arabicNumber then .arabicNumber
  else if among europeanNumber then .europeanNumber
  else if among neutral then .neutral
  else if among nonspacing then .nonspacing
  else .leftToRight

/-- Whether a direction makes the rule matter. -/
def turns (d : Direction) : Bool := d = .rightToLeft || d = .arabicNumber

/-- Whether a label written from left to right keeps to it. -/
def fitsLeftToRight (label : List Direction) : Bool :=
  label.all (fun d => !turns d) &&
    match label.reverse.dropWhile (· = .nonspacing) with
    | [] => true
    | last :: _ => last = .leftToRight || last = .europeanNumber

/-- Whether a label written from right to left keeps to it. -/
def fitsRightToLeft (label : List Direction) : Bool :=
  label.all (· ≠ .leftToRight) &&
    !(label.contains .europeanNumber && label.contains .arabicNumber) &&
    match label.reverse.dropWhile (· = .nonspacing) with
    | [] => true
    | last :: _ => last ≠ .neutral

/-- Whether a label keeps to the direction of its first letter. -/
def labelFits (label : List Direction) : Bool :=
  match label with
  | [] => true
  | .leftToRight :: _ => fitsLeftToRight label
  | .rightToLeft :: _ => fitsRightToLeft label
  | _ => false

/-- Whether each label keeps to one direction, if any of them is written from
    right to left. -/
def directionsFit (labels : List (List Char)) : Bool :=
  let directions := labels.map fun label => label.map direction
  !directions.any (·.any turns) || directions.all labelFits

end Domain

end StreamRoster
