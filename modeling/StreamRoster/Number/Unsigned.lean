import StreamRoster.Number.FloatText

/-!
# Unsigned Integers in Text

Reading a natural below a limit from decimal digits, with an optional plus
sign. Characters are taken from the left, and the first one that is not a
digit or that carries the number past the limit decides the error.

## Main definitions

* `Unsigned.Fault`: Why a text is no natural below the limit.
* `Unsigned.read`: Reads a natural below a limit.
-/

namespace StreamRoster

namespace Unsigned

/-- Why a text is no natural below the limit. -/
inductive Fault where
  | empty
  | invalidDigit
  | tooLarge
  deriving DecidableEq, Repr

/-- The wording of a fault. -/
def Fault.message : Fault → String
  | .empty => "cannot parse integer from empty string"
  | .invalidDigit => "invalid digit found in string"
  | .tooLarge => "number too large to fit in target type"

/-- Append digits to a natural that has to stay below the limit. -/
def readDigits (limit : Nat) : Nat → List Char → Except Fault Nat
  | n, [] => .ok n
  | n, c :: s =>
    if !c.isDigit then .error .invalidDigit
    else
      let m := n * 10 + FloatText.digitValue c
      if m < limit then readDigits limit m s else .error .tooLarge

/-- Read a natural below a limit: an optional plus sign and digits. -/
def read (limit : Nat) : List Char → Except Fault Nat
  | [] => .error .empty
  | ['+'] => .error .invalidDigit
  | '+' :: s => readDigits limit 0 s
  | s => readDigits limit 0 s

end Unsigned

end StreamRoster
