import StreamRoster.Number.FloatText

/-!
# JSON Numbers

The value of a number token.

A token without a fraction or an exponent is an integer as long as it fits
the range of signed or unsigned 64-bit integers, and a float beyond that.
Every other token is a float. A negative zero has no integer form, so `-0`
is the float `-0.0`.

Reading a float keeps as many leading digits as fit 64 bits, and scales
that natural by one power of ten with one rounding; exponents below the
smallest power of ten take a second step. The result may differ in the last
place from the nearest number.

## Main definitions

* `Json.Number`: The value of a number token.
* `Json.Number.scale`: A natural of 64 bits times a power of ten.
* `Json.Number.toDouble`: The float nearest to a number.
* `Json.Number.text`: A number as it is written.
-/

namespace StreamRoster

namespace Json

/-- The value of a number token: an integer from `-2 ^ 63` to `2 ^ 64 - 1`,
    or a float. -/
inductive Number where
  | integer (n : Int)
  | float (x : Double)
  deriving DecidableEq, Repr

namespace Number

/-- The first natural that does not fit 64 bits. -/
def limit : Nat := 0x10000000000000000

/-- A natural of 64 bits times a power of ten, or `none` if that is out of
    range. Every step rounds. -/
def scale (negative : Bool) (digits : Nat) (exponent : Int) : Option Double :=
  let start := Double.ofRatio negative digits 1
  match exponent with
  | .ofNat k =>
    if k ≤ 308 then
      match start.mul (Double.powerOfTen k) with
      | .infinite _ => none
      | x => some x
    else if digits = 0 then some start
    else none
  | .negSucc k =>
    let k := k + 1
    if k ≤ 308 then some (start.div (Double.powerOfTen k))
    -- The table ends at ten to the 308th, so the division takes two steps.
    else if k ≤ 616 then
      some ((start.div (Double.powerOfTen 308)).div (Double.powerOfTen (k - 308)))
    else some (Double.zero negative)

/-- The value of an integer token whose digits fit 64 bits. -/
def ofDigits (negative : Bool) (digits : Nat) : Number :=
  if !negative then .integer digits
  else if digits = 0 || 0x8000000000000000 < digits then .float (Double.ofRatio true digits 1)
  else .integer (-digits)

/-- The float nearest to a number. -/
def toDouble : Number → Double
  | .integer n => Double.ofInt n
  | .float x => x

/-- A number as it is written. -/
def text : Number → String
  | .integer n => toString n
  | .float x => FloatText.render FloatText.wire x

end Number

end Json

end StreamRoster
