/-!
# Binary64 Numbers

Floating-point numbers as plain data, so that reading, rounding and printing
them are ordinary arithmetic on integers.

A finite number is `significand · 2 ^ exponent` with a sign. Rounding goes
through one function: `Double.ofRatio` takes an exact quotient of naturals
to its nearest binary64 number, and conversion, multiplication and division
are that function applied to an exact result.

## Main definitions

* `Double`: A binary64 number.
* `Double.ofRatio`: The number nearest to a quotient, ties to the even one.
* `Double.mul`, `Double.div`: Correctly rounded product and quotient.
* `Double.ofInt`: The number nearest to an integer.
* `Double.sameNumber`: Numerical equality, under which the two zeros agree
  and a NaN differs from itself.
-/

namespace StreamRoster

/-- A binary64 number. A finite one has the value
    `± significand · 2 ^ exponent`; its significand is below `2 ^ 53`, and it
    is at least `2 ^ 52` unless the exponent is the least one, `-1074`. -/
inductive Double where
  | nan
  | infinite (negative : Bool)
  | finite (negative : Bool) (significand : Nat) (exponent : Int)
  deriving DecidableEq, Repr

namespace Double

/-- The exponent below which no significand bit is kept. -/
def leastExponent : Int := -1074

/-- The largest exponent of a finite number. -/
def greatestExponent : Int := 971

/-- The zero of either sign. -/
def zero (negative : Bool) : Double := .finite negative 0 leastExponent

/-- Numerator and denominator of `num / (den · 2 ^ e)`. -/
def scaleRatio (num den : Nat) : Int → Nat × Nat
  | .ofNat k => (num, den * Nat.pow 2 k)
  | .negSucc k => (num * Nat.pow 2 (k + 1), den)

/-- The integer nearest to `num / den`; a half goes to the even neighbour. -/
def roundHalfEven (num den : Nat) : Nat :=
  let quotient := num / den
  let remainder := num % den
  if 2 * remainder < den then quotient
  else if den < 2 * remainder then quotient + 1
  else quotient + quotient % 2

/-- The exponent at which `num / den` has a significand of 53 bits. -/
def normalExponent (num den : Nat) : Int :=
  let guess : Int := (Nat.log2 num : Int) - Nat.log2 den - 52
  let scaled := scaleRatio num den guess
  if scaled.1 / scaled.2 < 0x10000000000000 then guess - 1 else guess

/-- The binary64 number nearest to `± num / den`. A tie goes to the even
    significand, and what is too large becomes infinite. -/
def ofRatio (negative : Bool) (num den : Nat) : Double :=
  if num = 0 then zero negative
  else
    let exponent := max (normalExponent num den) leastExponent
    let scaled := scaleRatio num den exponent
    let significand := roundHalfEven scaled.1 scaled.2
    let carried := significand = 0x20000000000000
    let exponent := if carried then exponent + 1 else exponent
    let significand := if carried then 0x10000000000000 else significand
    if greatestExponent < exponent then .infinite negative
    else .finite negative significand exponent

/-- The binary64 number nearest to an integer. -/
def ofInt (n : Int) : Double := ofRatio (n < 0) n.natAbs 1

/-- Numerator and denominator of `m · 2 ^ e`. -/
def ratio (significand : Nat) : Int → Nat × Nat
  | .ofNat k => (significand * Nat.pow 2 k, 1)
  | .negSucc k => (significand, Nat.pow 2 (k + 1))

/-- The rounded product. Only finite factors are multiplied. -/
def mul : Double → Double → Double
  | .finite s m e, .finite t n f =>
    let exact := ratio (m * n) (e + f)
    ofRatio (s != t) exact.1 exact.2
  | _, _ => .nan

/-- The rounded quotient. Only finite operands are divided, and the divisor
    is not zero. -/
def div : Double → Double → Double
  | .finite s m e, .finite t n f =>
    if n = 0 then .nan
    else
      let exact := scaleRatio m n (f - e)
      ofRatio (s != t) exact.1 exact.2
  | _, _ => .nan

/-- The binary64 number nearest to `10 ^ k`. -/
def powerOfTen (k : Nat) : Double := ofRatio false (Nat.pow 10 k) 1

/-- The number with the other sign. -/
def neg : Double → Double
  | .nan => .nan
  | .infinite s => .infinite !s
  | .finite s m e => .finite (!s) m e

/-- Whether the number is neither infinite nor NaN. -/
def isFinite : Double → Bool
  | .finite .. => true
  | _ => false

/-- Whether the number is a zero of either sign. -/
def isZero : Double → Bool
  | .finite _ m _ => m = 0
  | _ => false

/-- Numerical equality: a NaN differs from itself, and the two zeros agree. -/
def sameNumber (x y : Double) : Bool :=
  x != .nan && (x = y || (x.isZero && y.isZero))

end Double

end StreamRoster
