import StreamRoster.Number.Double

/-!
# Shortest Decimals

The fewest decimal digits that still name one binary64 number.

Every finite number owns the interval of reals that round to it; the ends
belong to it exactly when its significand is even. A decimal with `n` digits
lies on a grid of powers of ten, and if any point of that grid falls into
the interval, then one of the two grid points next to the number does. So
for one digit, two digits, and so on, testing those two points finds the
shortest decimal, and of two points that both fall inside the nearer is
taken. Seventeen digits always suffice.

The search is exact: intervals and grid points are compared as quotients of
naturals.

## Main definitions

* `Decimal`: Digits and the power of ten of the first of them.
* `Decimal.shortest`: The shortest decimal inside a number's interval.
-/

namespace StreamRoster

/-- A positive decimal `d.ddd… · 10 ^ exponent`. The digits are given as one
    natural, without trailing zeros. -/
structure Decimal where
  digits : Nat
  exponent : Int
  deriving DecidableEq, Repr

namespace Decimal

/-- The characters of a natural in base ten. -/
def digitChars (n : Nat) : List Char := Nat.toDigits 10 n

/-- How many digits a natural has in base ten. -/
def digitCount (n : Nat) : Nat := (digitChars n).length

/-- The decimal exponent of `num / den`: the greatest `e` with
    `10 ^ e ≤ num / den`. -/
def magnitude (num den : Nat) : Int :=
  if den ≤ num then (digitCount (num / den) : Int) - 1
  else - (digitCount ((den + num - 1) / num - 1) : Int)

/-- Compare `c · 10 ^ j` with `num / den`. -/
def compareGrid (c : Nat) (j : Int) (num den : Nat) : Ordering :=
  match j with
  | .ofNat k => compare (c * Nat.pow 10 k * den) num
  | .negSucc k => compare (c * den) (num * Nat.pow 10 (k + 1))

/-- The greatest `c` with `c · 10 ^ j ≤ num / den`. -/
def gridFloor (j : Int) (num den : Nat) : Nat :=
  match j with
  | .ofNat k => num / (den * Nat.pow 10 k)
  | .negSucc k => num * Nat.pow 10 (k + 1) / den

/-- The interval of reals that round to a number, in quarters of its last
    place: the number itself, its lower and its upper end. -/
structure Interval where
  value : Nat × Nat
  lower : Nat × Nat
  upper : Nat × Nat
  closed : Bool

/-- The interval of `significand · 2 ^ exponent`. Just above a power of two
    the numbers below lie twice as close. -/
def Interval.of (significand : Nat) (exponent : Int) : Interval :=
  let narrow := significand = 0x10000000000000 ∧ Double.leastExponent < exponent
  { value := Double.ratio (4 * significand) (exponent - 2)
    lower := Double.ratio (4 * significand - if narrow then 1 else 2) (exponent - 2)
    upper := Double.ratio (4 * significand + 2) (exponent - 2)
    closed := significand % 2 = 0 }

/-- Whether `c · 10 ^ j` rounds to the number. -/
def Interval.holds (i : Interval) (c : Nat) (j : Int) : Bool :=
  match compareGrid c j i.lower.1 i.lower.2, compareGrid c j i.upper.1 i.upper.2 with
  | .gt, .lt => true
  | .eq, .lt | .gt, .eq => i.closed
  | _, _ => false

/-- The grid point next to the number that rounds to it, the nearer one if
    both do. -/
def Interval.neighbour? (i : Interval) (j : Int) : Option Nat :=
  let below := gridFloor j i.value.1 i.value.2
  match i.holds below j, i.holds (below + 1) j with
  | false, false => none
  | true, false => some below
  | false, true => some (below + 1)
  | true, true =>
    -- The middle of the two points is `(2 · below + 1) / 2`.
    match compareGrid (2 * below + 1) j (2 * i.value.1) i.value.2 with
    | .gt => some below
    | .lt => some (below + 1)
    | .eq => some (below + below % 2)

/-- A natural without its trailing zeros, and how many there were. -/
def stripZeros : Nat → Nat → Nat × Nat
  | 0, n => (n, 0)
  | fuel + 1, n =>
    if n ≠ 0 ∧ n % 10 = 0 then
      let stripped := stripZeros fuel (n / 10)
      (stripped.1, stripped.2 + 1)
    else (n, 0)

/-- The decimal `c · 10 ^ j`. -/
def ofGrid (c : Nat) (j : Int) : Decimal :=
  { digits := (stripZeros (digitCount c) c).1
    exponent := j + (digitCount c : Int) - 1 }

/-- Search the grids with `count`, `count + 1`, … digits for a neighbour. -/
def search (i : Interval) (e : Int) : Nat → Nat → Decimal
  | 0, count =>
    let j := e - count + 1
    ofGrid (gridFloor j i.value.1 i.value.2) j
  | fuel + 1, count =>
    let j := e - count + 1
    match i.neighbour? j with
    | some c => ofGrid c j
    | none => search i e fuel (count + 1)

/-- The shortest decimal that rounds to `significand · 2 ^ exponent`, and of
    those the nearest. -/
def shortest (significand : Nat) (exponent : Int) : Decimal :=
  let i := Interval.of significand exponent
  search i (magnitude i.value.1 i.value.2) 17 1

end Decimal

end StreamRoster
