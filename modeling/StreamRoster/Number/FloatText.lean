import StreamRoster.Number.Shortest

/-!
# Float Text

How a floating-point number is written and read.

Writing takes the shortest decimal of the number and lays its digits out
under a record of decisions: which exponents are written positionally,
whether a whole number keeps a fraction, and the texts of the numbers that
have no digits. Two records are in use, one for JSON text and one for text
shown to a person.

## Main definitions

* `FloatText.Layout`: The decisions of one format.
* `FloatText.wire`: The layout inside JSON.
* `FloatText.plain`: The layout shown to a person.
* `FloatText.render`: A number under a layout.
* `FloatText.read?`: The number nearest to a decimal text.
-/

namespace StreamRoster

namespace FloatText

/-- The decisions of a number format. -/
structure Layout where
  /-- Whether a decimal exponent is written positionally. -/
  positional : Int → Bool
  /-- What follows the digits of a whole number written positionally. -/
  wholeSuffix : String
  nan : String
  infinity : String
  negativeInfinity : String

/-- JSON keeps a fraction on whole numbers, turns to an exponent from
    `10 ^ 16` and below `10 ^ -5`, and has no word for what is not finite. -/
def wire : Layout where
  positional e := -5 ≤ e && e < 16
  wholeSuffix := ".0"
  nan := "null"
  infinity := "null"
  negativeInfinity := "null"

/-- Text for a person never has an exponent, and a whole number no fraction. -/
def plain : Layout where
  positional _ := true
  wholeSuffix := ""
  nan := "NaN"
  infinity := "inf"
  negativeInfinity := "-inf"

/-- The digits of a decimal with the point where its exponent puts it. -/
def positionalText (suffix : String) (d : Decimal) : String :=
  let digits := Decimal.digitChars d.digits
  match d.exponent with
  | .ofNat e =>
    if digits.length ≤ e + 1 then
      String.ofList (digits ++ List.replicate (e + 1 - digits.length) '0') ++ suffix
    else String.ofList (digits.take (e + 1)) ++ "." ++ String.ofList (digits.drop (e + 1))
  | .negSucc e => "0." ++ String.ofList (List.replicate e '0' ++ digits)

/-- The digits of a decimal with a point after the first and the exponent
    behind them, its sign always written. -/
def exponentText (d : Decimal) : String :=
  let mantissa := match Decimal.digitChars d.digits with
    | [] => ""
    | [first] => String.ofList [first]
    | first :: rest => String.ofList (first :: '.' :: rest)
  let sign := if d.exponent < 0 then "e-" else "e+"
  mantissa ++ sign ++ toString d.exponent.natAbs

/-- A number under a layout. -/
def render (layout : Layout) : Double → String
  | .nan => layout.nan
  | .infinite false => layout.infinity
  | .infinite true => layout.negativeInfinity
  | .finite negative significand exponent =>
    let magnitude :=
      if significand = 0 then "0" ++ layout.wholeSuffix
      else
        let d := Decimal.shortest significand exponent
        if layout.positional d.exponent then positionalText layout.wholeSuffix d
        else exponentText d
    if negative then "-" ++ magnitude else magnitude

/-- The value of a digit character. -/
def digitValue (c : Char) : Nat := c.toNat - '0'.toNat

/-- The natural written by a run of digits, appended to `start`. -/
def digitsValue (start : Nat) (digits : List Char) : Nat :=
  digits.foldl (fun n c => n * 10 + digitValue c) start

/-- The number nearest to `± digits · 10 ^ exponent`. Decimals far outside
    the range are settled by their magnitude alone. -/
def ofDecimal (negative : Bool) (digits : Nat) (exponent : Int) : Double :=
  let magnitude := exponent + Decimal.digitCount digits
  if digits = 0 || magnitude < -400 then Double.zero negative
  else if 400 < magnitude then .infinite negative
  else match exponent with
    | .ofNat k => Double.ofRatio negative (digits * Nat.pow 10 k) 1
    | .negSucc k => Double.ofRatio negative digits (Nat.pow 10 (k + 1))

/-- The exponent part of a decimal text: nothing, or `e`, a sign and digits. -/
def exponent? : List Char → Option Int
  | [] => some 0
  | c :: rest =>
    if c = 'e' || c = 'E' then
      let (negative, digits) := match rest with
        | '-' :: digits => (true, digits)
        | '+' :: digits => (false, digits)
        | digits => (false, digits)
      if digits.isEmpty || !digits.all Char.isDigit then none
      else
        let n : Int := digitsValue 0 digits
        some (if negative then -n else n)
    else none

/-- An unsigned decimal text: digits with an optional point among or around
    them, at least one digit, and an optional exponent. -/
def decimal? (negative : Bool) (s : List Char) : Option Double :=
  let whole := s.takeWhile Char.isDigit
  let rest := s.dropWhile Char.isDigit
  let (fraction, rest) := match rest with
    | '.' :: rest => (rest.takeWhile Char.isDigit, rest.dropWhile Char.isDigit)
    | rest => ([], rest)
  if whole.isEmpty && fraction.isEmpty then none
  else (exponent? rest).map fun e =>
    ofDecimal negative (digitsValue 0 (whole ++ fraction)) (e - fraction.length)

/-- Read a number from text: a sign, then `inf`, `infinity` or `nan` in any
    case, or a decimal. The decimal is rounded to the nearest number. -/
def read? (text : String) : Option Double :=
  let (negative, s) := match text.toList with
    | '-' :: s => (true, s)
    | '+' :: s => (false, s)
    | s => (false, s)
  let word := String.ofList (s.map Char.toLower)
  if word = "inf" || word = "infinity" then some (.infinite negative)
  else if word = "nan" then some .nan
  else decimal? negative s

end FloatText

end StreamRoster
