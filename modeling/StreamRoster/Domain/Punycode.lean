/-!
# Punycode

A text beyond ASCII written with letters, digits and hyphens. The ASCII
characters come first; behind a hyphen follow the others in ascending order,
each as the number of steps from the one before it.

## Main definitions

* `Punycode.encode`: The code of a text.
* `Punycode.decode?`: The text of a code.
-/

namespace StreamRoster

namespace Punycode

/-- The number of digits. -/
def base : Nat := 36

/-- The bias of the first number. -/
def initialBias : Nat := 72

/-- The first code point beyond ASCII. -/
def initialCode : Nat := 0x80

/-- How often the range of `base - 1` digits fits into the bias. -/
def scale (delta : Nat) : Nat × Nat :=
  if 455 < delta then
    let (rest, k) := scale (delta / 35)
    (rest, k + base)
  else (delta, 0)
termination_by delta
decreasing_by omega

/-- The bias behind a number, when `count` characters are in place. -/
def adapt (delta count : Nat) (first : Bool) : Nat :=
  let delta := if first then delta / 700 else delta / 2
  let (rest, k) := scale (delta + delta / count)
  k + 36 * rest / (rest + 38)

/-- The threshold at a position, which tells the last digit of a number. -/
def threshold (k bias : Nat) : Nat := max 1 (min 26 (k - bias))

theorem threshold_pos (k bias : Nat) : 1 ≤ threshold k bias := by
  unfold threshold; omega

/-- The character of a digit. -/
def digitChar (d : Nat) : Char :=
  if d < 26 then Char.ofNat ('a'.toNat + d) else Char.ofNat ('0'.toNat + (d - 26))

/-- The value of a digit. -/
def digitValue? (c : Char) : Option Nat :=
  if 'a' ≤ c && c ≤ 'z' then some (c.toNat - 'a'.toNat)
  else if 'A' ≤ c && c ≤ 'Z' then some (c.toNat - 'A'.toNat)
  else if '0' ≤ c && c ≤ '9' then some (c.toNat - '0'.toNat + 26)
  else none

/-- The digits of a number, at the position `k`. -/
def number (q k bias : Nat) : List Char :=
  let t := threshold k bias
  if q < t then [digitChar q]
  else digitChar (t + (q - t) % (base - t)) :: number ((q - t) / (base - t)) (k + base) bias
termination_by q
decreasing_by
  have h1 := threshold_pos k bias
  have h3 : (q - threshold k bias) / (base - threshold k bias) ≤ q - threshold k bias :=
    Nat.div_le_self _ _
  omega

/-- What is known while a text is encoded: the current code point, the steps
    since the last character that was written, the bias and the number of
    characters in place. -/
structure Encoder where
  code : Nat
  delta : Nat
  bias : Nat
  count : Nat
  first : Bool
  output : List Char

/-- Pass one character of the text while its characters with the current code
    point are written. -/
def Encoder.pass (k : Encoder) (c : Char) : Encoder :=
  if c.toNat < k.code then { k with delta := k.delta + 1 }
  else if c.toNat = k.code then
    { k with
      delta := 0
      bias := adapt k.delta (k.count + 1) k.first
      count := k.count + 1
      first := false
      output := k.output ++ number k.delta base k.bias }
  else k

/-- Write all characters of a text with the code point `m`. -/
def Encoder.write (s : List Char) (k : Encoder) (m : Nat) : Encoder :=
  let k := s.foldl pass { k with delta := k.delta + (m - k.code) * (k.count + 1), code := m }
  { k with delta := k.delta + 1, code := m + 1 }

/-- The code points of a text beyond ASCII in ascending order, each once. -/
def codes (s : List Char) : List Nat :=
  (((s.map Char.toNat).filter (initialCode ≤ ·)).mergeSort (· ≤ ·)).eraseDups

/-- The code of a text. -/
def encode (s : List Char) : List Char :=
  let ascii := s.filter (·.toNat < initialCode)
  let start := if ascii.isEmpty then [] else ascii ++ ['-']
  ((codes s).foldl (Encoder.write s)
    ⟨initialCode, 0, initialBias, ascii.length, true, start⟩).output

/-- What is known while a code is decoded: the code point and the place of
    the next character, the weight and position of the next digit, and the
    place before the current number. -/
structure Decoder where
  code : Nat
  place : Nat
  bias : Nat
  old : Nat
  weight : Nat
  position : Nat
  output : List Char

/-- Take one digit. -/
def Decoder.step (k : Decoder) (c : Char) : Option Decoder := do
  let d ← digitValue? c
  let place := k.place + d * k.weight
  let t := threshold k.position k.bias
  if d < t then
    let count := k.output.length + 1
    let code := k.code + place / count
    if !code.isValidChar then none
    else
      let index := place % count
      some { code, place := index + 1, old := index + 1, weight := 1, position := base,
             bias := adapt (place - k.old) count (k.old = 0),
             output := k.output.take index ++ Char.ofNat code :: k.output.drop index }
  else some { k with place, weight := k.weight * (base - t), position := k.position + base }

/-- The part of a code before its last hyphen, and the digits behind it. A
    hyphen in front belongs to the digits. -/
def cut (s : List Char) : List Char × List Char :=
  match s.reverse.span (· ≠ '-') with
  | (digits, _ :: c :: ascii) => ((c :: ascii).reverse, digits.reverse)
  | _ => ([], s)

/-- The text of a code. -/
def decode? (s : List Char) : Option (List Char) := do
  let (ascii, digits) := cut s
  let k ← digits.foldlM Decoder.step ⟨initialCode, 0, initialBias, 0, 1, base, ascii⟩
  if k.position = base then some k.output else none

end Punycode

end StreamRoster
