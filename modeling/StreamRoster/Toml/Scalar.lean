import StreamRoster.Number.FloatText
import StreamRoster.Toml.Lexer

/-!
# TOML Scalars

Reading numbers, dates and times. What starts like a date, four digits and a
hyphen, or like a time, two digits and a colon, has to be one.

## Main definitions

* `Toml.moment?`: Reads a date, a time or both.
* `Toml.number`: Reads an integer or a number with a fraction.
* `Toml.scalar`: Reads anything that starts with a digit or a sign.
-/

namespace StreamRoster

namespace Toml

/-- Read a number of exactly `count` digits between two bounds. -/
def digits (count low high : Nat) (s : List Char) : Option (Nat × List Char) :=
  let part := s.take count
  if part.length = count && part.all Char.isDigit then
    let n := part.foldl (fun n c => n * 10 + FloatText.digitValue c) 0
    if low ≤ n && n ≤ high then some (n, s.drop count) else none
  else none

/-- The text behind an expected character. -/
def expect (c : Char) : List Char → Option (List Char)
  | [] => none
  | d :: s => if d = c then some s else none

/-- The number of days of a month. -/
def monthDays (year month : Nat) : Nat :=
  if month = 2 then
    if year % 4 = 0 && (year % 100 ≠ 0 || year % 400 = 0) then 29 else 28
  else if month = 4 || month = 6 || month = 9 || month = 11 then 30
  else 31

/-- The text behind a date. -/
def date? (s : List Char) : Option (List Char) := do
  let (year, s) ← digits 4 0 9999 s
  let (month, s) ← digits 2 1 12 (← expect '-' s)
  let (_, s) ← digits 2 1 (monthDays year month) (← expect '-' s)
  some s

/-- The text behind the fraction of a second, if there is one in front. -/
def fraction? (s : List Char) : Option (List Char) :=
  match s with
  | '.' :: d :: rest => if d.isDigit then some (rest.dropWhile Char.isDigit) else some s
  | s => some s

/-- The text behind a time of day. -/
def time? (s : List Char) : Option (List Char) := do
  let (_, s) ← digits 2 0 23 s
  let (_, s) ← digits 2 0 59 (← expect ':' s)
  let (_, s) ← digits 2 0 60 (← expect ':' s)
  fraction? s

/-- The text behind the offset of a time, if there is one in front. -/
def offset? (s : List Char) : Option (List Char) :=
  match s with
  | 'Z' :: s | 'z' :: s => some s
  | '+' :: s | '-' :: s => do
    let (_, s) ← digits 2 0 23 s
    let (_, s) ← digits 2 0 59 (← expect ':' s)
    some s
  | s => some s

/-- Whether a text starts with `count` digits and a character. -/
def startsWith (count : Nat) (c : Char) (s : List Char) : Bool :=
  let part := s.take count
  part.length = count && part.all Char.isDigit && (s.drop count).head? = some c

/-- The text behind the time that may follow a date. -/
def dateTail? (s : List Char) : Option (List Char) :=
  match s with
  | c :: rest =>
    if (c = 'T' || c = 't' || c = ' ') && startsWith 2 ':' rest &&
        (digits 2 0 23 rest).isSome then
      time? rest >>= offset?
    else some s
  | [] => some []

/-- The text behind a date, a time or both. -/
def moment? (s : List Char) : Option (List Char) :=
  if startsWith 4 '-' s then date? s >>= dateTail? else time? s

/-- The digits at the front of a text, where an underscore may stand between
    two digits, and the text behind them. -/
def underscored (isDigit : Char → Bool) : List Char → List Char × List Char
  | '_' :: c :: s =>
    if isDigit c then let (rest, s) := underscored isDigit s; (c :: rest, s)
    else ([], '_' :: c :: s)
  | c :: s =>
    if isDigit c then let (rest, s) := underscored isDigit s; (c :: rest, s) else ([], c :: s)
  | [] => ([], [])

/-- Digits with underscores between them, at least one and no underscore in
    front. -/
def run? (isDigit : Char → Bool) (s : List Char) : Option (List Char × List Char) :=
  match s with
  | c :: _ => if isDigit c then some (underscored isDigit s) else none
  | [] => none

/-- The digits before a point: zero alone or digits that do not start with
    it. -/
def whole? (s : List Char) : Option (List Char × List Char) :=
  match s with
  | '0' :: s => some (['0'], s)
  | s => run? Char.isDigit s

/-- The largest integer. -/
def maxInteger : Int := 0x8000000000000000 - 1

/-- The integer of some digits in a base, if it is in range. -/
def integer? (negative : Bool) (base : Nat) (digits : List Char) : Option Node := do
  let n ← digits.foldlM (fun n c => (hexValue? c).map fun d => n * base + d) 0
  let n : Int := if negative then -(n : Int) else n
  if -maxInteger - 1 ≤ n && n ≤ maxInteger then some (.integer n) else none

/-- The number of a spelling with a fraction, unless it is too large. -/
def real? (spelling : List Char) : Option Node :=
  match FloatText.read? (String.ofList spelling) with
  | none | some (.infinite false) => none
  | some _ => some (.real spelling)

/-- Read an exponent if there is one: its spelling and the text behind. -/
def exponent? (s : List Char) : Option (List Char × List Char) :=
  match s with
  | c :: s' =>
    if c = 'e' || c = 'E' then
      let (sign, s') := match s' with
        | '-' :: s' => (['-'], s')
        | '+' :: s' => ([], s')
        | s' => ([], s')
      (run? Char.isDigit s').map fun (digits, rest) => ('e' :: sign ++ digits, rest)
    else some ([], s)
  | [] => some ([], [])

/-- Read a fraction if there is one: its spelling and the text behind. -/
def point? (s : List Char) : Option (List Char × List Char) :=
  match s with
  | '.' :: s => (run? Char.isDigit s).map fun (digits, rest) => ('.' :: digits, rest)
  | s => some ([], s)

/-- Read a decimal number behind its sign. -/
def decimal (sign s : List Char) : Option (Node × List Char) := do
  let (digits, s) ← whole? s
  let (fraction, s) ← point? s
  let (exponent, s) ← exponent? s
  if fraction.isEmpty && exponent.isEmpty then
    some (← integer? (sign = ['-']) 10 digits, s)
  else some (← real? (sign ++ digits ++ fraction ++ exponent), s)

/-- Read a number in another base. -/
def based (base : Nat) (s : List Char) : Option (Node × List Char) := do
  let isDigit (c : Char) : Bool :=
    match hexValue? c with
    | some d => d < base
    | none => false
  let (digits, s) ← run? isDigit s
  some (← integer? false base digits, s)

/-- Read a number that may be infinite or none. -/
def signed (sign s : List Char) : Option (Node × List Char) :=
  match s with
  | 'i' :: 'n' :: 'f' :: rest => some (.real (sign ++ ['i', 'n', 'f']), rest)
  | 'n' :: 'a' :: 'n' :: rest => some (.real (sign ++ ['n', 'a', 'n']), rest)
  | s => decimal sign s

/-- Read a number. -/
def number : Reader Node
  | '0' :: 'x' :: s => based 16 s
  | '0' :: 'o' :: s => based 8 s
  | '0' :: 'b' :: s => based 2 s
  | '+' :: s => signed [] s
  | '-' :: s => signed ['-'] s
  | s => signed [] s

/-- Read a number, a date or a time. -/
def scalar : Reader Node := fun s =>
  if startsWith 4 '-' s || startsWith 2 ':' s then
    (moment? s).map fun rest => (.moment (s.take (s.length - rest.length)), rest)
  else number s

end Toml

end StreamRoster
