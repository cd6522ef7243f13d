import StreamRoster.Text.Blank
import StreamRoster.Time.Calendar

/-!
# Timestamps

Points in time in UTC, to the nanosecond, and their text in the manner of
RFC 3339.

Writing is strict: the fraction has no, three, six or nine digits, whichever
are the fewest that say it exactly, and a year outside 0 to 9999 has a sign.
Reading is lenient: white space may stand between the parts, numbers may
have fewer digits than usual, and any offset below a day is taken into
account. The second may be 60 in any minute; such a leap second is kept.

## Main definitions

* `Timestamp`: A point in time.
* `Timestamp.text`: The text of a timestamp.
* `Timestamp.read`: Reads a timestamp.
-/

namespace StreamRoster

/-- A point in time in UTC. A leap second is the second 60 of its minute. -/
structure Timestamp where
  date : Date
  hour : Nat
  minute : Nat
  second : Nat
  nano : Nat
  deriving DecidableEq, Repr

namespace Timestamp

/-- Whether every part of a timestamp is in its range. -/
def isValid (t : Timestamp) : Bool :=
  t.date.isValid && t.hour < 24 && t.minute < 60 && t.second ≤ 60 && t.nano < 1000000000

/-- A natural with zeros in front up to a width. -/
def padded (width n : Nat) : List Char :=
  let digits := Nat.toDigits 10 n
  List.replicate (width - digits.length) '0' ++ digits

/-- A year: four digits from 0 to 9999, and a sign outside that range. -/
def yearText (year : Int) : List Char :=
  if 0 ≤ year ∧ year ≤ 9999 then padded 4 year.natAbs
  else (if year < 0 then '-' else '+') :: padded 4 year.natAbs

/-- A fraction of a second with the fewest groups of three digits that say it
    exactly. -/
def fractionText (nano : Nat) : List Char :=
  if nano = 0 then []
  else if nano % 1000000 = 0 then '.' :: padded 3 (nano / 1000000)
  else if nano % 1000 = 0 then '.' :: padded 6 (nano / 1000)
  else '.' :: padded 9 nano

/-- The text of a timestamp with the given spelling of the offset. -/
def text (offset : List Char) (t : Timestamp) : List Char :=
  yearText t.date.year ++ '-' :: padded 2 t.date.month ++ '-' :: padded 2 t.date.day
    ++ 'T' :: padded 2 t.hour ++ ':' :: padded 2 t.minute ++ ':' :: padded 2 t.second
    ++ fractionText t.nano ++ offset

/-- The offset of UTC in text exchanged between programs. -/
def wireOffset : List Char := ['Z']

/-- The offset of UTC in text shown to a person. -/
def shownOffset : List Char := "+00:00".toList

/-- Why a text is no timestamp. -/
inductive Fault where
  | tooShort
  | invalid
  | outOfRange
  | tooLong
  | impossible
  deriving DecidableEq, Repr

/-- The wording of a fault. -/
def Fault.message : Fault → String
  | .tooShort => "premature end of input"
  | .invalid => "input contains invalid characters"
  | .outOfRange => "input is out of range"
  | .tooLong => "trailing input"
  | .impossible => "no possible date and time matching input"

/-- The value of a digit. -/
def digit (c : Char) : Nat := c.toNat - '0'.toNat

/-- The digits at the front of a text, at most `width` of them. -/
def takeDigits : Nat → Nat → List Char → Nat × List Char
  | 0, n, s => (n, s)
  | _ + 1, n, [] => (n, [])
  | width + 1, n, c :: s =>
    if c.isDigit then takeDigits width (n * 10 + digit c) s else (n, c :: s)

/-- Read a natural of at least one and at most `width` digits. -/
def natural (width : Nat) : List Char → Except Fault (Nat × List Char)
  | [] => .error .tooShort
  | c :: s => if c.isDigit then .ok (takeDigits width 0 (c :: s)) else .error .invalid

/-- Read a year: at most four digits, or a sign and any number of them. -/
def year (s : List Char) : Except Fault (Int × List Char) := do
  match s with
  | '-' :: s =>
    let (n, s) ← natural s.length s
    if 0x80000000 < n then .error .outOfRange else .ok (-(n : Int), s)
  | '+' :: s =>
    let (n, s) ← natural s.length s
    if 0x80000000 ≤ n then .error .outOfRange else .ok (n, s)
  | s =>
    let (n, s) ← natural 4 s
    .ok (n, s)

/-- Read a natural of one or two digits in a range, white space before it. -/
def part (low high : Nat) (s : List Char) : Except Fault (Nat × List Char) := do
  let (n, s) ← natural 2 (Text.trimStart s)
  if low ≤ n ∧ n ≤ high then .ok (n, s) else .error .outOfRange

/-- Read a character that has to stand next. -/
def expect (c : Char) : List Char → Except Fault (List Char)
  | [] => .error .tooShort
  | d :: s => if d = c then .ok s else .error .invalid

/-- Read a character that has to stand next, white space before it. -/
def mark (c : Char) (s : List Char) : Except Fault (List Char) := expect c (Text.trimStart s)

/-- Read the character between the date and the time. -/
def separator : List Char → Except Fault (List Char)
  | [] => .error .tooShort
  | c :: s => if c = 'T' || c = 't' || Text.isBlank c then .ok s else .error .invalid

/-- Read a fraction of a second if there is one. Digits beyond the ninth are
    dropped. -/
def fraction : List Char → Except Fault (Nat × List Char)
  | '.' :: s => do
    let (n, rest) ← natural 9 s
    .ok (n * Nat.pow 10 (9 - (s.length - rest.length)), rest.dropWhile Char.isDigit)
  | s => .ok (0, s)

/-- Read two digits. -/
def twoDigits : List Char → Except Fault (Nat × List Char)
  | a :: b :: s =>
    if a.isDigit && b.isDigit then .ok (digit a * 10 + digit b, s) else .error .invalid
  -- A length counts bytes: a character of several bytes is long enough.
  | [a] => if a.toNat < 0x80 then .error .tooShort else .error .invalid
  | [] => .error .tooShort

/-- Read the minutes of an offset, which are below sixty. -/
def offsetMinutes (s : List Char) : Except Fault (Nat × List Char) := do
  let (n, s) ← twoDigits s
  if n < 60 then .ok (n, s) else .error .outOfRange

/-- Read an offset in hours and minutes behind its sign. -/
def clockOffset (s : List Char) : Except Fault (Nat × List Char) := do
  let (hours, s) ← twoDigits s
  let (minutes, s) ← offsetMinutes (s.dropWhile fun c => c = ':' || Text.isBlank c)
  .ok (hours * 60 + minutes, s)

/-- Read an offset: a name of UTC, or a sign, hours and minutes. The minutes
    from UTC to the local time are returned. -/
def offset : List Char → Except Fault (Int × List Char)
  | [] => .error .tooShort
  | 'Z' :: s | 'z' :: s => .ok (0, s)
  | c :: s =>
    if (c :: s.take 2).map Char.toLower = ['u', 't', 'c'] then .ok (0, s.drop 2)
    else if c = '+' then do
      let (n, s) ← clockOffset s
      .ok (n, s)
    else if c = '-' || c = '−' then do
      let (n, s) ← clockOffset s
      .ok (-(n : Int), s)
    else .error .invalid

/-- Subtract an offset below a day from a local time. -/
def toUtc (t : Timestamp) (offset : Int) : Timestamp :=
  let minutes : Int := t.hour * 60 + t.minute - offset
  let date :=
    -- At most one midnight is passed.
    if minutes < 0 then t.date.previous
    else if 1440 ≤ minutes then t.date.next
    else t.date
  let minutes := (minutes % 1440).toNat
  { t with date, hour := minutes / 60, minute := minutes % 60 }

/-- The timestamp of a local time with its offset, if there is one. -/
def resolve (t : Timestamp) (offset : Int) : Except Fault Timestamp :=
  if !t.date.isValid then .error .outOfRange
  else if 1440 ≤ offset.natAbs then .error .outOfRange
  else
    let utc := t.toUtc offset
    if utc.date.isValid then .ok utc else .error .impossible

/-- Read a timestamp. -/
def read (s : List Char) : Except Fault Timestamp := do
  let (year, s) ← year (Text.trimStart s)
  let s ← mark '-' s
  let (month, s) ← part 1 12 s
  let s ← mark '-' s
  let (day, s) ← part 1 31 s
  let s ← separator s
  let (hour, s) ← part 0 23 s
  let s ← mark ':' s
  let (minute, s) ← part 0 59 s
  let s ← mark ':' s
  let (second, s) ← part 0 60 s
  let (nano, s) ← fraction s
  let (offset, s) ← offset (Text.trimStart s)
  if !(Text.trimStart s).isEmpty then .error .tooLong
  else resolve { date := ⟨year, month, day⟩, hour, minute, second, nano } offset

end Timestamp

end StreamRoster
