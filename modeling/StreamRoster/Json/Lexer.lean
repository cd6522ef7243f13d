import StreamRoster.Json.Failure

/-!
# JSON Tokens

Reading the scalars of JSON from the front of a text: white space, the three
words, numbers and strings.

A reader takes the unread text and returns a value with the text behind it.
Failures carry the number of bytes unread at the place they are reported
for. That place is either where reading stopped (`failHere`) or one byte
further, on the character that does not fit (`failNext`).

## Main definitions

* `Json.Reader`: A reader of values at the front of a text.
* `Json.word`: Reads the rest of `null`, `true` or `false`.
* `Json.number`: Reads a number token.
* `Json.string`: Reads a string token behind its opening quote.
-/

namespace StreamRoster

namespace Json

/-- A reader of values at the front of a text. -/
abbrev Reader (α : Type) := List Char → Except Failure (α × List Char)

/-- Fail at the place where reading stopped. -/
def failHere (cause : Cause) (s : List Char) : Except Failure α :=
  .error ⟨cause, some (byteCount s)⟩

/-- Fail on the next byte, or at the end of the text if there is none. -/
def failNext (cause : Cause) (s : List Char) : Except Failure α :=
  .error ⟨cause, some (byteCount s - 1)⟩

/-- Fail without a place. -/
def failNowhere (cause : Cause) : Except Failure α := .error ⟨cause, none⟩

/-- The white space of JSON. -/
def isSpace (c : Char) : Bool := c = ' ' || c = '\t' || c = '\n' || c = '\r'

/-- The text behind its leading white space. -/
def skipSpace (s : List Char) : List Char := s.dropWhile isSpace

/-- Read the given characters. -/
def word : List Char → Reader Unit
  | [], s => .ok ((), s)
  | _ :: _, [] => failHere .endOfValue []
  | c :: expected, d :: s => if d = c then word expected s else failNext .expectedWord (d :: s)

/-- Whether a text starts with a digit. -/
def startsWithDigit : List Char → Bool
  | [] => false
  | c :: _ => c.isDigit

/-- The digits at the front of a text and the text behind them. -/
def spanDigits (s : List Char) : List Char × List Char :=
  (s.takeWhile Char.isDigit, s.dropWhile Char.isDigit)

/-- Append digits to a natural for as long as the result fits 64 bits: the
    natural, the digits taken, and the digits left over. -/
def takeDigits : Nat → List Char → Nat × Nat × List Char
  | n, [] => (n, 0, [])
  | n, c :: rest =>
    let m := n * 10 + FloatText.digitValue c
    if m < Number.limit then
      let taken := takeDigits m rest
      (taken.1, taken.2.1 + 1, taken.2.2)
    else (n, 0, c :: rest)

/-- The float `± digits · 10 ^ exponent`, or a failure if it is out of range. -/
def float (negative : Bool) (digits : Nat) (exponent : Int) : Reader Number := fun s =>
  match Number.scale negative digits exponent with
  | some x => .ok (.float x, s)
  | none => failHere .numberOutOfRange s

/-- The digits of an exponent as far as they fit 31 bits: the exponent and
    the digits left over. -/
def takeExponent : Nat → List Char → Nat × List Char
  | n, [] => (n, [])
  | n, c :: rest =>
    let m := n * 10 + FloatText.digitValue c
    if m < 0x80000000 then takeExponent m rest else (n, c :: rest)

/-- Read the digits of an exponent, which lowers the exponent a float starts
    with if `down` is set and raises it otherwise. An exponent of more than 31
    bits makes the number zero or puts it out of range. -/
def exponentDigits (negative : Bool) (digits : Nat) (start : Int) (down : Bool) :
    Reader Number := fun s =>
  match s with
  | [] => failHere .endOfValue []
  | c :: _ =>
    if !c.isDigit then failNext .invalidNumber s
    else
      let (digitsOf, s') := spanDigits s
      match takeExponent 0 digitsOf with
      | (e, []) => float negative digits (if down then start - e else start + e) s'
      | (_, _ :: left) =>
        -- The exponent is too large to count: only a zero or a shrinking value
        -- still has a meaning.
        if digits ≠ 0 && !down then failNext .numberOutOfRange (left ++ s')
        else .ok (.float (Double.zero negative), s')

/-- Read the exponent of a float behind its letter. -/
def exponent (negative : Bool) (digits : Nat) (start : Int) : Reader Number := fun s =>
  match s with
  | '+' :: s => exponentDigits negative digits start false s
  | '-' :: s => exponentDigits negative digits start true s
  | s => exponentDigits negative digits start false s

/-- Read what stands behind the digits of a fraction. -/
def afterFraction (negative : Bool) (digits : Nat) (start : Int) : Reader Number := fun s =>
  match s with
  | 'e' :: s | 'E' :: s => exponent negative digits start s
  | s => float negative digits start s

/-- Read the fraction of a float behind its point. Digits that no longer fit
    64 bits are dropped. -/
def fraction (negative : Bool) (digits : Nat) (start : Int) : Reader Number := fun s =>
  let (digitsOf, s') := spanDigits s
  match digitsOf, s' with
  | [], [] => failNext .endOfValue []
  | [], _ :: _ => failNext .invalidNumber s'
  | _ :: _, _ =>
    let (n, taken, _) := takeDigits digits digitsOf
    afterFraction negative n (start - taken) s'

/-- Read what stands behind the whole part of a number, some digits of which
    may not have fit 64 bits. -/
def afterWhole (negative : Bool) (digits : Nat) (left : List Char) : Reader Number := fun s =>
  match s with
  | '.' :: s => fraction negative digits left.length s
  | 'e' :: s | 'E' :: s => exponent negative digits left.length s
  | s =>
    if left.isEmpty then .ok (Number.ofDigits negative digits, s)
    else float negative digits left.length s

/-- Read a number behind its sign. -/
def number (negative : Bool) : Reader Number := fun s =>
  match s with
  | [] => failHere .endOfValue []
  | c :: s' =>
    if !c.isDigit then failNext .invalidNumber s
    else if c = '0' && startsWithDigit s' then failNext .invalidNumber s'
    else
      let (digitsOf, s'') := spanDigits s
      let (n, _, left) := takeDigits 0 digitsOf
      afterWhole negative n left s''

/-- The value of a hexadecimal digit. -/
def hexValue? (c : Char) : Option Nat :=
  if c.isDigit then some (c.toNat - '0'.toNat)
  else if 'a' ≤ c && c ≤ 'f' then some (c.toNat - 'a'.toNat + 10)
  else if 'A' ≤ c && c ≤ 'F' then some (c.toNat - 'A'.toNat + 10)
  else none

/-- Read the four hexadecimal digits of an escape. With fewer than four bytes
    left the string is cut short; otherwise a wrong digit is reported behind
    the four bytes. -/
def hexEscape : Reader Nat := fun s =>
  match s with
  | a :: b :: c :: d :: s' =>
    match hexValue? a, hexValue? b, hexValue? c, hexValue? d with
    | some a, some b, some c, some d => .ok (((a * 16 + b) * 16 + c) * 16 + d, s')
    | _, _, _, _ => .error ⟨.invalidEscape, some (byteCount s - 4)⟩
  | _ =>
    if byteCount s < 4 then failHere .endOfString []
    else .error ⟨.invalidEscape, some (byteCount s - 4)⟩

/-- The character of an escape of one letter. -/
def letterEscape? : Char → Option Char
  | '"' => some '"'
  | '\\' => some '\\'
  | '/' => some '/'
  | 'b' => some '\x08'
  | 'f' => some '\x0c'
  | 'n' => some '\n'
  | 'r' => some '\r'
  | 't' => some '\t'
  | _ => none

/-- Whether a 16-bit unit is the first half of a surrogate pair. -/
def isHighSurrogate (n : Nat) : Bool := 0xd800 ≤ n && n ≤ 0xdbff

/-- Whether a 16-bit unit is the second half of a surrogate pair. -/
def isLowSurrogate (n : Nat) : Bool := 0xdc00 ≤ n && n ≤ 0xdfff

/-- The character of a surrogate pair. -/
def pairedChar (high low : Nat) : Char :=
  Char.ofNat ((high - 0xd800) * 0x400 + (low - 0xdc00) + 0x10000)

/-- Read a numeric escape behind its letter. Surrogates have to come in
    pairs, both written as escapes. -/
def unicodeEscape : Reader Char := fun s => do
  let (n, s) ← hexEscape s
  if isLowSurrogate n then failHere .loneSurrogate s
  else if isHighSurrogate n then
    match s with
    | [] => failHere .endOfString []
    | '\\' :: [] => failHere .endOfString []
    | '\\' :: 'u' :: s =>
      let (low, s) ← hexEscape s
      if isLowSurrogate low then .ok (pairedChar n low, s)
      else failHere .loneSurrogate s
    | '\\' :: s => failNext .unpairedEscape s
    | s => failNext .unpairedEscape s
  else .ok (Char.ofNat n, s)

/-- Read an escape behind its backslash. -/
def escape : Reader Char := fun s =>
  match s with
  | [] => failHere .endOfString []
  | 'u' :: s' => unicodeEscape s'
  | c :: s' =>
    match letterEscape? c with
    | some d => .ok (d, s')
    | none => failNext .invalidEscape s

/-- Read the characters of a string up to its closing quote. Every character
    takes one step of the fuel at most, which is the length of the text. -/
def stringChars : Nat → Reader (List Char)
  | 0, _ => failHere .endOfString []
  | fuel + 1, s =>
    match s with
    | [] => failHere .endOfString []
    | '"' :: s' => .ok ([], s')
    | '\\' :: s' => do
      let (c, s'') ← escape s'
      let (cs, s'') ← stringChars fuel s''
      .ok (c :: cs, s'')
    | c :: s' =>
      if c.toNat < 0x20 then failNext .controlCharacter s
      else do
        let (cs, s'') ← stringChars fuel s'
        .ok (c :: cs, s'')

/-- Read a string behind its opening quote. -/
def string : Reader String := fun s => do
  let (cs, s) ← stringChars (s.length + 1) s
  .ok (String.ofList cs, s)

end Json

end StreamRoster
