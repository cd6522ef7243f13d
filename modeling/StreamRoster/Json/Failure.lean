import StreamRoster.Json.Number
import StreamRoster.Text.Quoted

/-!
# Failures of Reading JSON

Why a JSON text could not be read, and where.

A cause is either about the text (it is not JSON, or it stops too early) or
about the data (it is JSON, but not of the wanted kind). The wording of all
causes is in `Cause.message`. A failure that knows its place records how
many bytes of the text were still unread; the place is shown as a line and
a column, both found by walking the text up to there.

## Main definitions

* `Json.Cause`: What is wrong.
* `Json.Cause.message`: The wording of a cause.
* `Json.Cause.category`: Whether the text is cut short, is not JSON, or
  holds the wrong data.
* `Json.Failure`: A cause, and its place if it has one.
* `Json.Failure.describe`: The wording of a failure with its place.
-/

namespace StreamRoster

namespace Json

/-- The kind of value that was met where another was wanted. -/
inductive Found where
  | null
  | boolean (b : Bool)
  | number (n : Number)
  | text (s : String)
  | sequence
  | map
  deriving DecidableEq, Repr

/-- The wording of what was met. -/
def Found.message : Found → String
  | .null => "null"
  | .boolean b => s!"boolean `{b}`"
  | .number (.integer n) => s!"integer `{n}`"
  | .number (.float x) => s!"floating point `{FloatText.render FloatText.wire x}`"
  | .text s => s!"string {Text.quote s}"
  | .sequence => "sequence"
  | .map => "map"

/-- Why a text cannot be read. -/
inductive Cause where
  | endOfValue
  | endOfString
  | endOfList
  | endOfObject
  | expectedValue
  | expectedWord
  | expectedColon
  | expectedListCommaOrEnd
  | expectedObjectCommaOrEnd
  | keyNotString
  | trailingComma
  | trailingCharacters
  | invalidNumber
  | numberOutOfRange
  | invalidEscape
  | unpairedEscape
  | loneSurrogate
  | controlCharacter
  | invalidUnicode
  | tooDeep
  | wrongKind (found : Found) (expected : String)
  | outOfRange (n : Int) (expected : String)
  | wrongLength (n : Nat) (expected : String)
  | unknownVariant (name : String) (expected : List String)
  | missingField (name : String)
  | duplicateField (name : String)
  | refused (why : String)
  deriving DecidableEq, Repr

/-- Whether a text is cut short, is not JSON, or holds the wrong data. -/
inductive Category where
  | eof
  | syntactic
  | data
  deriving DecidableEq, Repr

/-- Names of variants in an error message. -/
def variantList (names : List String) : String :=
  let quoted := names.map fun n => s!"`{n}`"
  match quoted with
  | [a, b] => s!"{a} or {b}"
  | _ => "one of " ++ ", ".intercalate quoted

namespace Cause

/-- The wording of a cause. -/
def message : Cause → String
  | .endOfValue => "EOF while parsing a value"
  | .endOfString => "EOF while parsing a string"
  | .endOfList => "EOF while parsing a list"
  | .endOfObject => "EOF while parsing an object"
  | .expectedValue => "expected value"
  | .expectedWord => "expected ident"
  | .expectedColon => "expected `:`"
  | .expectedListCommaOrEnd => "expected `,` or `]`"
  | .expectedObjectCommaOrEnd => "expected `,` or `\x7d`"
  | .keyNotString => "key must be a string"
  | .trailingComma => "trailing comma"
  | .trailingCharacters => "trailing characters"
  | .invalidNumber => "invalid number"
  | .numberOutOfRange => "number out of range"
  | .invalidEscape => "invalid escape"
  | .unpairedEscape => "unexpected end of hex escape"
  | .loneSurrogate => "lone leading surrogate in hex escape"
  | .controlCharacter => "control character (\\u0000-\\u001F) found while parsing a string"
  | .invalidUnicode => "invalid unicode code point"
  | .tooDeep => "recursion limit exceeded"
  | .wrongKind found expected => s!"invalid type: {found.message}, expected {expected}"
  | .outOfRange n expected => s!"invalid value: integer `{n}`, expected {expected}"
  | .wrongLength n expected => s!"invalid length {n}, expected {expected}"
  | .unknownVariant name expected =>
    s!"unknown variant `{name}`, expected {variantList expected}"
  | .missingField name => s!"missing field `{name}`"
  | .duplicateField name => s!"duplicate field `{name}`"
  | .refused why => why

/-- The category of a cause. -/
def category : Cause → Category
  | .endOfValue | .endOfString | .endOfList | .endOfObject => .eof
  | .wrongKind .. | .outOfRange .. | .wrongLength .. | .unknownVariant ..
  | .missingField .. | .duplicateField .. | .refused .. => .data
  | _ => .syntactic

end Cause

/-- A cause, and how many bytes were unread at its place, if it has one. -/
structure Failure where
  cause : Cause
  unread : Option Nat
  deriving DecidableEq, Repr

/-- The bytes a text takes in UTF-8. -/
def byteCount (s : List Char) : Nat := s.foldl (fun n c => n + c.utf8Size) 0

/-- A line, counted from one, and the number of bytes before a place in it. -/
structure Place where
  line : Nat
  column : Nat
  deriving DecidableEq, Repr

/-- The place reached after some bytes. -/
def Place.advance : Place → Nat → List Char → Place
  | place, _, [] => place
  | place, bytes, c :: rest =>
    if bytes < c.utf8Size then { place with column := place.column + bytes }
    else if c = '\n' then Place.advance { line := place.line + 1, column := 0 } (bytes - 1) rest
    else Place.advance { place with column := place.column + c.utf8Size } (bytes - c.utf8Size) rest

/-- The place in a text before its last `unread` bytes. -/
def Place.before (text : List Char) (unread : Nat) : Place :=
  Place.advance { line := 1, column := 0 } (byteCount text - unread) text

/-- The wording of a failure in a text, with its place if it has one. -/
def Failure.describe (text : String) (f : Failure) : String :=
  match f.unread with
  | none => f.cause.message
  | some unread =>
    let place := Place.before text.toList unread
    s!"{f.cause.message} at line {place.line} column {place.column}"

end Json

end StreamRoster
