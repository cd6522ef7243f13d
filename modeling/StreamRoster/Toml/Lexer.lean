import StreamRoster.Toml.Basic

/-!
# TOML Tokens

Reading the blanks, comments, keys and strings of TOML from the front of a
text. A reader gives a value with the text behind it, or nothing.

## Main definitions

* `Toml.Reader`: A reader of values at the front of a text.
* `Toml.skipBlank`: Passes spaces and tabs.
* `Toml.skipLines`: Passes blanks, comments and line breaks.
* `Toml.string`: Reads a string in any of its four forms.
* `Toml.key`: Reads a key with the keys before its dots.
-/

namespace StreamRoster

namespace Toml

/-- A reader of values at the front of a text. -/
abbrev Reader (α : Type) := List Char → Option (α × List Char)

/-- Spaces and tabs. -/
def isBlank (c : Char) : Bool := c = ' ' || c = '\t'

/-- Pass spaces and tabs. -/
def skipBlank (s : List Char) : List Char := s.dropWhile isBlank

/-- Whether a character may stand in a comment or a string: all but control
    characters, except for the tab. -/
def isPlain (c : Char) : Bool := c = '\t' || (0x20 ≤ c.toNat && c.toNat ≠ 0x7f)

/-- The text behind a line break, if there is one in front. -/
def newline? : List Char → Option (List Char)
  | '\n' :: s => some s
  | '\r' :: '\n' :: s => some s
  | _ => none

/-- The text behind a comment, if there is one in front. -/
def skipComment (s : List Char) : List Char :=
  match s with
  | '#' :: s => s.dropWhile isPlain
  | s => s

/-- The text behind the end of a line: blanks, a comment and a line break or the
    end of the text. -/
def endLine? (s : List Char) : Option (List Char) :=
  match skipComment (skipBlank s) with
  | [] => some []
  | s => newline? s

/-- Pass blanks, comments and line breaks, with a step of fuel for each line. -/
def passLines : Nat → List Char → List Char
  | 0, s => s
  | fuel + 1, s =>
    let s := skipBlank s
    match newline? (skipComment s) with
    | some rest => passLines fuel rest
    | none => s

/-- Pass blanks, comments and line breaks. A comment has to end with its
    line. -/
def skipLines (s : List Char) : List Char := passLines s.length s

/-- The value of a hexadecimal digit. -/
def hexValue? (c : Char) : Option Nat :=
  if c.isDigit then some (c.toNat - '0'.toNat)
  else if 'a' ≤ c && c ≤ 'f' then some (c.toNat - 'a'.toNat + 10)
  else if 'A' ≤ c && c ≤ 'F' then some (c.toNat - 'A'.toNat + 10)
  else none

/-- Read a character written as a number of hexadecimal digits. -/
def hexChar : Nat → Nat → Reader Char
  | 0, n, s => if n.isValidChar then some (Char.ofNat n, s) else none
  | _ + 1, _, [] => none
  | count + 1, n, c :: s => do hexChar count (n * 16 + (← hexValue? c)) s

/-- Read what stands behind a backslash. -/
def escape : Reader Char
  | 'b' :: s => some ('\x08', s)
  | 't' :: s => some ('\t', s)
  | 'n' :: s => some ('\n', s)
  | 'f' :: s => some ('\x0c', s)
  | 'r' :: s => some ('\r', s)
  | '"' :: s => some ('"', s)
  | '\\' :: s => some ('\\', s)
  | 'u' :: s => hexChar 4 0 s
  | 'U' :: s => hexChar 8 0 s
  | _ => none

/-- Read a string on one line up to its closing quote. -/
def line (escapes : Bool) (quote : Char) : Nat → Reader (List Char)
  | 0, _ => none
  | _ + 1, [] => none
  | fuel + 1, c :: s =>
    if c = quote then some ([], s)
    else if escapes && c = '\\' then do
      let (d, s) ← escape s
      let (rest, s) ← line escapes quote fuel s
      some (d :: rest, s)
    else if isPlain c then do
      let (rest, s) ← line escapes quote fuel s
      some (c :: rest, s)
    else none

/-- The text behind a backslash at the end of a line, without the blanks and
    line breaks that follow. -/
def joinLine? (s : List Char) : Option (List Char) :=
  (newline? (skipBlank s)).map dropSpace
where
  /-- Pass blanks and line breaks. -/
  dropSpace : List Char → List Char
    | '\r' :: '\n' :: s => dropSpace s
    | c :: s => if isBlank c || c = '\n' then dropSpace s else c :: s
    | [] => []

/-- Read a string of several lines up to its closing quotes. One or two quotes
    may stand before the three that close it. -/
def block (escapes : Bool) (quote : Char) : Nat → Reader (List Char)
  | 0, _ => none
  | _ + 1, [] => none
  | fuel + 1, c :: s =>
    if c = quote then
      let quotes := ((c :: s).takeWhile (· = quote)).length
      if 3 ≤ quotes then
        let extra := min (quotes - 3) 2
        some (List.replicate extra quote, (c :: s).drop (extra + 3))
      else do
        let (rest, s) ← block escapes quote fuel s
        some (c :: rest, s)
    else if escapes && c = '\\' then
      match joinLine? s with
      | some s => block escapes quote fuel s
      | none => do
        let (d, s) ← escape s
        let (rest, s) ← block escapes quote fuel s
        some (d :: rest, s)
    else match newline? (c :: s) with
      | some s => do
        let (rest, s) ← block escapes quote fuel s
        some ('\n' :: rest, s)
      | none =>
        if isPlain c then do
          let (rest, s) ← block escapes quote fuel s
          some (c :: rest, s)
        else none

/-- A text without the line break in front. -/
def dropNewline (s : List Char) : List Char := (newline? s).getD s

/-- Read a string in any of its four forms. -/
def string : Reader (List Char)
  | '"' :: '"' :: '"' :: s => let s := dropNewline s; block true '"' (s.length + 1) s
  | '\'' :: '\'' :: '\'' :: s => let s := dropNewline s; block false '\'' (s.length + 1) s
  | '"' :: s => line true '"' (s.length + 1) s
  | '\'' :: s => line false '\'' (s.length + 1) s
  | _ => none

/-- Whether a character may stand in a key without quotes. -/
def isKeyChar (c : Char) : Bool := c.isAlphanum || c = '_' || c = '-'

/-- Read one part of a key, with the blanks around it. -/
def keyPart (s : List Char) : Option (String × List Char) :=
  match skipBlank s with
  | '"' :: s => (line true '"' (s.length + 1) s).map finish
  | '\'' :: s => (line false '\'' (s.length + 1) s).map finish
  | s =>
    let part := s.takeWhile isKeyChar
    if part.isEmpty then none else some (finish (part, s.dropWhile isKeyChar))
where
  /-- The part as a text, and the rest without blanks. -/
  finish (r : List Char × List Char) : String × List Char := (String.ofList r.1, skipBlank r.2)

/-- The largest number of parts of a key. -/
def maxParts : Nat := 79

/-- Read the parts of a key between its dots: those before the last one, and
    the last one. -/
def keyParts : Nat → List Char → Option ((List String × String) × List Char)
  | 0, _ => none
  | fuel + 1, s => do
    let (part, s) ← keyPart s
    match s with
    | '.' :: s => do
      let ((path, last), s) ← keyParts fuel s
      some ((part :: path, last), s)
    | s => some (([], part), s)

/-- Read a key: the parts before its last dot, and the last part. -/
def key : Reader (List String × String) := keyParts maxParts

end Toml

end StreamRoster
