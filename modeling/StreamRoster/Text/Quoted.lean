import StreamRoster.Text.Printable

/-!
# Quoted Text

A text between double quotes, as error messages show it: quotes and
backslashes are escaped, the usual control characters have their letters,
and every other character that could not be seen is given by its number.

## Main definitions

* `Text.quote`: The quoted form of a text.
-/

namespace StreamRoster

namespace Text

/-- The lower case digits of a natural in base sixteen. -/
def hexDigits (n : Nat) : List Char := Nat.toDigits 16 n

/-- How one character is shown inside a quoted text. -/
def quoteChar (c : Char) : List Char :=
  match c with
  | '\x00' => ['\\', '0']
  | '\t' => ['\\', 't']
  | '\r' => ['\\', 'r']
  | '\n' => ['\\', 'n']
  | '"' => ['\\', '"']
  | '\\' => ['\\', '\\']
  | c => if isPrintable c then [c] else "\\u\x7b".toList ++ hexDigits c.toNat ++ ['}']

/-- A text between double quotes, with what cannot be seen escaped. -/
def quote (s : String) : String :=
  String.ofList ('"' :: s.toList.flatMap quoteChar ++ ['"'])

end Text

end StreamRoster
