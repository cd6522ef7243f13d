import StreamRoster.Json.Tree

/-!
# Writing JSON

The compact JSON text of values: no white space, members in the order given,
and only those characters escaped that have to be.

## Main definitions

* `Json.writeText`: A string.
* `Json.writeArray`, `Json.writeObject`: Lists and objects of written values.
* `Json.Tree.json`: A tree.
-/

namespace StreamRoster

namespace Json

/-- Two lower case hexadecimal digits. -/
def hexPair (n : Nat) : List Char := [Nat.digitChar (n / 16), Nat.digitChar (n % 16)]

/-- A character inside a string. -/
def writeChar (c : Char) : List Char :=
  match c with
  | '"' => ['\\', '"']
  | '\\' => ['\\', '\\']
  | '\x08' => ['\\', 'b']
  | '\x0c' => ['\\', 'f']
  | '\n' => ['\\', 'n']
  | '\r' => ['\\', 'r']
  | '\t' => ['\\', 't']
  | c => if c.toNat < 0x20 then ['\\', 'u', '0', '0'] ++ hexPair c.toNat else [c]

/-- A string. -/
def writeText (s : String) : List Char := '"' :: s.toList.flatMap writeChar ++ ['"']

/-- A natural number. -/
def writeNat (n : Nat) : List Char := Nat.toDigits 10 n

/-- `true` or `false`. -/
def writeBool (b : Bool) : List Char := if b then "true".toList else "false".toList

/-- A float. One that is not finite has no number text, and `null` stands in. -/
def writeDouble (x : Double) : List Char := (FloatText.render FloatText.wire x).toList

/-- A value, or `null` in place of a missing one. -/
def writeNullable (write : α → List Char) : Option α → List Char
  | none => "null".toList
  | some a => write a

/-- Written values with a comma between each two. -/
def separated : List (List Char) → List Char
  | [] => []
  | [a] => a
  | a :: b :: rest => a ++ ',' :: separated (b :: rest)

/-- A list of written values. -/
def writeArray (items : List (List Char)) : List Char := '[' :: separated items ++ [']']

/-- A member of an object. -/
def writeMember (m : String × List Char) : List Char := writeText m.1 ++ ':' :: m.2

/-- An object with written values. -/
def writeObject (members : List (String × List Char)) : List Char :=
  '\x7b' :: separated (members.map writeMember) ++ ['\x7d']

mutual

/-- A tree. -/
def Tree.json : Tree → List Char
  | .null => "null".toList
  | .boolean b => writeBool b
  | .number n => n.text.toList
  | .text s => writeText s
  | .array items => writeArray (Tree.jsonItems items)
  | .object members => writeObject (Tree.jsonMembers members)

/-- The trees of an array. -/
def Tree.jsonItems : List Tree → List (List Char)
  | [] => []
  | item :: items => item.json :: Tree.jsonItems items

/-- The trees of an object, with their keys. -/
def Tree.jsonMembers : List (String × Tree) → List (String × List Char)
  | [] => []
  | (key, value) :: members => (key, value.json) :: Tree.jsonMembers members

end

end Json

end StreamRoster
