import StreamRoster.Json.Reader

/-!
# JSON Trees

A JSON value of any shape, kept as it was met.

An object keeps its members in the order of the text, repeated keys
included; looking a key up gives the last member with it.

## Main definitions

* `Json.Tree`: A JSON value.
* `Json.Tree.get?`: The member of an object with a key.
* `Json.tree`: Reads a value of any shape.
-/

namespace StreamRoster

namespace Json

/-- A JSON value. -/
inductive Tree where
  | null
  | boolean (b : Bool)
  | number (n : Number)
  | text (s : String)
  | array (items : List Tree)
  | object (members : List (String × Tree))

namespace Tree

/-- The last member with a key. -/
def lookup? (key : String) (members : List (String × Tree)) : Option Tree :=
  (members.reverse.find? fun m => m.1 = key).map Prod.snd

/-- The member of an object with a key; other values have none. -/
def get? (key : String) : Tree → Option Tree
  | .object members => lookup? key members
  | _ => none

/-- The kind of value that a tree is. -/
def found : Tree → Found
  | .null => .null
  | .boolean b => .boolean b
  | .number n => .number n
  | .text s => .text s
  | .array _ => .sequence
  | .object _ => .map

end Tree

/-- Read the members of an object up to its closing brace. Every member takes
    one step of the fuel, which is the length of the text. -/
def members (read : Reader α) : Nat → Bool → Reader (List (String × α))
  | 0, _, _ => failHere .endOfObject []
  | fuel + 1, first, s => do
    match ← hasMember first s with
    | (false, s) => .ok ([], s)
    | (true, s) =>
      let (key, s) ← string s
      let (_, s) ← memberColon s
      let (a, s) ← read s
      let (as, s) ← members read fuel false s
      .ok ((key, a) :: as, s)

/-- Read a scalar of any kind. -/
def scalar : Reader Tree := fun s =>
  match skipSpace s with
  | [] => failHere .endOfValue []
  | 'n' :: s => do
    let (_, s) ← word "ull".toList s
    .ok (.null, s)
  | 't' :: s => do
    let (_, s) ← word "rue".toList s
    .ok (.boolean true, s)
  | 'f' :: s => do
    let (_, s) ← word "alse".toList s
    .ok (.boolean false, s)
  | '-' :: s => do
    let (n, s) ← number true s
    .ok (.number n, s)
  | '"' :: s => do
    let (text, s) ← string s
    .ok (.text text, s)
  | c :: s =>
    if c.isDigit then do
      let (n, s) ← number false (c :: s)
      .ok (.number n, s)
    else failNext .expectedValue (c :: s)

/-- Read a value of any shape. -/
def tree : Nat → Reader Tree
  | 0, s =>
    match skipSpace s with
    | '[' :: s => failNext .tooDeep ('[' :: s)
    | '\x7b' :: s => failNext .tooDeep ('\x7b' :: s)
    | s => scalar s
  | room + 1, s =>
    match skipSpace s with
    | '[' :: s => do
      let (items, s) ← elements (tree room) (s.length + 1) true s
      let (_, s) ← closeList s
      .ok (.array items, s)
    | '\x7b' :: s => do
      let (fields, s) ← members (tree room) (s.length + 1) true s
      let (_, s) ← closeObject s
      .ok (.object fields, s)
    | s => scalar s

end Json

end StreamRoster
