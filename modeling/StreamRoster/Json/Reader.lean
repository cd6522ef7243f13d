import StreamRoster.Json.Lexer

/-!
# Readers of JSON Values

Readers that want a value of one kind, and the punctuation of lists and
objects around the values inside them.

Values are converted as they are met, so of two faults in a text the first
one is reported. Lists and objects may be nested to a fixed depth only. A
reader that enters one is given the number of levels left, and passes one
less to the readers of its elements.

## Main definitions

* `Json.topRoom`: The number of levels a text may nest.
* `Json.wrongKind`: Fails on a value of another kind than the wanted one.
* `Json.hasElement`, `Json.closeList`: The punctuation of a list.
* `Json.hasMember`, `Json.memberColon`, `Json.closeObject`: The punctuation
  of an object.
* `Json.list`: Reads a list of values.
* `Json.nullable`: Reads a value or `null`.
* `Json.readAll`: Reads a whole text as one value.
-/

namespace StreamRoster

namespace Json

/-- The number of lists and objects that may be nested in one another. -/
def topRoom : Nat := 127

/-- Fail on the value at the front of a text, which is not of the wanted
    kind. A scalar is read first, since it may not be well formed. -/
def wrongKind (expected : String) (s : List Char) : Except Failure α :=
  match skipSpace s with
  | [] => failHere .endOfValue []
  | 'n' :: s => do
    let (_, s) ← word "ull".toList s
    failHere (.wrongKind .null expected) s
  | 't' :: s => do
    let (_, s) ← word "rue".toList s
    failHere (.wrongKind (.boolean true) expected) s
  | 'f' :: s => do
    let (_, s) ← word "alse".toList s
    failHere (.wrongKind (.boolean false) expected) s
  | '-' :: s => do
    let (n, s) ← number true s
    failHere (.wrongKind (.number n) expected) s
  | '"' :: s => do
    let (text, s) ← string s
    failHere (.wrongKind (.text text) expected) s
  | '[' :: s => failHere (.wrongKind .sequence expected) ('[' :: s)
  | '\x7b' :: s => failHere (.wrongKind .map expected) ('\x7b' :: s)
  | c :: s =>
    if c.isDigit then do
      let (n, s) ← number false (c :: s)
      failHere (.wrongKind (.number n) expected) s
    else failNext .expectedValue (c :: s)

/-- Read a string. -/
def text (expected : String) : Reader String := fun s =>
  match skipSpace s with
  | '"' :: s => string s
  | s => wrongKind expected s

/-- Read a string of any content. -/
def anyText : Reader String := text "a string"

/-- Read `true` or `false`. -/
def boolean : Reader Bool := fun s =>
  match skipSpace s with
  | 't' :: s => do
    let (_, s) ← word "rue".toList s
    .ok (true, s)
  | 'f' :: s => do
    let (_, s) ← word "alse".toList s
    .ok (false, s)
  | s => wrongKind "a boolean" s

/-- Read `null`. -/
def null : Reader Unit := fun s =>
  match skipSpace s with
  | 'n' :: s => word "ull".toList s
  | s => wrongKind "unit" s

/-- Read a number of any kind. -/
def anyNumber (expected : String) : Reader Number := fun s =>
  match skipSpace s with
  | '-' :: s => number true s
  | c :: s => if c.isDigit then number false (c :: s) else wrongKind expected (c :: s)
  | [] => failHere .endOfValue []

/-- The integer of a number that lies in the range of the wanted kind. -/
def Number.within (low high : Int) (expected : String) : Number → Except Cause Int
  | .integer n => if low ≤ n ∧ n ≤ high then .ok n else .error (.outOfRange n expected)
  | .float x => .error (.wrongKind (.number (.float x)) expected)

/-- Read an integer in a range. -/
def integer (low high : Int) (expected : String) : Reader Int := fun s => do
  let (n, s) ← anyNumber expected s
  match n.within low high expected with
  | .ok n => .ok (n, s)
  | .error cause => failHere cause s

/-- Read a signed integer of 64 bits. -/
def signed64 : Reader Int := integer (-0x8000000000000000) (0x8000000000000000 - 1) "i64"

/-- Read an unsigned integer of 64 bits. -/
def unsigned64 : Reader Nat := fun s => do
  let (n, s) ← integer 0 (0x10000000000000000 - 1) "u64" s
  .ok (n.toNat, s)

/-- Read an unsigned integer of 32 bits. -/
def unsigned32 : Reader Nat := fun s => do
  let (n, s) ← integer 0 (0x100000000 - 1) "u32" s
  .ok (n.toNat, s)

/-- Read a float. An integer is accepted as well. -/
def double : Reader Double := fun s => do
  let (n, s) ← anyNumber "f64" s
  .ok (n.toDouble, s)

/-- Read a value, or nothing where `null` stands. -/
def nullable (read : Reader α) : Reader (Option α) := fun s =>
  match skipSpace s with
  | 'n' :: s => do
    let (_, s) ← word "ull".toList s
    .ok (none, s)
  | s => do
    let (a, s) ← read s
    .ok (some a, s)

/-- The text from the element behind a comma on. -/
def nextElement : Reader Unit := fun s =>
  match skipSpace s with
  | [] => failHere .endOfValue []
  | ']' :: s => failNext .trailingComma (']' :: s)
  | s => .ok ((), s)

/-- Whether a list goes on with an element, and the text from that element or
    from the closing bracket on. -/
def hasElement (first : Bool) : Reader Bool := fun s =>
  match skipSpace s with
  | [] => failHere .endOfList []
  | ']' :: s => .ok (false, ']' :: s)
  | c :: s =>
    if first then .ok (true, c :: s)
    else if c = ',' then do
      let (_, s) ← nextElement s
      .ok (true, s)
    else failNext .expectedListCommaOrEnd (c :: s)

/-- Read the closing bracket of a list. -/
def closeList : Reader Unit := fun s =>
  match skipSpace s with
  | [] => failHere .endOfList []
  | ']' :: s => .ok ((), s)
  | ',' :: s =>
    match skipSpace s with
    | ']' :: s => failNext .trailingComma (']' :: s)
    | s => failNext .trailingCharacters s
  | s => failNext .trailingCharacters s

/-- The text behind the quote that opens the key behind a comma. -/
def nextMember : Reader Unit := fun s =>
  match skipSpace s with
  | [] => failHere .endOfValue []
  | '"' :: s => .ok ((), s)
  | '\x7d' :: s => failNext .trailingComma ('\x7d' :: s)
  | s => failNext .keyNotString s

/-- Whether an object goes on with a member, and the text behind the quote
    that opens its key, or from the closing brace on. -/
def hasMember (first : Bool) : Reader Bool := fun s =>
  match skipSpace s with
  | [] => failHere .endOfObject []
  | '\x7d' :: s => .ok (false, '\x7d' :: s)
  | c :: s =>
    if first then
      if c = '"' then .ok (true, s) else failNext .keyNotString (c :: s)
    else if c = ',' then do
      let (_, s) ← nextMember s
      .ok (true, s)
    else failNext .expectedObjectCommaOrEnd (c :: s)

/-- Read the colon between a key and its value. -/
def memberColon : Reader Unit := fun s =>
  match skipSpace s with
  | [] => failHere .endOfObject []
  | ':' :: s => .ok ((), s)
  | s => failNext .expectedColon s

/-- Read the closing brace of an object. -/
def closeObject : Reader Unit := fun s =>
  match skipSpace s with
  | [] => failHere .endOfObject []
  | '\x7d' :: s => .ok ((), s)
  | ',' :: s => failNext .trailingComma (',' :: s)
  | s => failNext .trailingCharacters s

/-- Read the elements of a list up to its closing bracket. Every element
    takes one step of the fuel, which is the length of the text. -/
def elements (read : Reader α) : Nat → Bool → Reader (List α)
  | 0, _, _ => failHere .endOfList []
  | fuel + 1, first, s => do
    match ← hasElement first s with
    | (false, s) => .ok ([], s)
    | (true, s) =>
      let (a, s) ← read s
      let (as, s) ← elements read fuel false s
      .ok (a :: as, s)

/-- Read a list. The reader of elements is given the levels left inside. -/
def list (read : Nat → Reader α) (room : Nat) : Reader (List α) := fun s =>
  match skipSpace s with
  | '[' :: s =>
    match room with
    | 0 => failNext .tooDeep ('[' :: s)
    | room + 1 => do
      let (as, s) ← elements (read room) (s.length + 1) true s
      let (_, s) ← closeList s
      .ok (as, s)
  | s => wrongKind "a sequence" s

/-- Read a whole text as one value; only white space may follow it. -/
def readAll (read : Reader α) (text : String) : Except Failure α := do
  let (a, s) ← read text.toList
  match skipSpace s with
  | [] => .ok a
  | s => failNext .trailingCharacters s

end Json

end StreamRoster
