import StreamRoster.Json.Skip
import StreamRoster.Json.Variant
import StreamRoster.Time.Json

/-!
# Parameter Values

A value of one of six types, tagged with its type in JSON.

In JSON a value is an object with the members `type` and `value`, or a list
of the two. The members may come in either order and others are passed
over. Where `type` comes first the content is read straight as a value of
that type; otherwise it is read as a tree and converted once the type is
known.

## Main definitions

* `Value`: A typed value.
* `Value.readContent`: Reads content of a known type.
* `Value.ofTree`: Converts a tree to a value of a known type.
* `Value.read`: Reads a value.
* `Value.display`: A value as it is shown to a person.
-/

namespace StreamRoster

open Json

/-- A typed value. -/
inductive Value where
  | float (x : Double)
  | sint64 (n : Int64)
  | uint64 (n : UInt64)
  | boolean (b : Bool)
  | text (s : String)
  | timestamp (t : Timestamp)
  deriving DecidableEq

/-- The type of a value. -/
inductive ValueType where
  | float
  | sint64
  | uint64
  | boolean
  | text
  | timestamp
  deriving DecidableEq, Repr

namespace ValueType

/-- The names of the types. -/
def names : List (String × ValueType) :=
  [("FLOAT", .float), ("SINT64", .sint64), ("UINT64", .uint64), ("BOOLEAN", .boolean),
    ("STRING", .text), ("TIMESTAMP", .timestamp)]

/-- The name of a type. -/
def name : ValueType → String
  | .float => "FLOAT"
  | .sint64 => "SINT64"
  | .uint64 => "UINT64"
  | .boolean => "BOOLEAN"
  | .text => "STRING"
  | .timestamp => "TIMESTAMP"

end ValueType

namespace Value

/-- The type of a value. -/
def type : Value → ValueType
  | .float _ => .float
  | .sint64 _ => .sint64
  | .uint64 _ => .uint64
  | .boolean _ => .boolean
  | .text _ => .text
  | .timestamp _ => .timestamp

/-- Read content of a known type. -/
def readContent : ValueType → Reader Value
  | .float, s => do
    let (x, s) ← double s
    .ok (.float x, s)
  | .sint64, s => do
    let (n, s) ← signed64 s
    .ok (.sint64 (Int64.ofInt n), s)
  | .uint64, s => do
    let (n, s) ← unsigned64 s
    .ok (.uint64 (UInt64.ofNat n), s)
  | .boolean, s => do
    let (b, s) ← Json.boolean s
    .ok (.boolean b, s)
  | .text, s => do
    let (t, s) ← anyText s
    .ok (.text t, s)
  | .timestamp, s => do
    let (t, s) ← Timestamp.readJson s
    .ok (.timestamp t, s)

/-- What is wanted as content of a type. -/
def wanted : ValueType → String
  | .float => "f64"
  | .sint64 => "i64"
  | .uint64 => "u64"
  | .boolean => "a boolean"
  | .text => "a string"
  | .timestamp => Timestamp.wanted

/-- Convert a tree to a value of a known type. -/
def ofTree : ValueType → Tree → Except Cause Value
  | .float, .number n => .ok (.float n.toDouble)
  | .sint64, .number n => do
    let n ← n.within (-0x8000000000000000) (0x8000000000000000 - 1) "i64"
    .ok (.sint64 (Int64.ofInt n))
  | .uint64, .number n => do
    let n ← n.within 0 (0x10000000000000000 - 1) "u64"
    .ok (.uint64 (UInt64.ofNat n.toNat))
  | .boolean, .boolean b => .ok (.boolean b)
  | .text, .text s => .ok (.text s)
  | .timestamp, .text s => do
    let t ← Timestamp.ofText s
    .ok (.timestamp t)
  | type, tree => .error (.wrongKind tree.found (wanted type))

/-- A member of the object form that is not passed over. -/
inductive Part where
  | type
  | content
  deriving DecidableEq, Repr

/-- The key of a part. -/
def Part.key : Part → String
  | .type => "type"
  | .content => "value"

/-- The part with a key. -/
def part? (key : String) : Option Part :=
  if key = "type" then some .type
  else if key = "value" then some .content
  else none

/-- Read on to the key of the next part, or to the closing brace. Every
    member takes one step of the fuel, which is the length of the text. -/
def nextPart : Nat → Bool → Reader (Option Part)
  | 0, _, _ => failHere .endOfObject []
  | fuel + 1, first, s => do
    match ← hasMember first s with
    | (false, s) => .ok (none, s)
    | (true, s) =>
      let (key, s) ← string s
      match part? key with
      | some part => .ok (some part, s)
      | none =>
        let (_, s) ← memberColon s
        let (_, s) ← skip s
        nextPart fuel false s

/-- Read on to the key of the next part, after the first one. -/
def laterPart : Reader (Option Part) := fun s => nextPart (s.length + 1) false s

/-- Read the members behind both parts, which have to be others. -/
def noMoreParts : Reader Unit := fun s => do
  match ← laterPart s with
  | (none, s) => .ok ((), s)
  | (some part, s) => failHere (.duplicateField part.key) s

/-- Read the object form from the colon of its type on, which comes first. -/
def readTypeFirst (room : Nat) : Reader Value := fun s => do
  let (_, s) ← memberColon s
  let (type, s) ← variant ValueType.names room s
  match ← laterPart s with
  | (none, s) => failHere (.missingField Part.content.key) s
  | (some .type, s) => failHere (.duplicateField Part.type.key) s
  | (some .content, s) =>
    let (_, s) ← memberColon s
    let (value, s) ← readContent type s
    let (_, s) ← noMoreParts s
    .ok (value, s)

/-- Read the object form from the colon of its content on, which comes
    first. -/
def readContentFirst (room : Nat) : Reader Value := fun s => do
  let (_, s) ← memberColon s
  let (content, s) ← tree room s
  match ← laterPart s with
  | (none, s) => failHere (.missingField Part.type.key) s
  | (some .content, s) => failHere (.duplicateField Part.content.key) s
  | (some .type, s) =>
    let (_, s) ← memberColon s
    let (type, s) ← variant ValueType.names room s
    match ofTree type content with
    -- The tree no longer knows where its text stood.
    | .error cause => failNowhere cause
    | .ok value =>
      let (_, s) ← noMoreParts s
      .ok (value, s)

/-- Read the members of the object form. -/
def readMembers (room : Nat) : Reader Value := fun s => do
  match ← nextPart (s.length + 1) true s with
  | (none, s) => failHere (.missingField Part.type.key) s
  | (some .type, s) => readTypeFirst room s
  | (some .content, s) => readContentFirst room s

/-- What is wanted where a value is read. -/
def form : String := "adjacently tagged enum Value"

/-- Read the elements of the list form. -/
def readElements : Reader Value := fun s => do
  match ← hasElement true s with
  | (false, s) => failHere (.wrongLength 0 form) s
  | (true, s) =>
    let (type, s) ← variantName ValueType.names s
    match ← hasElement false s with
    | (false, s) => failHere (.wrongLength 1 form) s
    | (true, s) => readContent type s

/-- Read a value in either form. -/
def read (room : Nat) : Reader Value := fun s =>
  match skipSpace s with
  | '[' :: s =>
    match room with
    | 0 => failNext .tooDeep ('[' :: s)
    | _ + 1 => do
      let (value, s) ← readElements s
      let (_, s) ← closeList s
      .ok (value, s)
  | '\x7b' :: s =>
    match room with
    | 0 => failNext .tooDeep ('\x7b' :: s)
    | room + 1 => do
      let (value, s) ← readMembers room s
      let (_, s) ← closeObject s
      .ok (value, s)
  | s => wrongKind form s

/-- The JSON text of the content of a value. -/
def contentJson : Value → List Char
  | .float x => writeDouble x
  | .sint64 n => (toString n.toInt).toList
  | .uint64 n => writeNat n.toNat
  | .boolean b => writeBool b
  | .text s => writeText s
  | .timestamp t => t.json

/-- The JSON text of a value. -/
def json (v : Value) : List Char :=
  writeObject [("type", writeText v.type.name), ("value", v.contentJson)]

/-- A value as it is shown to a person. -/
def display : Value → String
  | .float x => FloatText.render FloatText.plain x
  | .sint64 n => toString n.toInt
  | .uint64 n => toString n.toNat
  | .boolean b => if b then "true" else "false"
  | .text s => s
  | .timestamp t => String.ofList (t.text Timestamp.shownOffset)

end Value

end StreamRoster
