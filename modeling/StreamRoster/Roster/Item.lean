import StreamRoster.Json.Record
import StreamRoster.Json.Writer
import StreamRoster.Number.Unsigned
import StreamRoster.Text.Blank

/-!
# Stream Items

One row of the roster: a stream and the number of tuples that went through
it.

In JSON a count is a number, or a decimal text, since servers write 64-bit
integers as text. The value is read whole before its kind is looked at, so
an ill-formed value is reported as such and not as a wrong kind.

## Main definitions

* `Item`: A stream and its count.
* `Count.ofTree`: The count in a JSON value.
* `Item.read`: Reads an item.
* `Item.json`: The JSON text of an item.
-/

namespace StreamRoster

open Json

/-- A stream and the number of tuples that went through it. -/
structure Item where
  name : String
  count : UInt64
  deriving DecidableEq, Repr

namespace Count

/-- The count written in a text, white space around it aside. -/
def ofText (s : String) : Except Cause UInt64 :=
  match Unsigned.read 0x10000000000000000 (Text.trim s.toList) with
  | .ok n => .ok (UInt64.ofNat n)
  | .error fault => .error (.refused fault.message)

/-- The count in a JSON value. -/
def ofTree : Tree → Except Cause UInt64
  | .number (.integer (.ofNat n)) => .ok (UInt64.ofNat n)
  | .text s => ofText s
  | _ => .error (.refused "data did not match any variant of untagged enum Count")

/-- Read a count. -/
def read (room : Nat) : Reader UInt64 := fun s => do
  let (value, s) ← tree room s
  match ofTree value with
  | .ok n => .ok (n, s)
  | .error cause => failHere cause s

end Count

namespace Item

/-- The fields of an item met so far. -/
structure Draft where
  name : Option String
  count : Option UInt64

/-- An item as a record. The count is zero where it is left out. -/
def record : Record Draft Item where
  name := "struct StreamItem"
  fields :=
    [{ key := "name"
       isSet := fun d => d.name.isSome
       inList := true
       read := fun _ s => do
        let (name, s) ← anyText s
        .ok (fun d => { d with name := some name }, s) },
     { key := "dataCount"
       isSet := fun d => d.count.isSome
       inList := false
       read := fun room s => do
        let (count, s) ← Count.read room s
        .ok (fun d => { d with count := some count }, s) }]
  start := ⟨none, none⟩
  finish d := do
    let name ← Record.require "name" d.name
    .ok { name, count := d.count.getD 0 }

/-- Read an item. -/
def read : Nat → Reader Item := record.read

/-- The JSON text of an item. -/
def json (item : Item) : List Char :=
  writeObject [("name", writeText item.name), ("dataCount", writeNat item.count.toNat)]

/-- An item as a tree, whose members are sorted by key. -/
def tree (item : Item) : Tree :=
  .object [("dataCount", .number (.integer item.count.toNat)), ("name", .text item.name)]

/-- The JSON text of a list of items. -/
def listJson (items : List Item) : List Char := writeArray (items.map json)

end Item

end StreamRoster
