import StreamRoster.Roster.Item

/-!
# Stream Events

What a server pushes about a single stream: it was created, updated or
deleted. A tag this program does not know is kept, so that it can be
reported instead of failing the whole frame.

An event is read in two ways, straight from a text and from a tree that was
read before.

## Main definitions

* `EventKind`: What happened to a stream.
* `Event`: What happened to which stream, and its count.
* `Event.read`: Reads an event from a text.
* `Event.ofTree?`: Reads an event from a tree.
-/

namespace StreamRoster

open Json

/-- What happened to a stream. -/
inductive EventKind where
  | created
  | updated
  | deleted
  | other (tag : String)
  deriving DecidableEq, Repr

namespace EventKind

/-- The kind a tag stands for. -/
def ofTag (tag : String) : EventKind :=
  if tag = "CREATED" then .created
  else if tag = "UPDATED" then .updated
  else if tag = "DELETED" then .deleted
  else .other tag

/-- The tag of a kind. -/
def tag : EventKind → String
  | .created => "CREATED"
  | .updated => "UPDATED"
  | .deleted => "DELETED"
  | .other tag => tag

/-- Read a kind. -/
def read : Reader EventKind := fun s => do
  let (tag, s) ← anyText s
  .ok (ofTag tag, s)

/-- The JSON text of a kind. -/
def json (kind : EventKind) : List Char := writeText kind.tag

end EventKind

/-- What happened to which stream, and its count. A deletion has none. -/
structure Event where
  kind : EventKind
  name : String
  count : UInt64
  deriving DecidableEq, Repr

namespace Event

/-- The fields of an event met so far. -/
structure Draft where
  kind : Option EventKind
  name : Option String
  count : Option UInt64

/-- An event as a record. The count is zero where it is left out. -/
def record : Record Draft Event where
  name := "struct StreamEvent"
  fields :=
    [{ key := "type"
       isSet := fun d => d.kind.isSome
       inList := true
       read := fun _ s => do
        let (kind, s) ← EventKind.read s
        .ok (fun d => { d with kind := some kind }, s) },
     { key := "name"
       isSet := fun d => d.name.isSome
       inList := true
       read := fun _ s => do
        let (name, s) ← anyText s
        .ok (fun d => { d with name := some name }, s) },
     { key := "dataCount"
       isSet := fun d => d.count.isSome
       inList := false
       read := fun room s => do
        let (count, s) ← Count.read room s
        .ok (fun d => { d with count := some count }, s) }]
  start := ⟨none, none, none⟩
  finish d := do
    let kind ← Record.require "type" d.kind
    let name ← Record.require "name" d.name
    .ok { kind, name, count := d.count.getD 0 }

/-- Read an event from a text. -/
def read : Nat → Reader Event := record.read

/-- The event in the values of its fields. -/
def ofFields? : Tree → Tree → Option Tree → Option Event
  | .text tag, .text name, none => some ⟨.ofTag tag, name, 0⟩
  | .text tag, .text name, some count =>
    (Count.ofTree count).toOption.map fun n => ⟨.ofTag tag, name, n⟩
  | _, _, _ => none

/-- Read an event from a tree. A key that is repeated counts where it is met
    last. -/
def ofTree? : Tree → Option Event
  | .object members => do
    let kind ← Tree.lookup? "type" members
    let name ← Tree.lookup? "name" members
    ofFields? kind name (Tree.lookup? "dataCount" members)
  | .array [kind, name] => ofFields? kind name none
  | .array [kind, name, count] => ofFields? kind name (some count)
  | _ => none

/-- The JSON text of an event. -/
def json (event : Event) : List Char :=
  writeObject [("type", event.kind.json), ("name", writeText event.name),
    ("dataCount", writeNat event.count.toNat)]

end Event

end StreamRoster
