import StreamRoster.Json.Skip

/-!
# JSON Records

Reading a value with named fields.

A record is written as an object, with its fields in any order and other
members passed over, or as a list of its fields in their declared order.
While a record is read, its fields gather in a draft. In the object form a
field may be met once only, and the fields that were not met are settled at
the end. In the list form a field that is missing at the end of the list is
an error unless it has a default there.

## Main definitions

* `Json.Field`: How one field is read into the draft of a record.
* `Json.Record`: The fields of a record, and how a draft becomes a value.
* `Json.Record.read`: Reads a record.
-/

namespace StreamRoster

namespace Json

/-- A field of a record, read into a draft. -/
structure Field (σ : Type) where
  key : String
  /-- Whether the draft already holds the field. -/
  isSet : σ → Bool
  /-- Reads the value of the field, with the levels left inside the record. -/
  read : Nat → Reader (σ → σ)
  /-- Whether the list form has to hold the field. -/
  inList : Bool

/-- A value with named fields. -/
structure Record (σ α : Type) where
  /-- What the record is called in error messages. -/
  name : String
  fields : List (Field σ)
  /-- The draft before any field is read. -/
  start : σ
  /-- The value of a draft, or the first field that is missing in it. -/
  finish : σ → Except Cause α

namespace Record

/-- The value of a field that has to be there. -/
def require (key : String) : Option α → Except Cause α
  | some a => .ok a
  | none => .error (.missingField key)

/-- Read the members of the object form up to the closing brace. Every member
    takes one step of the fuel, which is the length of the text. -/
def readMembers (fields : List (Field σ)) (room : Nat) : Nat → Bool → σ → Reader σ
  | 0, _, _, _ => failHere .endOfObject []
  | fuel + 1, first, draft, s => do
    match ← hasMember first s with
    | (false, s) => .ok (draft, s)
    | (true, s) =>
      let (key, s) ← string s
      match fields.find? fun f => f.key = key with
      | none =>
        let (_, s) ← memberColon s
        let (_, s) ← skip s
        readMembers fields room fuel false draft s
      | some field =>
        -- A repeated key is refused before its value is looked at.
        if field.isSet draft then failHere (.duplicateField key) s
        else
          let (_, s) ← memberColon s
          let (put, s) ← field.read room s
          readMembers fields room fuel false (put draft) s

/-- What a list that is too short should have been. -/
def listForm (name : String) (size : Nat) : String :=
  let unit := if size = 1 then "element" else "elements"
  s!"{name} with {size} {unit}"

/-- Read the fields of the list form in their declared order, from the one at
    an index on. -/
def readElements (form : String) (room : Nat) : List (Field σ) → Nat → Bool → σ → Reader σ
  | [], _, _, draft, s => .ok (draft, s)
  | field :: fields, index, first, draft, s => do
    match ← hasElement first s with
    | (true, s) =>
      let (put, s) ← field.read room s
      readElements form room fields (index + 1) false (put draft) s
    | (false, s) =>
      -- The list has ended, so the field keeps its default if it has one.
      if field.inList then failHere (.wrongLength index form) s
      else readElements form room fields (index + 1) first draft s

/-- The value of a finished draft. -/
def conclude (r : Record σ α) (draft : σ) (s : List Char) : Except Failure α :=
  match r.finish draft with
  | .ok a => .ok a
  | .error cause => failHere cause s

/-- Read a record in either form. -/
def read (r : Record σ α) (room : Nat) : Reader α := fun s =>
  match skipSpace s with
  | '[' :: s =>
    match room with
    | 0 => failNext .tooDeep ('[' :: s)
    | room + 1 => do
      let form := listForm r.name r.fields.length
      let (draft, s) ← readElements form room r.fields 0 true r.start s
      let a ← r.conclude draft s
      let (_, s) ← closeList s
      .ok (a, s)
  | '\x7b' :: s =>
    match room with
    | 0 => failNext .tooDeep ('\x7b' :: s)
    | room + 1 => do
      let (draft, s) ← readMembers r.fields room (s.length + 1) true r.start s
      let a ← r.conclude draft s
      let (_, s) ← closeObject s
      .ok (a, s)
  | s => wrongKind r.name s

end Record

end Json

end StreamRoster
