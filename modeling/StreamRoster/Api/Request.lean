import StreamRoster.Api.Views
import StreamRoster.Json.Variant

/-!
# WebSocket Requests

What a client may ask over the local WebSocket, and the answers.

A request is tagged with its type: an object with the member `type` next to
the fields of the request, or a list of the tag and the fields. Everything
beside the tag is read as trees first, in whatever order it comes, and the
fields are looked for once the whole value was read. So a failure inside
the text has a place, and a failure of the fields has none.

A failure of the tag that is noticed between two values is reported behind
the closing bracket if that comes next.

## Main definitions

* `Request`: What a client may ask.
* `Request.read`: Reads a request.
* `Request.reply`: The answer to a text frame.
-/

namespace StreamRoster

open Json

/-- What a client may ask. -/
inductive Request where
  | listStreams
  | getStream (name : String)
  deriving DecidableEq, Repr

namespace Request

/-- The type of a request. -/
inductive Tag where
  | listStreams
  | getStream
  deriving DecidableEq, Repr

/-- The names of the types. -/
def tags : List (String × Tag) := [("ListStreams", .listStreams), ("GetStream", .getStream)]

/-- The key of the tag. -/
def tagKey : String := "type"

/-- What is wanted where a request is read. -/
def form : String := "internally tagged enum WsMessage"

/-- Fail behind the closing brace if it comes next. -/
def failAfterObject (cause : Cause) (s : List Char) : Except Failure α :=
  match skipSpace s with
  | '\x7d' :: s => failHere cause s
  | s => failHere cause s

/-- Fail behind the closing bracket if it comes next. -/
def failAfterList (cause : Cause) (s : List Char) : Except Failure α :=
  match skipSpace s with
  | ']' :: s => failHere cause s
  | s => failHere cause s

/-- Read the members of the object form: the tag, and the other members in
    their order. Every member takes one step of the fuel, which is the
    length of the text. -/
def readMembers (room : Nat) :
    Nat → Bool → Option Tag → Reader (Option Tag × List (String × Tree))
  | 0, _, _, _ => failHere .endOfObject []
  | fuel + 1, first, tag, s => do
    match ← hasMember first s with
    | (false, s) => .ok ((tag, []), s)
    | (true, s) =>
      let (key, s) ← string s
      if key = tagKey then
        if tag.isSome then failAfterObject (.duplicateField tagKey) s
        else
          let (_, s) ← memberColon s
          let (tag, s) ← variantName tags s
          readMembers room fuel false (some tag) s
      else
        let (_, s) ← memberColon s
        let (value, s) ← tree room s
        let ((tag, others), s) ← readMembers room fuel false tag s
        .ok ((tag, (key, value) :: others), s)

/-- Read a tagged value: its tag, and the rest as a tree. -/
def readTagged : Reader (Tag × Tree) := fun s =>
  match skipSpace s with
  | '[' :: s => do
    match ← hasElement true s with
    | (false, s) => failAfterList (.missingField tagKey) s
    | (true, s) =>
      let (tag, s) ← variantName tags s
      let (fields, s) ← elements (tree (topRoom - 1)) (s.length + 1) false s
      let (_, s) ← closeList s
      .ok ((tag, .array fields), s)
  | '\x7b' :: s => do
    match ← readMembers (topRoom - 1) (s.length + 1) true none s with
    | ((none, _), s) => failAfterObject (.missingField tagKey) s
    | ((some tag, others), s) =>
      let (_, s) ← closeObject s
      .ok ((tag, .object others), s)
  | s => wrongKind form s

/-- A string among the fields. -/
def nameOf : Tree → Except Cause String
  | .text s => .ok s
  | other => .error (.wrongKind other.found "a string")

/-- The name among the members of a request, which has to be there once. -/
def nameAmong : Option String → List (String × Tree) → Except Cause String
  | some name, [] => .ok name
  | none, [] => .error (.missingField "name")
  | found, (key, value) :: others =>
    if key = "name" then
      if found.isSome then .error (.duplicateField "name")
      else do
        let name ← nameOf value
        nameAmong (some name) others
    else nameAmong found others

/-- The request of a tag and its fields. -/
def ofFields : Tag → Tree → Except Cause Request
  | .listStreams, .array [] => .ok .listStreams
  | .listStreams, .array fields =>
    .error (.wrongLength fields.length "0 elements in sequence")
  | .listStreams, _ => .ok .listStreams
  | .getStream, .array [] =>
    .error (.wrongLength 0 "struct variant WsMessage::GetStream with 1 element")
  | .getStream, .array (name :: more) => do
    let name ← nameOf name
    if more.isEmpty then .ok (.getStream name)
    else .error (.wrongLength (more.length + 1) "1 element in sequence")
  | .getStream, .object members => do
    let name ← nameAmong none members
    .ok (.getStream name)
  | .getStream, other =>
    .error (.wrongKind other.found "struct variant WsMessage::GetStream")

/-- Read a request. -/
def read : Reader Request := fun s => do
  let ((tag, fields), s) ← readTagged s
  match ofFields tag fields with
  | .ok request => .ok (request, s)
  | .error cause => failNowhere cause

/-- The answer to a request from the published list, as a tree. -/
def answer (snapshot : List Item) : Request → Response Tree
  | .listStreams => (Views.list snapshot).map fun items => .array (items.map Item.tree)
  | .getStream name => (Views.find snapshot name).map Item.tree

/-- The answer to a text frame. -/
def response (snapshot : List Item) (text : String) : Response Tree :=
  match readAll read text with
  | .ok request => answer snapshot request
  | .error f => .failed ("Invalid message format: " ++ f.describe text)

/-- The text of the answer to a text frame. -/
def reply (snapshot : List Item) (text : String) : List Char :=
  (response snapshot text).json Tree.json

end Request

end StreamRoster
