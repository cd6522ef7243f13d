import StreamRoster.Archive.Request
import StreamRoster.Http.Status
import StreamRoster.Log.Line
import StreamRoster.Roster.Item

/-!
# Archive Listings

What an archive answers when it is asked for its streams: a list inside an
object, or a status that says why there is none.

## Main definitions

* `Archive.Answer`: The answer of an archive.
* `Archive.ListFault`: Why there is no list.
* `Archive.read`: Reads the list inside its object.
* `Archive.Answer.streams`: The streams in an answer.
-/

namespace StreamRoster

open Json

namespace Archive

/-- Read the list inside its object. Without the list there are no streams. -/
def read : Nat → Reader (List Item) :=
  Record.read
    { name := "struct ListStreamsResponse"
      fields :=
        [{ key := "streams"
           isSet := Option.isSome
           inList := false
           read := fun room s => do
            let (items, s) ← list Item.read room s
            .ok (fun _ => some items, s) }]
      start := (none : Option (List Item))
      finish := fun items => .ok (items.getD []) }

/-- The answer of an archive. -/
structure Answer where
  status : Nat
  body : List UInt8
  deriving DecidableEq, Repr

/-- Why there is no list. -/
inductive ListFault where
  | status (code : Nat) (text : List Char)
  | body (failure : Failure)

/-- The wording of a fault. -/
def ListFault.message : ListFault → String
  | .status code text =>
    "Stream list request failed: " ++ Status.text code ++ " - " ++ String.ofList text
  | .body _ => "error decoding response body"

/-- What is reported before an archive is asked. -/
def asking : Log.Line := .info "Fetching stream list from archive"

/-- A text without the mark of its byte order. -/
def dropMark : List Char → List Char
  | '\uFEFF' :: s => s
  | s => s

/-- The streams in an answer, with what is reported. -/
def Answer.streams (a : Answer) : Except ListFault (List Item) × List Log.Line :=
  let text := Text.ofUtf8Lossy a.body
  if !Status.isSuccess a.status then
    (.error (.status a.status (dropMark text)), [.error "Stream list request failed"])
  else match readAll (read topRoom) (String.ofList text) with
    | .ok items => (.ok items, [.info "Fetched stream list"])
    | .error failure => (.error (.body failure), [])

end Archive

end StreamRoster
