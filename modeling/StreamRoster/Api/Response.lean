import StreamRoster.Json.Tree
import StreamRoster.Roster.Item

/-!
# API Responses

What the local API answers: success with data, or an error message.

## Main definitions

* `Response`: The envelope of every answer.
* `Response.read`: Reads the answer to a list request.
* `Response.json`: The JSON text of an answer.
-/

namespace StreamRoster

open Json

/-- The envelope of every answer. -/
structure Response (α : Type) where
  success : Bool
  data : Option α
  error : Option String
  deriving DecidableEq, Repr

namespace Response

/-- An answer with data. -/
def ok (data : α) : Response α := { success := true, data := some data, error := none }

/-- An answer with an error message. -/
def failed (message : String) : Response α :=
  { success := false, data := none, error := some message }

/-- The JSON text of an answer. -/
def json (write : α → List Char) (r : Response α) : List Char :=
  writeObject [("success", writeBool r.success), ("data", writeNullable write r.data),
    ("error", writeNullable writeText r.error)]

/-- The same answer with its data converted. -/
def map (f : α → β) (r : Response α) : Response β :=
  { success := r.success, data := r.data.map f, error := r.error }

/-- The fields of an answer met so far. -/
structure Draft (α : Type) where
  success : Option Bool
  data : Option (Option α)
  error : Option (Option String)

/-- The answer to a list request as a record. -/
def record : Record (Draft (List Item)) (Response (List Item)) where
  name := "struct ApiResponse"
  fields :=
    [{ key := "success"
       isSet := fun d => d.success.isSome
       inList := true
       read := fun _ s => do
        let (success, s) ← boolean s
        .ok (fun d => { d with success := some success }, s) },
     { key := "data"
       isSet := fun d => d.data.isSome
       inList := true
       read := fun room s => do
        let (data, s) ← nullable (list Item.read room) s
        .ok (fun d => { d with data := some data }, s) },
     { key := "error"
       isSet := fun d => d.error.isSome
       inList := true
       read := fun _ s => do
        let (error, s) ← nullable anyText s
        .ok (fun d => { d with error := some error }, s) }]
  start := ⟨none, none, none⟩
  finish d := do
    let success ← Record.require "success" d.success
    .ok { success, data := d.data.join, error := d.error.join }

/-- Read the answer to a list request. -/
def read : Nat → Reader (Response (List Item)) := record.read

end Response

end StreamRoster
