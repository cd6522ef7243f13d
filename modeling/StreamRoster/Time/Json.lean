import StreamRoster.Json.Tree
import StreamRoster.Json.Writer
import StreamRoster.Time.Timestamp

/-!
# Timestamps in JSON

A timestamp is a string in JSON.

## Main definitions

* `Timestamp.readJson`: Reads a timestamp.
* `Timestamp.json`: The JSON text of a timestamp.
-/

namespace StreamRoster

open Json

namespace Timestamp

/-- What is wanted where a timestamp is read. -/
def wanted : String := "an RFC 3339 formatted date and time string"

/-- The timestamp in a string. -/
def ofText (s : String) : Except Cause Timestamp :=
  match read s.toList with
  | .ok t => .ok t
  | .error fault => .error (.refused fault.message)

/-- Read a timestamp. -/
def readJson : Reader Timestamp := fun s => do
  let (text, s) ← Json.text wanted s
  match ofText text with
  | .ok t => .ok (t, s)
  | .error cause => failHere cause s

/-- The JSON text of a timestamp. -/
def json (t : Timestamp) : List Char := writeText (String.ofList (t.text wireOffset))

end Timestamp

end StreamRoster
