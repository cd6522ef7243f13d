import StreamRoster.Api.Response

/-!
# Views of the Published List

The read-only questions that the local API answers from the published list
of streams, over HTTP and over WebSocket alike.

## Main definitions

* `Views.health`, `Views.list`, `Views.find`: The answers.
* `Views.snapshotFrame`: The published list as it is pushed to a client.
-/

namespace StreamRoster

open Json

namespace Views

/-- The answer to a health check. -/
def health : Response String := .ok "ok"

/-- The whole list. -/
def list (snapshot : List Item) : Response (List Item) := .ok snapshot

/-- The stream with a name. -/
def find (snapshot : List Item) (name : String) : Response Item :=
  match snapshot.find? fun item => item.name = name with
  | some item => .ok item
  | none => .failed ("Stream not found: " ++ name)

/-- The list as it is pushed to a client. -/
def snapshotFrame (snapshot : List Item) : List Char :=
  writeObject [("type", writeText "snapshot"), ("streams", Item.listJson snapshot)]

end Views

end StreamRoster
