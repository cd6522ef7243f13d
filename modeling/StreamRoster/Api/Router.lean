import StreamRoster.Api.Views
import StreamRoster.Http.Percent
import StreamRoster.Http.Target

/-!
# The HTTP Routes

The local HTTP API: a health check, the list of streams, one stream by name,
and the place where WebSocket connections are opened.

A path is matched as it is written, segment by segment; only the name of a
stream is decoded, and an empty name matches nothing. Every route is for
`GET`, and `HEAD` is `GET` without the body.

## Main definitions

* `Route`: A place in the API.
* `Route.ofPath?`: The route of a path.
* `Reply`: What is sent back.
* `Route.respond`: The reply to a request.
-/

namespace StreamRoster

/-- A place in the API. -/
inductive Route where
  | health
  | list
  /-- One stream, by its name as it is written in the path. -/
  | stream (segment : List Char)
  | websocket
  deriving DecidableEq, Repr

/-- What is sent back to a request. -/
structure Reply where
  status : Nat
  contentType : Option String
  allow : Option String
  body : List Char
  deriving DecidableEq, Repr

namespace Reply

/-- A reply without a body. -/
def bare (status : Nat) : Reply := { status, contentType := none, allow := none, body := [] }

/-- A reply with a JSON body. -/
def ofJson (status : Nat) (body : List Char) : Reply :=
  { status, contentType := some "application/json", allow := none, body }

/-- A reply with a text body. -/
def ofText (status : Nat) (body : String) : Reply :=
  { status, contentType := some "text/plain; charset=utf-8", allow := none, body := body.toList }

end Reply

namespace Route

/-- What stands before the name of a stream in a path. -/
def streamStem : List Char := "/api/streams/".toList

/-- The route of a path. -/
def ofPath? (path : List Char) : Option Route :=
  if path = "/api/health".toList then some .health
  else if path = "/api/streams".toList then some .list
  else if path = "/ws".toList then some .websocket
  else if path.take streamStem.length = streamStem then
    let segment := path.drop streamStem.length
    if segment.isEmpty || segment.contains '/' then none else some (.stream segment)
  else none

/-- The name of a stream in a path, unless its bytes are not UTF-8. -/
def nameOf? (segment : List Char) : Option String :=
  (Text.ofUtf8? (Percent.decode (Text.utf8 segment))).map String.ofList

/-- The reply to a question about one stream. -/
def streamReply (snapshot : List Item) (segment : List Char) : Reply :=
  match nameOf? segment with
  | none => .ofText 400 "Invalid URL: Invalid UTF-8 in `name`"
  | some name =>
    let response := Views.find snapshot name
    .ofJson (if response.success then 200 else 404) (response.json Item.json)

/-- The reply to a `GET` request. A WebSocket connection cannot be opened by a
    plain request. -/
def get (snapshot : List Item) : Route → Reply
  | .health => .ofJson 200 (Views.health.json Json.writeText)
  | .list => .ofJson 200 ((Views.list snapshot).json Item.listJson)
  | .stream segment => streamReply snapshot segment
  | .websocket => .ofText 400 "Connection header did not include 'upgrade'"

/-- The reply to a `HEAD` request before its body is dropped. -/
def head (snapshot : List Item) : Route → Reply
  | .websocket => .ofText 405 "Request method must be `GET`"
  | route => get snapshot route

/-- The reply to a request for a path. -/
def respond (snapshot : List Item) (method : String) (path : List Char) : Reply :=
  match ofPath? path with
  | none => .bare 404
  | some route =>
    if method = "GET" then get snapshot route
    else if method = "HEAD" then { head snapshot route with body := [] }
    else { Reply.bare 405 with allow := some "GET,HEAD" }

end Route

end StreamRoster
