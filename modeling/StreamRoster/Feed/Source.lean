import StreamRoster.Config.Basic
import StreamRoster.Http.Authorization
import StreamRoster.Http.Target
import StreamRoster.Url.Parse

/-!
# Feed Sources

Where a feed of events comes from, and the request that opens a connection
to it.

## Main definitions

* `Source`: Where a feed comes from.
* `Source.UrlFault`: Why a URL leads to no feed.
* `Source.new`: The source behind a URL.
* `Source.ofConfig`: The source that a configuration names.
* `Source.Request`: The request that opens a connection.
* `Source.RequestFault`: Why no request can be made.
* `Source.request`: The request of a source.
-/

namespace StreamRoster

/-- Where a feed comes from. The room is the number of events that may wait
    for the consumer. -/
structure Source where
  url : Url
  inst : String
  key : Option String
  room : Nat
  deriving DecidableEq

namespace Source

/-- Why a URL leads to no feed. -/
inductive UrlFault where
  | unreadable (text : String) (fault : Url.Fault)
  | scheme (text : String) (found : Scheme)
  deriving DecidableEq, Repr

/-- The wording of a fault. -/
def UrlFault.message : UrlFault → String
  | .unreadable text fault => "Invalid feed URL: " ++ text ++ ": " ++ fault.message
  | .scheme text found =>
    "Invalid feed URL: " ++ text ++ ": unsupported scheme " ++ found.name ++
      " (expected ws or wss)"

/-- The room of a source unless another one is chosen. -/
def defaultRoom : Nat := 1024

/-- The greatest room a channel of events can have. -/
def greatestRoom : Nat := 0x1fffffffffffffff

/-- The source behind a URL. -/
def new (text inst : String) : Except UrlFault Source :=
  match Url.parse text.toList with
  | .error fault => .error (.unreadable text fault)
  | .ok url =>
    if url.scheme = ⟨"ws"⟩ || url.scheme = ⟨"wss"⟩ then
      .ok { url, inst, key := none, room := defaultRoom }
    else .error (.scheme text url.scheme)

/-- The source with a key. -/
def withKey (s : Source) (key : Option String) : Source := { s with key }

/-- The source with some room, at least for one event. -/
def withRoom (s : Source) (room : Nat) : Source := { s with room := max room 1 }

/-- The source that a configuration names. -/
def ofConfig (c : Config) : Except UrlFault Source := do
  let source ← new c.serverUrl c.inst
  return (source.withKey c.key).withRoom c.eventRoom

/-- The request that opens a connection. -/
structure Request where
  target : Target
  authorization : Option (List Char)
  deriving DecidableEq

/-- Why no request can be made. -/
inductive RequestFault where
  | target (fault : Target.Fault)
  | header
  deriving DecidableEq, Repr

/-- The wording of a fault. -/
def RequestFault.message : RequestFault → String
  | .target fault => "HTTP format error: " ++ fault.message
  | .header => Authorization.unwritable

/-- What lies behind a fault. -/
def RequestFault.causes : RequestFault → List String
  | .target fault => [fault.message]
  | .header => []

/-- The request of a source. -/
def request (s : Source) : Except RequestFault Request :=
  match Target.parse s.url.text with
  | .error fault => .error (.target fault)
  | .ok target => match s.key with
    | none => .ok ⟨target, none⟩
    | some key => match Authorization.bearer? key with
      | some value => .ok ⟨target, some value⟩
      | none => .error .header

/-- The method of the request. -/
def Request.method : String := "GET"

/-- The protocol that the connection is upgraded to. -/
def Request.upgrade : String := "websocket"

/-- The version of that protocol. -/
def Request.version : String := "13"

/-- The host that is asked. -/
def Request.host (r : Request) : List Char := Target.hostPart r.target.authority

end Source

end StreamRoster
