import StreamRoster.Log.Line
import StreamRoster.Roster.Event

/-!
# Feed Frames

What a server says on a feed connection, and what the client makes of it.

A text frame is read as a message with a type, possibly the number of a
call, and possibly data. Replies confirm or refuse the call that the client
opened; event frames carry one stream event; everything else is ignored.
`Frame.meaning` says which of these a text is, without regard to the state
of the connection. `Frame.handle` gives the effect: whether the connection
goes on, which call is recorded, and which event is delivered.

## Main definitions

* `Frame`: A message of the server.
* `Frame.Meaning`: What a text frame means to an open call.
* `Frame.meaning`: The meaning of a text.
* `Frame.handle`: The effect of a text.
-/

namespace StreamRoster

open Json

/-- A message of the server. -/
structure Frame where
  type : String
  call : Option UInt32
  data : Option Tree

namespace Frame

/-- The fields of a message met so far. -/
structure Draft where
  type : Option String
  call : Option (Option UInt32)
  data : Option (Option Tree)

/-- A message as a record. -/
def record : Record Draft Frame where
  name := "struct ServerMessage"
  fields :=
    [{ key := "type"
       isSet := fun d => d.type.isSome
       inList := true
       read := fun _ s => do
        let (type, s) ← anyText s
        .ok (fun d => { d with type := some type }, s) },
     { key := "call"
       isSet := fun d => d.call.isSome
       inList := false
       read := fun _ s => do
        let (call, s) ← nullable unsigned32 s
        .ok (fun d => { d with call := some (call.map UInt32.ofNat) }, s) },
     { key := "data"
       isSet := fun d => d.data.isSome
       inList := false
       read := fun room s => do
        let (data, s) ← nullable (tree room) s
        .ok (fun d => { d with data := some data }, s) }]
  start := ⟨none, none, none⟩
  finish d := do
    let type ← Record.require "type" d.type
    .ok { type, call := d.call.join, data := d.data.join }

/-- Read a message. -/
def read : Nat → Reader Frame := record.read

/-- The message in a text, if it is one. -/
def ofText? (text : String) : Option Frame := (readAll (read topRoom) text).toOption

/-- The type of the messages that open a call and of those that carry events. -/
def topic : String := "stream-events"

/-- What a text frame means to an open call. -/
inductive Meaning where
  /-- The text is no message. -/
  | unreadable
  /-- A reply to another request. -/
  | foreignReply
  /-- The server refuses the call. -/
  | refusal
  /-- The server accepts the call under a number. -/
  | confirmation (call : UInt32)
  /-- A reply that says nothing about a call. -/
  | emptyReply
  /-- An event. -/
  | event (e : Event)
  /-- An event frame without data. -/
  | missingEvent
  /-- An event frame whose data is no event. -/
  | strangeEvent
  /-- A message of another type. -/
  | unrelated
  deriving DecidableEq

/-- The request that a reply names, if its data names one by an unsigned
    integer. -/
def repliesTo? (data : Option Tree) : Option Nat :=
  match data.bind (Tree.get? "replyTo") with
  | some (.number (.integer (.ofNat n))) => some n
  | _ => none

/-- Whether the data of a reply holds an exception. -/
def refuses (data : Option Tree) : Bool := (data.bind (Tree.get? "exception")).isSome

/-- The meaning of a reply. A reply that names another request is left alone
    whatever else it says, and an exception counts before a call number. -/
def replyMeaning (request : UInt32) (frame : Frame) : Meaning :=
  if (repliesTo? frame.data).any fun n => n ≠ request.toNat then .foreignReply
  else if refuses frame.data then .refusal
  else match frame.call with
    | some call => .confirmation call
    | none => .emptyReply

/-- The meaning of an event frame. -/
def eventMeaning (frame : Frame) : Meaning :=
  match frame.data with
  | none => .missingEvent
  | some data =>
    match Event.ofTree? data with
    | some e => .event e
    | none => .strangeEvent

/-- The meaning of a text for the call opened by a request. -/
def meaning (request : UInt32) (text : String) : Meaning :=
  match ofText? text with
  | none => .unreadable
  | some frame =>
    if frame.type = "reply" then replyMeaning request frame
    else if frame.type = topic then eventMeaning frame
    else .unrelated

/-- What the reader of a connection does after a frame. -/
inductive Outcome where
  | proceed
  /-- Nobody takes events any more. -/
  | consumerGone
  /-- The server refused the call. -/
  | rejected
  deriving DecidableEq, Repr

/-- The effect of a frame. -/
structure Effect where
  outcome : Outcome
  /-- The call recorded after the frame. -/
  call : Option UInt32
  /-- The event delivered by the frame. -/
  delivered : Option Event
  notices : List Log.Line
  deriving DecidableEq

/-- The effect of a meaning, given the recorded call and whether somebody
    takes events. -/
def effect (listening : Bool) (call : Option UInt32) : Meaning → Effect
  | .unreadable => ⟨.proceed, call, none, [.warn "Ignoring malformed feed frame"]⟩
  | .foreignReply => ⟨.proceed, call, none, [.debug "Ignoring reply to another request"]⟩
  | .refusal => ⟨.rejected, call, none, [.error "Server rejected stream event call"]⟩
  | .confirmation c => ⟨.proceed, some c, none, [.info "Stream event call confirmed"]⟩
  | .emptyReply => ⟨.proceed, call, none, []⟩
  | .event e =>
    if listening then ⟨.proceed, call, some e, []⟩ else ⟨.consumerGone, call, none, []⟩
  | .missingEvent => ⟨.proceed, call, none, [.warn "Stream event frame without data"]⟩
  | .strangeEvent => ⟨.proceed, call, none, [.warn "Ignoring undecodable stream event"]⟩
  | .unrelated => ⟨.proceed, call, none, [.debug "Ignoring feed message"]⟩

/-- The effect of a text frame. -/
def handle (request : UInt32) (listening : Bool) (call : Option UInt32) (text : String) : Effect :=
  effect listening call (meaning request text)

end Frame

end StreamRoster
