import StreamRoster.Feed.Source
import StreamRoster.Feed.Writer

/-!
# Feed Sessions

What happens between a source, the server and the consumer of the events.

A source has one slot for a connection. Subscribing fills it and opens a
call on the connection, with a number that no earlier connection of the
source had; it fails while the slot is occupied. Unsubscribing empties the
slot and starts a release: the writer of the connection is handed a cancel, if
the server has confirmed a call, and a close, and is waited for until it has
ended or for as long as there is patience. If the server closes first, the slot
stays occupied until the source is unsubscribed, and the writer may find that
nothing can be sent any more.

A release goes on beside everything else. The slot is free from its beginning,
so another connection may be opened meanwhile.

Whoever watches the source hears of each attempt to connect and of how it
ended, and of a connection that the server gave up. A connection that was
given up on purpose is not reported.

## Main definitions

* `Feed.Fault`: Why a subscription fails.
* `Feed.Connection`: A connection with its call.
* `Feed.Release`: A connection that has left the slot.
* `Feed.Session`: A source with its slot and what was heard of it.
* `Feed.Session.subscribe`, `Feed.Session.receive`,
  `Feed.Session.dropReceiver`, `Feed.Session.unsubscribe`,
  `Feed.Session.tend`: What can happen.
* `Feed.Session.step`, `Feed.Session.run`: The same as moves.
-/

namespace StreamRoster

namespace Feed

/-- Why no connection comes about. -/
inductive ConnectFault where
  /-- The system reports an error. -/
  | system (text : String)
  /-- The server answers with a status of its own. -/
  | status (text : String)
  /-- The answer breaks the rules of the protocol. -/
  | protocol (text : String)
  /-- A header of the request is not plain text. -/
  | encoding
  deriving DecidableEq, Repr

/-- The wording of a fault. -/
def ConnectFault.message : ConnectFault → String
  | .system text => "IO error: " ++ text
  | .status text => "HTTP error: " ++ text
  | .protocol text => "WebSocket protocol error: " ++ text
  | .encoding => "UTF-8 encoding error"

/-- What lies behind a fault. -/
def ConnectFault.causes : ConnectFault → List String
  | .system text => [text]
  | _ => []

/-- The fault of a system without a network. -/
def unreachable : ConnectFault := .system "Network is unreachable (os error 101)"

/-- Why a subscription fails. -/
inductive Fault where
  | alreadySubscribed
  | request (fault : Source.RequestFault)
  | connect (fault : ConnectFault)
  deriving DecidableEq, Repr

/-- The wording of a fault. -/
def Fault.message : Fault → String
  | .alreadySubscribed => "A subscription is already active"
  | .request fault => fault.message
  | .connect fault => "Failed to connect to feed: " ++ fault.message

/-- What lies behind a fault. -/
def Fault.causes : Fault → List String
  | .alreadySubscribed => []
  | .request fault => fault.causes
  | .connect fault => fault.message :: fault.causes

/-- What is heard of a source. -/
inductive Notice where
  | connecting
  | connected
  | failed (fault : Fault)
  | disconnected
  deriving DecidableEq, Repr

/-- The wording of a notice. -/
def Notice.text : Notice → String
  | .connecting => "connecting"
  | .connected => "connected"
  | .failed fault => "failed: " ++ fault.message
  | .disconnected => "disconnected"

/-- A connection: the number of its call, the number that the server gave to
    it, whether frames are still read, whether somebody takes the events, the
    events put on the channel, and the writer. -/
structure Connection where
  id : UInt32
  call : Option UInt32
  reading : Bool
  listening : Bool
  delivered : List Event
  writer : Writer
  deriving DecidableEq

/-- A connection whose call is about to be opened. -/
def Connection.opened (id : UInt32) (inst : String) : Connection :=
  { id, call := none, reading := true, listening := true, delivered := [],
    writer := .start (.openCall id inst) }

/-- What the client has put on a connection. -/
def Connection.sent (c : Connection) : List ClientMessage := c.writer.sent

/-- How far a release has come. -/
inductive Stage where
  /-- The cancel was handed over, if there is one. -/
  | leaving
  /-- The close was handed over too, and the writer is waited for. -/
  | flushing
  | finished
  deriving DecidableEq, Repr

/-- A connection that has left the slot. -/
structure Release where
  connection : Connection
  stage : Stage
  deriving DecidableEq

/-- Take leave of a connection. Its reader ends, and the recorded call is handed
    over to be cancelled, if there is one. -/
def Connection.leave (c : Connection) : Release × List Log.Line :=
  -- Reading ends first, so no frame can change the call that is cancelled.
  let c := { c with reading := false }
  match c.call with
  | none => (⟨c, .leaving⟩, [])
  | some call =>
    (⟨{ c with writer := c.writer.hand (.cancel call) }, .leaving⟩,
      c.writer.ifLost (.debug "Feed writer already gone, cancel not sent"))

namespace Release

/-- What is reported when a release is over. -/
def farewell : Log.Line := .info "Released stream event call"

/-- Go on with a release: hand the close over, and be done once the writer has
    ended. -/
def proceed (r : Release) : Release × List Log.Line :=
  match r.stage with
  | .leaving =>
    (⟨{ r.connection with writer := r.connection.writer.hand .close }, .flushing⟩,
      r.connection.writer.ifLost (.debug "Feed writer already gone, close not sent"))
  | .flushing => match r.connection.writer.phase with
    | .running => (r, [])
    | .broken => ({ r with stage := .finished }, [.warn "Feed writer task failed", farewell])
    | .closed | .failed | .aborted => ({ r with stage := .finished }, [farewell])
  | .finished => (r, [])

/-- Give up waiting for the writer. -/
def expire (r : Release) : Release × List Log.Line :=
  if r.stage = .flushing ∧ r.connection.writer.phase = .running then
    (⟨{ r.connection with writer := r.connection.writer.quit .aborted }, .finished⟩,
      [.warn "Timed out flushing feed cancel, dropping connection", farewell])
  else (r, [])

end Release

/-- What is done on a connection beside reading. -/
inductive Duty where
  /-- The writer sends a message, or tries to. -/
  | write (sending : Sending)
  /-- The release of the connection goes on. -/
  | proceed
  /-- The release gives up waiting for the writer. -/
  | expire
  deriving DecidableEq, Repr

/-- Do a duty on a connection in the slot, where there is no release. -/
def Connection.tend (c : Connection) : Duty → Connection × List Log.Line
  | .write sending => ({ c with writer := (c.writer.write sending).1 }, (c.writer.write sending).2)
  | .proceed | .expire => (c, [])

/-- Do a duty on a connection that has left the slot. -/
def Release.tend (r : Release) : Duty → Release × List Log.Line
  | .write sending => ({ r with connection := (r.connection.tend (.write sending)).1 },
      (r.connection.tend (.write sending)).2)
  | .proceed => r.proceed
  | .expire => r.expire

/-- What arrives on a connection. -/
inductive Incoming where
  | text (frame : String)
  /-- A frame without text that does not close the connection. -/
  | other
  | close
  | readError
  | endOfStream
  deriving DecidableEq, Repr

/-- How an attempt to subscribe goes. -/
inductive Attempt where
  | connects
  | fails (fault : ConnectFault)
  /-- The attempt is given up while it connects. -/
  | abandoned
  /-- The attempt is given up while it waits for its turn at the slot. -/
  | withdrawn
  deriving DecidableEq, Repr

/-- A source with its slot, the connections that were in it before, the number
    of the next call, and what was heard and reported. -/
structure Session where
  source : Source
  active : Option Connection
  released : List Release
  nextId : UInt32
  notices : List Notice
  logs : List Log.Line
  deriving DecidableEq

namespace Session

/-- A source that was never subscribed to. -/
def start (source : Source) : Session :=
  { source, active := none, released := [], nextId := 1, notices := [], logs := [] }

/-- Let a notice be heard. -/
def notify (s : Session) (notice : Notice) : Session :=
  { s with notices := s.notices ++ [notice] }

/-- Report some lines. -/
def report (s : Session) (lines : List Log.Line) : Session := { s with logs := s.logs ++ lines }

/-- Fill the slot with a connection and open its call. -/
def connect (s : Session) : Session :=
  { s.notify .connected with
    active := some (.opened s.nextId s.source.inst)
    nextId := s.nextId + 1 }.report [.info "Opened stream event call"]

/-- Subscribe, when the attempt goes in some way. There is no answer if it is
    given up, and none if it connects and the room of the source is more than
    a channel can have: then it breaks off. -/
def subscribe (s : Session) (attempt : Attempt) : Session × Option (Except Fault Unit) :=
  -- Given up before its turn: the slot was not looked at.
  if attempt = .withdrawn then (s, none)
  else if s.active.isSome then (s, some (.error .alreadySubscribed))
  else
    let s := s.notify .connecting
    match s.source.request with
    | .error fault => (s, some (.error (.request fault)))
    | .ok _ => match attempt with
      | .connects =>
        -- The connection is reported before its channel is made.
        if s.source.room ≤ Source.greatestRoom then (s.connect, some (.ok ()))
        else (s.notify .connected, none)
      | .fails fault => (s.notify (.failed (.connect fault)), some (.error (.connect fault)))
      | .abandoned | .withdrawn => (s, none)

/-- Stop reading because the server gave the connection up. -/
def hangUp (s : Session) (c : Connection) : Session :=
  { s with active := some { c with reading := false } }.notify .disconnected

/-- Take what arrives on the connection in the slot, if it is read, and handle
    it to the end. An event is put on the channel, for which the reader waits
    while the channel is full. What the consumer takes from the channel is not
    recorded: `delivered` is all that was ever put there. -/
def receive (s : Session) (incoming : Incoming) : Session :=
  match s.active with
  | none => s
  | some c =>
    if !c.reading then s
    else match incoming with
      | .other => s
      | .close | .endOfStream => s.hangUp c
      | .readError => (s.report [.warn "Feed read error"]).hangUp c
      | .text frame =>
        let effect := Frame.handle c.id c.listening c.call frame
        let c := { c with
          call := effect.call
          delivered := c.delivered ++ effect.delivered.toList }
        let s := s.report effect.notices
        match effect.outcome with
        | .proceed => { s with active := some c }
        | .rejected => s.hangUp c
        | .consumerGone =>
          -- The server did not give the connection up, so no loss is heard of.
          { s with active := some { c with reading := false } }.report
            [.debug "Stream event consumer went away"]

/-- Drop the end of the channel that takes the events. -/
def dropReceiver (s : Session) : Session :=
  { s with active := s.active.map fun c => { c with listening := false } }

/-- Empty the slot, and start the release of the connection in it. -/
def unsubscribe (s : Session) : Session :=
  match s.active with
  | none => s.report [.debug "No active stream event call to release"]
  | some c =>
    { s with active := none, released := s.released ++ [c.leave.1] }.report c.leave.2

/-- Do a duty on a connection. The connections that have left the slot have the
    first places, in their order, and the one in the slot has the next. -/
def tend (s : Session) (place : Nat) (duty : Duty) : Session :=
  match s.released[place]? with
  | some r => { s with released := s.released.set place (r.tend duty).1 }.report (r.tend duty).2
  | none => match s.active with
    | none => s
    | some c =>
      if place = s.released.length then
        { s with active := some (c.tend duty).1 }.report (c.tend duty).2
      else s

/-- What can happen to a source. -/
inductive Move where
  | subscribe (attempt : Attempt)
  | receive (incoming : Incoming)
  | dropReceiver
  | unsubscribe
  | tend (place : Nat) (duty : Duty)
  deriving DecidableEq, Repr

/-- What a move leads to. -/
def step (s : Session) : Move → Session
  | .subscribe attempt => (s.subscribe attempt).1
  | .receive incoming => s.receive incoming
  | .dropReceiver => s.dropReceiver
  | .unsubscribe => s.unsubscribe
  | .tend place duty => s.tend place duty

/-- What several moves lead to. -/
def run (s : Session) (moves : List Move) : Session := moves.foldl step s

end Session

end Feed

end StreamRoster
