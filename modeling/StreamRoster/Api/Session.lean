import StreamRoster.Api.Request
import StreamRoster.Roster.Publication

/-!
# WebSocket Sessions

A client of the local WebSocket and what is sent to it: the published list,
at once and whenever it was published anew, and an answer to each request.

One task pushes lists and another one answers requests; both put their
messages on one queue, and a third one sends what is queued. The steps of the
tasks go in any order with those of the publisher and of the client. Between
two of its steps a task keeps what it has in hand: the list it is about to
push, the request it is about to answer, or the answer.

The pushing task remembers the version of the list it saw last. Lists that are
published while it is busy are not queued one by one: it pushes the current one
when it gets to it. Waiting for a list ends with the version of that moment
seen, and the list is read only after that, so it may be a later one.

A task is ended from outside only where it waits. The pushing task is ended
when one of the others is over, the answering task when nothing is sent any
more.

## Main definitions

* `Client.Outgoing`: What is sent to a client.
* `Client.Incoming`: What arrives from a client.
* `Client.Pushing`, `Client.Answering`: What the tasks are doing.
* `Client`: A client with the list it watches.
* `Client.Move`: What can happen next.
* `Client.step`, `Client.run`: What moves lead to.
-/

namespace StreamRoster

namespace Client

/-- What is sent to a client: a published list, or an answer. -/
inductive Outgoing where
  | listing (of : Publication (List Item))
  | answer (response : Response Json.Tree)

/-- The text of what is sent. -/
def Outgoing.text : Outgoing → List Char
  | .listing p => Views.snapshotFrame p.value
  | .answer response => response.json Json.Tree.json

/-- What arrives from a client. -/
inductive Incoming where
  | text (frame : String)
  /-- A frame without text that does not close the connection. -/
  | other
  | close
  /-- The connection ends or breaks without a close. -/
  | lost
  deriving DecidableEq, Repr

/-- What the pushing task is doing. -/
inductive Pushing where
  | starting
  /-- It has read a list and is about to queue it. -/
  | holding (list : Publication (List Item))
  /-- It waits for a list it has not seen. -/
  | waiting
  /-- It was told of a list and is about to read it. -/
  | woken
  /-- It is over because nothing is published any more. -/
  | finished
  /-- It is over because the connection is. -/
  | dropped
  deriving DecidableEq, Repr

/-- Whether the pushing task can be ended from outside. -/
def Pushing.rests : Pushing → Bool
  | .starting | .waiting => true
  | .holding _ | .woken | .finished | .dropped => false

/-- What the answering task is doing. -/
inductive Answering where
  | listening
  /-- It has read a text and is about to look the answer up. -/
  | handling (frame : String)
  /-- It is about to queue an answer. -/
  | answering (response : Response Json.Tree)
  | finished

/-- Whether the answering task is over. -/
def Answering.isOver : Answering → Bool
  | .finished => true
  | .listening | .handling _ | .answering _ => false

end Client

/-- A client with the list it watches: whether that may be published again, the
    version that the pushing task saw last, what the two tasks are doing, what
    arrived and was not read, whether what is queued is still sent, and what was
    put on the queue. -/
structure Client where
  listing : Publication (List Item)
  publishing : Bool
  seen : Nat
  pushing : Client.Pushing
  inbox : List Client.Incoming
  answering : Client.Answering
  sending : Bool
  queue : List Client.Outgoing

namespace Client

/-- What can happen next: on the side of the publisher, in the pushing task, on
    the side of the client, in the answering task, and where sending fails. -/
inductive Move where
  | publish (items : List Item)
  | closePublisher
  | read
  | push
  | wake
  | finish
  | dropPushing
  | send (incoming : Incoming)
  | receive
  | handle
  | answer
  | dropAnswering
  | cutOff
  deriving DecidableEq, Repr

/-- A client that has just connected. The version it saw last is that of
    whoever watched the list for it until now. -/
def start (listing : Publication (List Item)) (seen : Nat) (publishing : Bool) : Client :=
  { listing, publishing, seen, pushing := .starting, inbox := [], answering := .listening,
    sending := true, queue := [] }

/-- Whether a list was published that the pushing task has not seen. -/
def hasNews (c : Client) : Bool := c.seen ≠ c.listing.version

/-- Read the current list. -/
def read (c : Client) : Client :=
  { c with pushing := .holding c.listing, seen := c.listing.version }

/-- Queue a list that was read. Where nothing is sent any more, that fails and
    the task is over. -/
def push (c : Client) (list : Publication (List Item)) : Client :=
  if c.sending then { c with queue := c.queue ++ [.listing list], pushing := .waiting }
  else { c with pushing := .dropped }

/-- Take what arrives. -/
def receive (c : Client) : Incoming → Client
  | .text frame => { c with answering := .handling frame }
  | .other => c
  | .close | .lost => { c with answering := .finished }

/-- Queue an answer. Where nothing is sent any more, it is lost. -/
def answer (c : Client) (response : Response Json.Tree) : Client :=
  if c.sending then { c with queue := c.queue ++ [.answer response], answering := .listening }
  else { c with answering := .listening }

/-- What a move leads to, if it is allowed. -/
def step (c : Client) : Move → Option Client
  | .publish items =>
    if c.publishing then some { c with listing := c.listing.publish items } else none
  | .closePublisher => if c.publishing then some { c with publishing := false } else none
  | .read => match c.pushing with
    | .starting | .woken => some c.read
    | _ => none
  | .push => match c.pushing with
    | .holding list => some (c.push list)
    | _ => none
  | .wake =>
    if c.pushing = .waiting && c.hasNews then
      some { c with pushing := .woken, seen := c.listing.version }
    else none
  | .finish =>
    if c.pushing = .waiting && !c.hasNews && !c.publishing then
      some { c with pushing := .finished }
    else none
  | .dropPushing =>
    if c.pushing.rests && (c.answering.isOver || !c.sending) then
      some { c with pushing := .dropped }
    else none
  | .send incoming => some { c with inbox := c.inbox ++ [incoming] }
  | .receive => match c.answering, c.inbox with
    | .listening, incoming :: inbox => some ({ c with inbox }.receive incoming)
    | _, _ => none
  | .handle => match c.answering with
    | .handling frame =>
      some { c with answering := .answering (Request.response c.listing.value frame) }
    | _ => none
  | .answer => match c.answering with
    | .answering response => some (c.answer response)
    | _ => none
  | .dropAnswering => match c.answering with
    | .listening => if c.sending then none else some { c with answering := .finished }
    | _ => none
  | .cutOff => if c.sending then some { c with sending := false } else none

/-- What several moves lead to, if all of them are allowed. -/
def run (c : Client) (moves : List Move) : Option Client := moves.foldlM step c

end Client

end StreamRoster
