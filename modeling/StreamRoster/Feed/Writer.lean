import StreamRoster.Feed.Frame
import StreamRoster.Json.Writer

/-!
# Feed Writers

What a client says to the server, and the task that puts it on the connection.

Messages are handed to a writer, which keeps them in a queue and sends them one
after the other. It ends behind a close. It also ends where a message cannot be
sent, since a connection that the server has closed takes none. What is in the
queue then is lost, and so is whatever is handed over later; the writer does not
say so, whoever hands over has to look.

Sending may also break down, and whoever waits for the writer may give it up.

## Main definitions

* `Feed.ClientMessage`: What a client says to the server.
* `Feed.Sending`: What comes of sending a message.
* `Feed.Writer`: A writer with its queue and what it has sent.
* `Feed.Writer.hand`: Hands a message over.
* `Feed.Writer.write`: Sends the first message of the queue.
-/

namespace StreamRoster

open Json

namespace Feed

/-- What a client says to the server. -/
inductive ClientMessage where
  /-- Open a call under a number for the streams of an instance. -/
  | openCall (id : UInt32) (inst : String)
  /-- Cancel a call. -/
  | cancel (call : UInt32)
  /-- Close the connection. -/
  | close
  deriving DecidableEq, Repr

/-- The text of a message. A close has none. -/
def ClientMessage.json? : ClientMessage → Option (List Char)
  | .openCall id inst => some <| writeObject [("type", writeText Frame.topic),
      ("id", writeNat id.toNat), ("options", writeObject [("instance", writeText inst)])]
  | .cancel call => some <| writeObject [("type", writeText "cancel"),
      ("options", writeObject [("call", writeNat call.toNat)])]
  | .close => none

/-- What comes of sending a message. -/
inductive Sending where
  /-- The message is on the connection. -/
  | goesOut
  /-- The connection does not take it. -/
  | fails
  /-- The writer breaks down over it. -/
  | breaksDown
  deriving DecidableEq, Repr

/-- How a writer stands. -/
inductive Writer.Phase where
  | running
  /-- It has ended behind a close. -/
  | closed
  /-- It has ended because a message could not be sent. -/
  | failed
  /-- It has broken down. -/
  | broken
  /-- It was given up by whoever waited for it. -/
  | aborted
  deriving DecidableEq, Repr

/-- A writer with the messages that it has to send and those that it has sent. -/
structure Writer where
  phase : Writer.Phase
  queue : List ClientMessage
  sent : List ClientMessage
  deriving DecidableEq, Repr

namespace Writer

/-- A writer that has one message to send. -/
def start (m : ClientMessage) : Writer := { phase := .running, queue := [m], sent := [] }

/-- Hand a message over. If the writer has ended then the message is lost. -/
def hand (w : Writer) (m : ClientMessage) : Writer :=
  if w.phase = .running then { w with queue := w.queue ++ [m] } else w

/-- What there is to report of a message that is handed over, if it is lost. -/
def ifLost (w : Writer) (line : Log.Line) : List Log.Line :=
  if w.phase = .running then [] else [line]

/-- End a writer. What is in its queue is lost. -/
def quit (w : Writer) (phase : Phase) : Writer := { w with phase, queue := [] }

/-- Send the first message of the queue, if there is one and the writer has not
    ended. -/
def write (w : Writer) (sending : Sending) : Writer × List Log.Line :=
  match w.phase, w.queue with
  | .running, m :: queue => match sending with
    | .goesOut =>
      let w := { w with queue, sent := w.sent ++ [m] }
      (if m = .close then w.quit .closed else w, [])
    | .fails => (w.quit .failed, [.error "Failed to send feed message"])
    | .breaksDown => (w.quit .broken, [])
  | _, _ => (w, [])

end Writer

end Feed

end StreamRoster
