import StreamRoster.Roster.Basic

/-!
# Following a Feed

A task keeps a roster in step with a feed until it is told to stop or the
feed ends.

The task subscribes, applies the events that arrive in order, and releases
the subscription once, whatever made it leave: a stop before the
subscription was there, a refused subscription, the end of the feed, or a
stop while it was following. Events that wait when the feed ends are still
applied; events that wait when the task is stopped may be lost. Whoever
started the task holds a handle, with which it is stopped; dropping the
handle stops it as well.

What happens is a sequence of moves, some made by the task, some by the feed
and some by the holder of the handle. Any order is possible in which each
move finds the session in a state that allows it.

## Main definitions

* `Roster.Session`: A task with its feed and its handle.
* `Roster.Move`: What can happen next.
* `Roster.Session.step`: What a move leads to, if it is allowed.
* `Roster.Session.run`: What several moves lead to.
* `Roster.Session.settle`: The session after the task has done all it can.
-/

namespace StreamRoster

namespace Roster

/-- What the task is doing. -/
inductive Phase where
  | subscribing
  | following
  | releasing
  | finished
  deriving DecidableEq, Repr

/-- What has become of the handle. -/
inductive Handle where
  | held
  | stopping
  | stopped
  | dropped
  deriving DecidableEq, Repr

/-- A task with its feed and its handle: the roster it keeps, the events that
    wait in the feed, the room they have, whether the feed has ended, whether
    the task was told to stop, how often the subscription was released, and
    what was reported. -/
structure Session where
  roster : Roster
  phase : Phase
  waiting : List Event
  room : Nat
  ended : Bool
  told : Bool
  handle : Handle
  releases : Nat
  logs : List Log.Line
  deriving DecidableEq, Repr

/-- What can happen next. -/
inductive Move where
  | subscribe
  | refuse
  | arrive (event : Event)
  | close
  | take
  | seeEnd
  | seeStop
  | release
  | failRelease
  | stop
  | returnStop
  | drop
  deriving DecidableEq, Repr

namespace Session

/-- A task that is about to subscribe. -/
def start (roster : Roster) (room : Nat) : Session :=
  { roster, phase := .subscribing, waiting := [], room, ended := false, told := false,
    handle := .held, releases := 0, logs := [] }

/-- Report some lines. -/
def report (s : Session) (lines : List Log.Line) : Session := { s with logs := s.logs ++ lines }

/-- Leave for the release of the subscription. What waits in the feed is
    given up. -/
def leave (s : Session) (line : Option Log.Line) : Session :=
  { s with phase := .releasing, waiting := [], releases := s.releases + 1 }.report line.toList

/-- Finish behind the release of the subscription. -/
def finish (s : Session) (lines : List Log.Line) : Session :=
  { s with phase := .finished }.report (lines ++ [Log.Line.info "Stream synchronizer stopped"])

/-- Whether the feed takes another event. -/
def accepts (s : Session) : Bool :=
  (s.phase = .subscribing || s.phase = .following) && !s.ended && s.waiting.length < s.room

/-- What a move leads to, if it is allowed. -/
def step (s : Session) : Move → Option Session
  | .subscribe =>
    if s.phase = .subscribing then
      some ({ s with phase := .following }.report [.info "Stream event subscription started"])
    else none
  | .refuse =>
    if s.phase = .subscribing then
      some (s.leave (some (.error "Failed to subscribe to stream events")))
    else none
  | .arrive event =>
    if s.accepts then some { s with waiting := s.waiting ++ [event] } else none
  | .close => if s.ended then none else some { s with ended := true }
  | .take =>
    if s.phase = .following then
      match s.waiting with
      | [] => none
      | event :: waiting =>
        some ({ s with roster := s.roster.apply event, waiting }.report (s.roster.notices event))
    else none
  | .seeEnd =>
    if s.phase = .following && s.waiting.isEmpty && s.ended then
      some (s.leave (some (.info "Stream event feed ended")))
    else none
  | .seeStop =>
    if !s.told then none
    else match s.phase with
      | .subscribing => some (s.leave (some (.debug "Stopped before the subscription completed")))
      | .following => some (s.leave none)
      | .releasing | .finished => none
  | .release => if s.phase = .releasing then some (s.finish []) else none
  | .failRelease =>
    if s.phase = .releasing then
      some (s.finish [.warn "Failed to release stream event subscription"])
    else none
  | .stop => match s.handle with
    | .held => some { s with handle := .stopping, told := true }
    | .stopping | .stopped => some s
    | .dropped => none
  | .returnStop =>
    if s.handle = .stopping && s.phase = .finished then some { s with handle := .stopped }
    else none
  | .drop => if s.handle = .dropped then none else some { s with handle := .dropped, told := true }

/-- What several moves lead to, if all of them are allowed. -/
def run (s : Session) (moves : List Move) : Option Session := moves.foldlM step s

/-- The published list, which stays readable when the task has finished. -/
def snapshot (s : Session) : List Item := s.roster.snapshot

end Session

/-- How a source answers the task: whether it lets it subscribe, `none` if it
    never answers, and whether it lets it release. -/
structure Manner where
  subscribes : Option Bool
  releases : Bool
  deriving DecidableEq, Repr

namespace Session

/-- What the task does next of its own accord, with a source of some manner. -/
def nextMove (m : Manner) (s : Session) : Option Move :=
  match s.phase with
  | .subscribing => match m.subscribes with
    | some true => some .subscribe
    | some false => some .refuse
    | none => if s.told then some .seeStop else none
  | .following =>
    if !s.waiting.isEmpty then some .take
    else if s.ended then some .seeEnd
    else if s.told then some .seeStop
    else none
  | .releasing => some (if m.releases then .release else .failRelease)
  | .finished => if s.handle = .stopping then some .returnStop else none

/-- Make the moves of the task, as many as there is fuel for. -/
def settleIn (m : Manner) : Nat → Session → Session
  | 0, s => s
  | fuel + 1, s => match nextMove m s >>= s.step with
    | some s' => settleIn m fuel s'
    | none => s

/-- The session after the task has done all it can: it subscribes, takes each
    event that waits, leaves, releases, and lets a stop return. -/
def settle (m : Manner) (s : Session) : Session := settleIn m (s.waiting.length + 4) s

/-- Offer events one by one until one is not accepted, and count the accepted
    ones. -/
def offer (s : Session) : List Event → Session × Nat
  | [] => (s, 0)
  | event :: events => match s.step (.arrive event) with
    | none => (s, 0)
    | some s' =>
      let (s'', count) := offer s' events
      (s'', count + 1)

end Session

end Roster

end StreamRoster
