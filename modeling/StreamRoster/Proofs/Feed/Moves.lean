import Mathlib.Data.List.Induction
import StreamRoster.Proofs.Feed.Writers

/-!
# What a Move Does to a Feed

A subscription can end in seven ways, and what a frame does depends on what
it says. None of that matters for the slot. `Subscribes` writes the ways of a
subscription down as rules, and `subscribes` is the one place where it is
taken apart.

What the rest of the theory asks of a move is only what it does to the
connections. `Turns` has six answers. A move leaves them alone, it goes on
reading on the one in the slot, it opens a new one, or it takes the one that is
there out of the slot. Beside that it may let a writer send, in the slot or
behind it, or go on with a release. Reading may change what is recorded on a
connection, but neither its number nor its writer.

## Main definitions

* `Connection.heard`: A connection that is read, after a frame.
* `Subscribes`: The rules by which a subscription ends.
* `opens`: Whether a move is a subscription that succeeds.
* `Turns`: The rules by which a move changes the connections.

## Theorems

* `subscribes`: A subscription follows one of the rules.
* `receive_of_not_reading`: Where nothing is read, nothing can arrive.
* `active_receive_text`: What a text does to the connection it arrives on.
* `active_tend`, `notices_tend`: A duty changes the slot in its writer at most.
* `turns_of_step`: A step follows one of the rules.
* `run_append`: A run in two parts.
-/

namespace StreamRoster

namespace Feed

/-- A connection that is read, after a frame with an effect. -/
def Connection.heard (c : Connection) (effect : Frame.Effect) : Connection :=
  { c with
    call := effect.call
    delivered := c.delivered ++ effect.delivered.toList
    reading := effect.outcome = .proceed }

namespace Session

/-- The rules by which a subscription ends: what it leads to and its answer. -/
inductive Subscribes (s : Session) : Attempt → Session → Option (Except Fault Unit) → Prop where
  | withdraw : Subscribes s .withdrawn s none
  | refuse (attempt : Attempt) (hattempt : attempt ≠ .withdrawn) (hactive : s.active.isSome) :
      Subscribes s attempt s (some (.error .alreadySubscribed))
  | misrequest (attempt : Attempt) (hattempt : attempt ≠ .withdrawn) (hactive : s.active = none)
      (fault : Source.RequestFault) (hrequest : s.source.request = .error fault) :
      Subscribes s attempt (s.notify .connecting) (some (.error (.request fault)))
  | connect (hactive : s.active = none) (request : Source.Request)
      (hrequest : s.source.request = .ok request) (hroom : s.source.room ≤ Source.greatestRoom) :
      Subscribes s .connects (s.notify .connecting).connect (some (.ok ()))
  | breakOff (hactive : s.active = none) (request : Source.Request)
      (hrequest : s.source.request = .ok request) (hroom : ¬s.source.room ≤ Source.greatestRoom) :
      Subscribes s .connects ((s.notify .connecting).notify .connected) none
  | fail (hactive : s.active = none) (request : Source.Request)
      (hrequest : s.source.request = .ok request) (fault : ConnectFault) :
      Subscribes s (.fails fault) ((s.notify .connecting).notify (.failed (.connect fault)))
        (some (.error (.connect fault)))
  | abandon (hactive : s.active = none) : Subscribes s .abandoned (s.notify .connecting) none

theorem subscribes (s : Session) (attempt : Attempt) :
    Subscribes s attempt (s.subscribe attempt).1 (s.subscribe attempt).2 := by
  rw [subscribe]
  -- The cases follow the checks in the order in which they are made.
  by_cases hattempt : attempt = .withdrawn
  · rw [if_pos hattempt, hattempt]
    exact Subscribes.withdraw
  rw [if_neg hattempt]
  by_cases hactive : s.active.isSome
  · rw [if_pos hactive]
    exact Subscribes.refuse attempt hattempt hactive
  rw [if_neg hactive]
  have hempty : s.active = none := Option.not_isSome_iff_eq_none.mp hactive
  have hsource : (s.notify .connecting).source = s.source := rfl
  cases hrequest : s.source.request with
  | error fault =>
      simp only [hsource, hrequest]
      exact Subscribes.misrequest attempt hattempt hempty fault hrequest
  | ok request =>
      simp only [hsource, hrequest]
      cases attempt with
      | connects =>
          by_cases hroom : s.source.room ≤ Source.greatestRoom
          · simp only [if_pos hroom]
            exact Subscribes.connect hempty request hrequest hroom
          · simp only [if_neg hroom]
            exact Subscribes.breakOff hempty request hrequest hroom
      | fails fault => exact Subscribes.fail hempty request hrequest fault
      | abandoned => exact Subscribes.abandon hempty
      | withdrawn => exact absurd rfl hattempt

/-- Whether a move is a subscription that succeeds. -/
def opens (s : Session) : Move → Bool
  | .subscribe attempt => (s.subscribe attempt).2 = some (.ok ())
  | _ => false

/-- The rules by which a move changes the connections of a source, whatever is
    heard and reported on the way. -/
inductive Turns (s : Session) : Move → Session → Prop where
  | keep (m : Move) (notices : List Notice) (logs : List Log.Line) (hopens : s.opens m = false) :
      Turns s m { s with notices, logs }
  | read (m : Move) (c d : Connection) (notices : List Notice) (logs : List Log.Line)
      (hactive : s.active = some c) (hid : d.id = c.id) (hwriter : d.writer = c.writer)
      (hidle : c.reading = false →
        d.reading = false ∧ d.delivered = c.delivered ∧ d.call = c.call)
      (hopens : s.opens m = false) : Turns s m { s with active := some d, notices, logs }
  | connect (m : Move) (notices : List Notice) (logs : List Log.Line) (hactive : s.active = none)
      (hopens : s.opens m = true) :
      Turns s m { s with
        active := some (.opened s.nextId s.source.inst), nextId := s.nextId + 1, notices, logs }
  | release (c : Connection) (logs : List Log.Line) (hactive : s.active = some c) :
      Turns s .unsubscribe { s with
        active := none, released := s.released ++ [c.leave.1], logs }
  | write (sending : Sending) (c : Connection) (writer : Writer) (logs : List Log.Line)
      (hactive : s.active = some c) (hwrites : c.writer.Writes sending writer) :
      Turns s (.tend s.released.length (.write sending)) { s with
        active := some { c with writer }, logs }
  | tend (place : Nat) (duty : Duty) (r r' : Release) (logs : List Log.Line)
      (hplace : s.released[place]? = some r) (htends : r.Tends duty r') :
      Turns s (.tend place duty) { s with released := s.released.set place r', logs }

theorem turns_of_subscribe (s : Session) (attempt : Attempt) :
    Turns s (.subscribe attempt) (s.subscribe attempt).1 := by
  have hrule := subscribes s attempt
  have hopens : s.opens (.subscribe attempt) = decide ((s.subscribe attempt).2 = some (.ok ())) :=
    rfl
  generalize s.subscribe attempt = result at hrule hopens
  rcases result with ⟨t, answer⟩
  cases hrule with
  | connect hactive request hrequest hroom => exact Turns.connect _ _ _ hactive hopens
  | withdraw | refuse | misrequest | breakOff | fail | abandon => exact Turns.keep _ _ _ hopens

/-- Without a connection that is read, nothing can arrive. -/
theorem receive_of_not_reading (s : Session) (incoming : Incoming)
    (h : ∀ c, s.active = some c → c.reading = false) : s.receive incoming = s := by
  cases hactive : s.active with
  | none => simp only [receive, hactive]
  | some c => simp only [receive, hactive, h c hactive, Bool.not_false, if_true]

/-- A text that arrives on a connection that is read has its effect there, and
    the connection is read on as long as the outcome is to proceed. -/
theorem active_receive_text (s : Session) (c : Connection) (hactive : s.active = some c)
    (hreading : c.reading = true) (text : String) :
    (s.receive (.text text)).active =
      some (c.heard (Frame.handle c.id c.listening c.call text)) := by
  simp only [receive, hactive, hreading, Bool.not_true, Bool.false_eq_true, if_false]
  cases houtcome : (Frame.handle c.id c.listening c.call text).outcome with
  | proceed | rejected | consumerGone =>
      simp only [Connection.heard, houtcome]
      rfl

theorem turns_of_receive (s : Session) (incoming : Incoming) :
    Turns s (.receive incoming) (s.receive incoming) := by
  by_cases hidle : ∀ c, s.active = some c → c.reading = false
  · rw [receive_of_not_reading s incoming hidle]
    exact Turns.keep _ _ _ rfl
  · push Not at hidle
    rcases hidle with ⟨c, hactive, hreading⟩
    have hbusy (d : Connection) (h : c.reading = false) :
        d.reading = false ∧ d.delivered = c.delivered ∧ d.call = c.call :=
      absurd (Eq.symm h |>.trans (eq_true_of_ne_false hreading)) Bool.false_ne_true
    simp only [receive, hactive, hreading, Bool.not_true, Bool.false_eq_true, if_false]
    cases incoming with
    | other => exact Turns.keep _ _ _ rfl
    | close | readError | endOfStream => exact Turns.read _ c _ _ _ hactive rfl rfl (hbusy _) rfl
    | text frame =>
        cases houtcome : (Frame.handle c.id c.listening c.call frame).outcome with
        | proceed | rejected | consumerGone =>
            simp only [houtcome]
            exact Turns.read _ c _ _ _ hactive rfl rfl (hbusy _) rfl

/-- What arrives does not reach a connection that is released. -/
theorem released_receive (s : Session) (incoming : Incoming) :
    (s.receive incoming).released = s.released := by
  have hturns := turns_of_receive s incoming
  generalize s.receive incoming = t at hturns
  cases hturns with
  | keep | read => rfl
  | connect _ notices logs hactive hopens => exact absurd hopens Bool.false_ne_true

theorem turns_of_tend (s : Session) (place : Nat) (duty : Duty) :
    Turns s (.tend place duty) (s.tend place duty) := by
  rw [tend]
  cases hplace : s.released[place]? with
  | some r => exact Turns.tend place duty r _ _ hplace (r.tends_of_tend duty)
  | none =>
      cases hactive : s.active with
      | none => exact Turns.keep _ _ _ rfl
      | some c =>
          by_cases hslot : place = s.released.length
          · simp only [if_pos hslot]
            rw [hslot]
            -- In the slot there is only the writer to tend.
            cases duty with
            | write sending =>
                exact Turns.write sending c _ _ hactive (Writer.writes_of_write _ sending)
            | proceed | expire =>
                have hkeep : { s with active := some c } = s := by rw [← hactive]
                simp only [Connection.tend, hkeep]
                exact Turns.keep _ _ _ rfl
          · simp only [if_neg hslot]
            exact Turns.keep _ _ _ rfl

theorem inactive_tend (s : Session) (hactive : s.active = none) (place : Nat) (duty : Duty) :
    (s.tend place duty).active = none := by
  rw [tend]
  cases s.released[place]? with
  | some r => exact hactive
  | none => simp only [hactive]

/-- A duty changes the writer of the connection in the slot at most. -/
theorem active_tend (s : Session) (c : Connection) (hactive : s.active = some c) (place : Nat)
    (duty : Duty) : ∃ writer, (s.tend place duty).active = some { c with writer } := by
  have hkeep : s.active = some { c with writer := c.writer } := hactive
  rw [tend]
  cases s.released[place]? with
  | some r => exact ⟨c.writer, hkeep⟩
  | none =>
      simp only [hactive]
      split_ifs
      · cases duty with
        | write sending => exact ⟨(c.writer.write sending).1, rfl⟩
        | proceed | expire => exact ⟨c.writer, rfl⟩
      · exact ⟨c.writer, hkeep⟩

/-- Nothing is heard of a duty. -/
theorem notices_tend (s : Session) (place : Nat) (duty : Duty) :
    (s.tend place duty).notices = s.notices := by
  rw [tend]
  cases s.released[place]? with
  | some r => rfl
  | none =>
      cases s.active with
      | none => rfl
      | some c =>
          simp only []
          split_ifs <;> rfl

theorem turns_of_step (s t : Session) (m : Move) (h : s.step m = t) : Turns s m t := by
  rw [← h]
  cases m with
  | subscribe attempt => exact turns_of_subscribe s attempt
  | receive incoming => exact turns_of_receive s incoming
  | dropReceiver =>
      rw [step, dropReceiver]
      cases hactive : s.active with
      | none =>
          rw [Option.map_none, ← hactive]
          exact Turns.keep _ _ _ rfl
      | some c =>
          exact Turns.read _ c _ _ _ hactive rfl rfl (fun hidle => ⟨hidle, rfl, rfl⟩) rfl
  | unsubscribe =>
      simp only [step, unsubscribe]
      cases hactive : s.active with
      | none => exact Turns.keep _ _ _ rfl
      | some c => exact Turns.release c _ hactive
  | tend place duty => exact turns_of_tend s place duty

/-- No move changes where the feed comes from. -/
theorem source_of_step (s t : Session) (m : Move) (h : s.step m = t) : t.source = s.source := by
  cases turns_of_step s t m h with
  | keep | read | connect | release | write | tend => rfl

theorem run_append (s : Session) (moves later : List Move) :
    s.run (moves ++ later) = (s.run moves).run later :=
  List.foldl_append

theorem run_concat (s : Session) (moves : List Move) (m : Move) :
    s.run (moves ++ [m]) = (s.run moves).step m :=
  run_append s moves [m]

end Session

end Feed

end StreamRoster
