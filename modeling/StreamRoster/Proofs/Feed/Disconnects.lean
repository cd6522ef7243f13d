import StreamRoster.Proofs.Feed.Calls
import StreamRoster.Proofs.Feed.Frames

/-!
# Connections That Are Lost

Which connections are reported as lost, and what still comes out of one whose
reader has ended.

A reader ends for one of three reasons. The server gives up the connection or
refuses the call, or there is an event and nobody takes it, or the connection is
released. `Stops` gives the reasons as rules about a single move and what was
done before it, without a look at the session, and `Fate` picks the first move
of a row that stops the reader. The claim is then that the watcher hears of a
loss exactly if that first reason is one of the server's.

The run lemma is an induction along the moves with two cases. As long as the
connection is read, one more move either leaves it so or stops it, and only the
move that stops it can be heard of. Once nothing is read, nothing will be until
another connection is opened, and so nothing is heard of a loss and nothing is
delivered. It does not matter for that whether the slot is empty.

## Main definitions

* `Ending`: Why a reader has ended.
* `Stops`: The moves that end a reader.
* `Fate`: What a row of moves makes of a reader.
* `Idle`: A session in which nothing is read.
* `LossReported`: How a connection ends for its watcher and its consumer.

## Theorems

* `fate_unique`: A row of moves makes one thing of a reader.
* `step_reading`: What a move does to a connection that is read.
* `step_idle`, `run_idle`: Where nothing is read, no loss is heard of.
* `fate_run`: What a run makes of the reader, and what is heard of it.
* `losses_of_run`: The losses that are heard of over any run.
-/

namespace StreamRoster

namespace Feed

/-- Why the reader of a connection has ended. -/
inductive Ending where
  /-- The server gave up the connection, or refused the call. -/
  | lost
  /-- There was an event, and nobody to take it. -/
  | unwanted
  /-- The connection was released. -/
  | released
  deriving DecidableEq, Repr

namespace Session

/-! ### What ends a reader -/

/-- The moves that end the reader of a connection, by the number of its call and
    the moves that were made on the connection before. -/
inductive Stops (id : UInt32) (before : List Move) : Move → Ending → Prop where
  | close : Stops id before (.receive .close) .lost
  | readError : Stops id before (.receive .readError) .lost
  | endOfStream : Stops id before (.receive .endOfStream) .lost
  | refusal (text : String) (hrefuses : Frame.Refuses id text) :
      Stops id before (.receive (.text text)) .lost
  | event (text : String) (e : Event) (hevent : Frame.event? text = some e)
      (hdropped : .dropReceiver ∈ before) : Stops id before (.receive (.text text)) .unwanted
  | release : Stops id before .unsubscribe .released

/-- None of a row of moves ends the reader. -/
def Unstopped (id : UInt32) (moves : List Move) : Prop :=
  ∀ before m after ending, moves = before ++ m :: after → ¬Stops id before m ending

/-- What a row of moves makes of the reader of a connection: it goes on, or it
    ends by the first of them that ends it. -/
inductive Fate (id : UInt32) : List Move → Option Ending → Prop where
  | goesOn (moves : List Move) (hopen : Unstopped id moves) : Fate id moves none
  | ends (before : List Move) (m : Move) (after : List Move) (ending : Ending)
      (hopen : Unstopped id before) (hstops : Stops id before m ending) :
      Fate id (before ++ m :: after) (some ending)

theorem stops_unique (id : UInt32) (before : List Move) (m : Move) (ending other : Ending)
    (h : Stops id before m ending) (hother : Stops id before m other) : ending = other := by
  cases h with
  | close | readError | endOfStream | release => cases hother; rfl
  | refusal text hrefuses =>
      cases hother with
      | refusal => rfl
      | event _ e hevent =>
          exact absurd ((Frame.event?_of_refuses id text hrefuses).symm.trans hevent) nofun
  | event text e hevent =>
      cases hother with
      | event => rfl
      | refusal _ hrefuses =>
          exact absurd ((Frame.event?_of_refuses id text hrefuses).symm.trans hevent) nofun

theorem unstopped_nil (id : UInt32) : Unstopped id [] := by
  intro before m after ending hmoves
  exact absurd hmoves.symm (List.append_ne_nil_of_right_ne_nil before (List.cons_ne_nil m after))

theorem unstopped_concat (id : UInt32) (moves : List Move) (m : Move) (h : Unstopped id moves)
    (hm : ∀ ending, ¬Stops id moves m ending) : Unstopped id (moves ++ [m]) := by
  intro before n after ending hsplit
  rcases List.eq_nil_or_concat after with rfl | ⟨after, last, rfl⟩
  · rcases List.append_inj' hsplit rfl with ⟨rfl, hlast⟩
    rcases List.cons.inj hlast with ⟨rfl, _⟩
    exact hm ending
  · rw [List.concat_eq_append, ← List.cons_append, ← List.append_assoc] at hsplit
    exact h before n after ending (List.append_inj' hsplit rfl).1

/-- Of two ways to split a row at a move that ends the reader, neither can come
    before the other. -/
theorem fate_unique (id : UInt32) (moves : List Move) (ending other : Option Ending)
    (h : Fate id moves ending) (hother : Fate id moves other) : ending = other := by
  cases h with
  | goesOn _ hopen =>
      cases hother with
      | goesOn => rfl
      | ends before m after other hbefore hstops =>
          exact absurd hstops (hopen before m after other rfl)
  | ends before m after ending hopen hstops =>
      generalize hmoves : before ++ m :: after = moves at hother
      cases hother with
      | goesOn _ hnone => exact absurd hstops (hnone before m after ending hmoves.symm)
      | ends front n back other hfront hstopped =>
          rcases List.append_eq_append_iff.mp hmoves with
            ⟨between, rfl, hrest⟩ | ⟨between, rfl, hrest⟩
          · -- The move of the first split is the other one, or it came before it.
            cases between with
            | nil =>
                rcases List.cons.inj hrest with ⟨rfl, _⟩
                rw [List.append_nil] at hstopped
                rw [stops_unique id before m ending other hstops hstopped]
            | cons first between =>
                rcases List.cons.inj hrest with ⟨rfl, _⟩
                exact absurd hstops (hfront before m between ending rfl)
          · cases between with
            | nil =>
                rcases List.cons.inj hrest with ⟨rfl, _⟩
                rw [List.append_nil] at hstops
                rw [stops_unique id front n ending other hstops hstopped]
            | cons first between =>
                rcases List.cons.inj hrest with ⟨rfl, _⟩
                exact absurd hstopped (hopen front n between other rfl)

theorem fate_concat_of_ended (id : UInt32) (moves : List Move) (m : Move) (ending : Ending)
    (h : Fate id moves (some ending)) : Fate id (moves ++ [m]) (some ending) := by
  cases h with
  | ends before n after _ hopen hstops =>
      rw [List.append_assoc, List.cons_append]
      exact Fate.ends before n (after ++ [m]) ending hopen hstops

theorem unstopped_of_fate (id : UInt32) (moves : List Move) (h : Fate id moves none) :
    Unstopped id moves := by
  cases h with
  | goesOn _ hopen => exact hopen

/-! ### Step by step -/

/-- A session in which nothing is read. -/
def Idle (s : Session) : Prop := ∀ c, s.active = some c → c.reading = false

/-- What is heard of a text on a connection that is read. -/
theorem notices_receive_text (s : Session) (c : Connection) (hactive : s.active = some c)
    (hreading : c.reading = true) (text : String) :
    (s.receive (.text text)).notices = s.notices ++
      if (Frame.handle c.id c.listening c.call text).outcome = .rejected then [.disconnected]
      else [] := by
  simp only [receive, hactive, hreading, Bool.not_true, Bool.false_eq_true, if_false]
  cases houtcome : (Frame.handle c.id c.listening c.call text).outcome with
  | rejected => rfl
  | proceed | consumerGone => exact (List.append_nil _).symm

/-- What an outcome says about the text, for a connection on which some moves
    were made: whether it ends the reader, and why. -/
theorem outcome_stops (id : UInt32) (listening : Bool) (call : Option UInt32) (text : String)
    (moves : List Move) (hlistening : listening = true ↔ .dropReceiver ∉ moves) :
    match (Frame.handle id listening call text).outcome with
    | .proceed => ∀ ending, ¬Stops id moves (.receive (.text text)) ending
    | .rejected => Stops id moves (.receive (.text text)) .lost
    | .consumerGone => Stops id moves (.receive (.text text)) .unwanted := by
  by_cases hrefuses : Frame.Refuses id text
  · rw [Frame.outcome_of_refuses id listening call text hrefuses]
    exact Stops.refusal text hrefuses
  · cases listening with
    | true =>
        rw [Frame.outcome_of_not_refuses id call text hrefuses]
        intro ending hstops
        cases hstops with
        | refusal _ hother => exact hrefuses hother
        | event _ e _ hdropped => exact hlistening.mp rfl hdropped
    | false =>
        -- Nobody takes an event any more, so every event ends the reader.
        have hdropped : .dropReceiver ∈ moves :=
          not_not.mp fun h => Bool.false_ne_true (hlistening.mpr h)
        have hevent := Frame.event?_meaning id text
        have hrefusal := (Frame.meaning_eq_refusal_iff id text).not.mpr hrefuses
        rw [Frame.handle]
        generalize Frame.meaning id text = meaning at hevent hrefusal
        cases meaning with
        | event e => exact Stops.event text e hevent.symm hdropped
        | refusal => exact absurd rfl hrefusal
        | unreadable | foreignReply | confirmation | emptyReply | missingEvent | strangeEvent
        | unrelated =>
            -- The text is neither a refusal nor an event.
            intro ending hstops
            cases hstops with
            | refusal _ hother => exact hrefuses hother
            | event _ e hfound => cases hevent.trans hfound

/-- What is left behind a move on a connection that is read: it is still read and
    nothing was heard, or the move has ended the reader, and if it was the
    server's doing then the loss is heard of. -/
inductive Reads (id : UInt32) (moves : List Move) (s : Session) (m : Move) (t : Session) :
    Prop where
  | goesOn (d : Connection) (hactive : t.active = some d) (hid : d.id = id)
      (hreading : d.reading = true)
      (hlistening : d.listening = true ↔ .dropReceiver ∉ moves ++ [m])
      (hnotices : t.notices = s.notices) (hopen : ∀ ending, ¬Stops id moves m ending)
  | ends (ending : Ending) (hidle : Idle t)
      (hnotices : t.notices = s.notices ++ if ending = .lost then [.disconnected] else [])
      (hstops : Stops id moves m ending)

theorem idle_of_inactive (s : Session) (h : s.active = none) : Idle s := by
  intro c hc
  exact absurd (hc.symm.trans h) (Option.some_ne_none c)

theorem idle_of_active (s : Session) (c : Connection) (hactive : s.active = some c)
    (hreading : c.reading = false) : Idle s := by
  intro d hd
  rcases Option.some.inj (hactive.symm.trans hd) with rfl
  exact hreading

/-- A move other than dropping the receiver leaves the listening as it is. -/
theorem listening_concat (listening : Bool) (moves : List Move) (m : Move)
    (h : listening = true ↔ .dropReceiver ∉ moves) (hm : m ≠ .dropReceiver) :
    listening = true ↔ .dropReceiver ∉ moves ++ [m] := by
  rw [h, List.mem_append, List.mem_singleton, not_or, and_iff_left (Ne.symm hm)]

theorem step_reading (s : Session) (c : Connection) (hactive : s.active = some c)
    (hreading : c.reading = true) (moves : List Move)
    (hlistening : c.listening = true ↔ .dropReceiver ∉ moves) (m : Move) :
    Reads c.id moves s m (s.step m) := by
  cases m with
  | subscribe attempt =>
      rw [step_subscribe_of_active s attempt (by rw [hactive]; rfl)]
      have hkept := listening_concat _ moves (.subscribe attempt) hlistening (by rintro ⟨⟩)
      refine Reads.goesOn c hactive rfl hreading hkept rfl ?_
      rintro ending ⟨⟩
  | dropReceiver =>
      rw [step, dropReceiver, hactive]
      refine Reads.goesOn _ rfl rfl hreading (iff_of_false Bool.false_ne_true ?_) rfl ?_
      · exact not_not.mpr (List.mem_append_right moves List.mem_cons_self)
      · rintro ending ⟨⟩
  | tend place duty =>
      rcases active_tend s c hactive place duty with ⟨writer, hwriter⟩
      have hkept := listening_concat _ moves (.tend place duty) hlistening (by rintro ⟨⟩)
      refine Reads.goesOn _ hwriter rfl hreading hkept (notices_tend s place duty) ?_
      rintro ending ⟨⟩
  | unsubscribe =>
      simp only [step, unsubscribe, hactive]
      exact Reads.ends .released (idle_of_inactive _ rfl) (List.append_nil _).symm Stops.release
  | receive incoming =>
      cases incoming with
      | other =>
          have hkeep : s.step (.receive .other) = s := by
            simp only [step, receive, hactive, hreading, Bool.not_true, Bool.false_eq_true,
              if_false]
          rw [hkeep]
          have hkept := listening_concat _ moves (.receive .other) hlistening (by rintro ⟨⟩)
          refine Reads.goesOn c hactive rfl hreading hkept rfl ?_
          rintro ending ⟨⟩
      | close | endOfStream =>
          simp only [step, receive, hactive, hreading, Bool.not_true, Bool.false_eq_true, if_false]
          exact Reads.ends .lost (idle_of_active _ _ rfl rfl) rfl (by constructor)
      | readError =>
          simp only [step, receive, hactive, hreading, Bool.not_true, Bool.false_eq_true, if_false]
          exact Reads.ends .lost (idle_of_active _ _ rfl rfl) rfl Stops.readError
      | text text =>
          have hread := active_receive_text s c hactive hreading text
          have hheard := notices_receive_text s c hactive hreading text
          have hstops := outcome_stops c.id c.listening c.call text moves hlistening
          rw [step]
          rw [Connection.heard] at hread
          -- From here on only the outcome of the text counts.
          generalize (Frame.handle c.id c.listening c.call text) = effect at hread hheard hstops
          cases houtcome : effect.outcome with
          | proceed =>
              rw [houtcome] at hread hheard hstops
              have hkept := listening_concat _ moves (.receive (.text text)) hlistening
                (by rintro ⟨⟩)
              exact Reads.goesOn _ hread rfl rfl hkept (hheard.trans (List.append_nil _)) hstops
          | rejected =>
              rw [houtcome] at hread hheard hstops
              exact Reads.ends .lost (idle_of_active _ _ hread rfl) hheard hstops
          | consumerGone =>
              rw [houtcome] at hread hheard hstops
              exact Reads.ends .unwanted (idle_of_active _ _ hread rfl) hheard hstops

/-- Where nothing is read, a move that opens no connection leaves it so, and no
    loss is heard of. -/
theorem step_idle (s : Session) (m : Move) (h : Idle s) (hopens : s.opens m = false) :
    Idle (s.step m) ∧
      ∃ more, (s.step m).notices = s.notices ++ more ∧ .disconnected ∉ more := by
  cases m with
  | receive incoming =>
      rw [step, receive_of_not_reading s incoming h]
      exact ⟨h, [], (List.append_nil _).symm, List.not_mem_nil⟩
  | dropReceiver =>
      refine ⟨fun d hd => ?_, [], (List.append_nil _).symm, List.not_mem_nil⟩
      rcases Option.map_eq_some_iff.mp hd with ⟨c, hc, rfl⟩
      exact h c hc
  | tend place duty =>
      refine ⟨?_, [], (notices_tend s place duty).trans (List.append_nil _).symm,
        List.not_mem_nil⟩
      cases hactive : s.active with
      | none => exact idle_of_inactive _ (inactive_tend s hactive place duty)
      | some c =>
          rcases active_tend s c hactive place duty with ⟨writer, hwriter⟩
          exact idle_of_active _ _ hwriter (h c hactive)
  | unsubscribe =>
      simp only [step, unsubscribe]
      cases hactive : s.active with
      | none =>
          exact ⟨fun d hd => h d hd, [], (List.append_nil _).symm, List.not_mem_nil⟩
      | some c => exact ⟨idle_of_inactive _ rfl, [], (List.append_nil _).symm, List.not_mem_nil⟩
  | subscribe attempt =>
      -- What is heard of a subscribe that opens nothing is never a loss.
      have hrule := subscribes s attempt
      rw [opens] at hopens
      rw [step]
      generalize s.subscribe attempt = result at hrule hopens
      rcases result with ⟨t, answer⟩
      cases hrule with
      | withdraw | refuse => exact ⟨h, [], (List.append_nil _).symm, List.not_mem_nil⟩
      | connect => cases hopens
      | misrequest | abandon => exact ⟨h, [.connecting], rfl, by decide⟩
      | breakOff => exact ⟨h, [.connecting, .connected], List.append_assoc _ _ _, by decide⟩
      | fail _ _ _ fault =>
          exact ⟨h, [.connecting, .failed (.connect fault)], List.append_assoc _ _ _, by simp⟩

theorem run_idle (s : Session) (moves : List Move) (h : Idle s) (hone : s.opened moves = 0) :
    ∃ more, (s.run moves).notices = s.notices ++ more ∧ .disconnected ∉ more := by
  induction moves generalizing s with
  | nil => exact ⟨[], (List.append_nil _).symm, List.not_mem_nil⟩
  | cons m moves ih =>
      rw [opened, Nat.add_eq_zero_iff, Bool.toNat_eq_zero] at hone
      rcases step_idle s m h hone.1 with ⟨hidle, more, hmore, hnone⟩
      rcases ih (s.step m) hidle hone.2 with ⟨rest, hrest, hlater⟩
      refine ⟨more ++ rest, ?_, fun hmem => (List.mem_append.mp hmem).elim hnone hlater⟩
      rw [← List.append_assoc, ← hmore]
      exact hrest

/-- Behind a release, no loss is heard of. -/
theorem silence_of_release (s : Session) (before after : List Move)
    (hone : s.opened (before ++ .unsubscribe :: after) = 0) :
    ∃ more, (s.run (before ++ .unsubscribe :: after)).notices = (s.run before).notices ++ more ∧
      .disconnected ∉ more := by
  rw [opened_append, Nat.add_eq_zero_iff, opened, Nat.add_eq_zero_iff] at hone
  have hempty : Idle ((s.run before).step .unsubscribe) ∧
      ((s.run before).step .unsubscribe).notices = (s.run before).notices := by
    simp only [step, unsubscribe]
    cases hactive : (s.run before).active with
    | none => exact ⟨idle_of_inactive _ hactive, rfl⟩
    | some c => exact ⟨idle_of_inactive _ rfl, rfl⟩
  rcases run_idle _ after hempty.1 hone.2.2 with ⟨more, hmore, hnone⟩
  rw [hempty.2] at hmore
  rw [run_append]
  exact ⟨more, hmore, hnone⟩

/-! ### What is delivered -/

/-- No connection is read behind the slot. -/
theorem unread_released (s : Session) (moves : List Move)
    (h : ∀ c ∈ s.released.map Release.connection, c.reading = false) :
    ∀ c ∈ (s.run moves).released.map Release.connection, c.reading = false := by
  induction moves generalizing s with
  | nil => exact h
  | cons m moves ih =>
      refine ih (s.step m) ?_
      generalize hstep : s.step m = t
      cases turns_of_step s t m hstep with
      | keep | read | connect | write => exact h
      | release c =>
          intro d hd
          rw [List.map_append] at hd
          rcases List.mem_append.mp hd with hmem | hlast
          · exact h d hmem
          · rcases List.mem_singleton.mp hlast with rfl
            rw [Connection.leave_eq]
      | tend place duty r r' logs hplace htends =>
          -- Tending a release does not begin to read on it again.
          intro d hd
          rw [List.map_set] at hd
          rcases List.mem_or_eq_of_mem_set hd with hmem | rfl
          · exact h d hmem
          · have hr := List.mem_map_of_mem (f := Release.connection) (List.mem_of_getElem? hplace)
            exact ((r.grows_tends r' duty htends).idle (h r.connection hr)).1

/-! ### Along a run -/

/-- What a run without another opening makes of a connection that is read, by
    induction along its moves: its fate, whether it is still read, and what was
    heard of it. -/
theorem fate_run (s : Session) (c : Connection) (hactive : s.active = some c)
    (hreading : c.reading = true) (hlistening : c.listening = true) (moves : List Move)
    (hone : s.opened moves = 0) :
    ∃ ending more, Fate c.id moves ending ∧
      (s.run moves).notices = s.notices ++ more ∧
      more.count .disconnected = (if ending = some .lost then 1 else 0) ∧
      (ending.isSome → Idle (s.run moves)) ∧
      (ending = none → ∃ d, (s.run moves).active = some d ∧ d.id = c.id ∧ d.reading = true ∧
        (d.listening = true ↔ .dropReceiver ∉ moves)) := by
  induction moves using List.reverseRecOn with
  | nil =>
      exact ⟨none, [], Fate.goesOn [] (unstopped_nil c.id), (List.append_nil _).symm, rfl, nofun,
        fun _ => ⟨c, hactive, rfl, hreading, iff_of_true hlistening List.not_mem_nil⟩⟩
  | append_singleton moves m ih =>
      rw [opened_concat, Nat.add_eq_zero_iff, Bool.toNat_eq_zero] at hone
      rcases ih hone.1 with ⟨ending, more, hfate, hnotices, hcount, hidle, hgoes⟩
      rw [run_concat]
      cases ending with
      | some ending =>
          -- The reader has ended before, and the move adds nothing to that.
          rcases step_idle _ m (hidle rfl) hone.2 with ⟨hstill, rest, hrest, hnone⟩
          refine ⟨some ending, more ++ rest, fate_concat_of_ended c.id moves m ending hfate, ?_, ?_,
            fun _ => hstill, nofun⟩
          · rw [hrest, hnotices, List.append_assoc]
          · rw [List.count_append, hcount, List.count_eq_zero_of_not_mem hnone]
            rfl
      | none =>
          rcases hgoes rfl with ⟨d, hd, hid, hread, hlisten⟩
          have hzero : more.count .disconnected = 0 := hcount
          rw [← hid] at hfate ⊢
          have hopen := unstopped_of_fate d.id moves hfate
          -- Nothing has ended the reader so far, so this move is the first that can.
          cases step_reading _ d hd hread moves hlisten m with
          | goesOn e he heid hereading helistening henotices hestops =>
              exact ⟨none, more, Fate.goesOn _ (unstopped_concat d.id moves m hopen hestops),
                henotices.trans hnotices, hzero, nofun,
                fun _ => ⟨e, he, heid, hereading, helistening⟩⟩
          | ends ending hstill hlast hstops =>
              refine ⟨some ending, more ++ if ending = .lost then [.disconnected] else [],
                Fate.ends moves m [] ending hopen hstops, ?_, ?_, fun _ => hstill, nofun⟩
              · rw [hlast, hnotices, List.append_assoc]
              · rw [List.count_append, hzero, Nat.zero_add]
                cases ending <;> rfl

/-- How a connection ends for the one who watches the source and for the one who
    takes its events. It is the connection at a place in the row of all, its call
    has a number, and some moves have led from the session before it was opened
    to the one now. -/
structure LossReported (id : UInt32) (place : Nat) (moves : List Move) (s t : Session) : Prop where
  /-- The reader goes on, or it has ended for one reason. -/
  fate : ∃ ending, Fate id moves ending ∧ ∀ other, Fate id moves other → other = ending
  /-- The opening is heard of before anything else, and then a loss at most once:
      exactly if the reader has ended by one. -/
  heard : ∃ more, t.notices = s.notices ++ .connecting :: .connected :: more ∧
    more.count .disconnected ≤ 1 ∧ (.disconnected ∈ more ↔ Fate id moves (some .lost))
  /-- Nothing is heard of a loss once the connection is being released. -/
  silence : ∀ before after, moves = before ++ .unsubscribe :: after →
    ∃ more, t.notices =
        ((s.step (.subscribe .connects)).run before).notices ++ more ∧ .disconnected ∉ more
  /-- The connection is read, and its channel has somebody to put events on it,
      exactly as long as the reader goes on. -/
  reading : ∃ c, t.connections[place]? = some c ∧ c.id = id ∧
    (c.reading = true ↔ Fate id moves none)
  /-- Whatever ended the reader, nothing is put on the channel after that. -/
  delivered : ∀ ending, Fate id moves (some ending) → ∀ later, ∃ c d,
    t.connections[place]? = some c ∧ (t.run later).connections[place]? = some d ∧
      d.delivered = c.delivered ∧ d.reading = false

/-- What an opening does to the notices and to the connections. -/
theorem opening_of_ok (s : Session) (hok : (s.subscribe .connects).2 = some (.ok ())) :
    (s.step (.subscribe .connects)).notices = s.notices ++ [.connecting, .connected] ∧
      (s.step (.subscribe .connects)).released = s.released := by
  have hrule := subscribes s .connects
  rw [step]
  generalize s.subscribe .connects = result at hrule hok
  rcases result with ⟨t, answer⟩
  cases hrule with
  | connect => exact ⟨List.append_assoc _ _ _, rfl⟩
  | refuse | misrequest | breakOff => cases hok

/-- A connection keeps its place in the row as long as no other one is opened,
    and it is read there exactly if it is read in the slot. -/
theorem placed_run (s u : Session) (c : Connection) (moves : List Move)
    (hconnections : u.connections = s.connections ++ [c]) (hone : u.opened moves = 0)
    (hreleased : ∀ d ∈ u.released.map Release.connection, d.reading = false) :
    ∃ d, (u.run moves).connections[s.connections.length]? = some d ∧ d.id = c.id ∧
      (d.reading = true ↔ ¬Idle (u.run moves)) := by
  have hids := ids_of_run u moves hone
  have hunread := unread_released u moves hreleased
  rw [hconnections, List.map_append] at hids
  have hplace : ∃ d, (u.run moves).connections[s.connections.length]? = some d ∧ d.id = c.id := by
    refine Option.map_eq_some_iff.mp ?_
    rw [← List.getElem?_map, hids,
      List.getElem?_append_right (Nat.le_of_eq (List.length_map _)), List.length_map,
      Nat.sub_self]
    rfl
  rcases hplace with ⟨d, hd, hid⟩
  refine ⟨d, hd, hid, fun hread hidle => ?_, fun hbusy => ?_⟩
  · rcases List.mem_append.mp (List.mem_of_getElem? hd) with hmem | hmem
    · exact absurd ((hunread d hmem).symm.trans hread) Bool.false_ne_true
    · exact absurd ((hidle d (Option.mem_toList.mp hmem)).symm.trans hread) Bool.false_ne_true
  · -- Something is read, and there is no place for it but the last one of the row.
    rw [Idle, not_forall] at hbusy
    rcases hbusy with ⟨e, he⟩
    rw [Classical.not_imp, Bool.not_eq_false] at he
    have hlength := congrArg List.length hids
    rw [connections, he.1] at hd hlength
    simp only [List.length_map, List.length_append, Option.toList_some, List.length_cons,
      List.length_nil] at hlength
    rw [List.getElem?_append_right (by rw [List.length_map]; omega), Option.toList_some] at hd
    rcases List.mem_singleton.mp (List.mem_of_getElem? hd) with rfl
    exact he.2

theorem loss_reported (s : Session) (moves : List Move)
    (hreleased : ∀ c ∈ s.released.map Release.connection, c.reading = false)
    (hok : (s.subscribe .connects).2 = some (.ok ()))
    (hone : (s.step (.subscribe .connects)).opened moves = 0) :
    LossReported s.nextId s.connections.length moves s
      ((s.step (.subscribe .connects)).run moves) := by
  rcases opening_of_ok s hok with ⟨hnotices, hkept⟩
  rcases subscribe_of_ok s .connects hok with ⟨hactive, hconnections⟩
  -- From the opening on, the moves decide the fate, and there is only one.
  have hread := fate_run (s.step (.subscribe .connects)) _ hactive rfl rfl moves hone
  rcases hread with ⟨ending, more, hfate, hmore, hcount, hidle, hgoes⟩
  have hunique : ∀ other, Fate s.nextId moves other → other = ending :=
    fun other hother => fate_unique s.nextId moves other ending hother hfate
  rcases placed_run s _ _ moves hconnections hone (hkept ▸ hreleased) with ⟨c, hc, hid, hbusy⟩
  -- The connection still reads just if no ending has come.
  have hreading : c.reading = true ↔ Fate s.nextId moves none := by
    cases ending with
    | some ending =>
        refine iff_of_false (fun hread => hbusy.mp hread (hidle rfl)) fun hnone => ?_
        exact absurd (hunique none hnone) nofun
    | none =>
        rcases hgoes rfl with ⟨d, hd, _, hread, _⟩
        refine iff_of_true (hbusy.mpr fun hstill => ?_) hfate
        exact absurd ((hstill d hd).symm.trans hread) Bool.false_ne_true
  refine ⟨⟨ending, hfate, hunique⟩, ⟨more, ?_, ?_, ?_⟩, fun before after hmoves => ?_,
    ⟨c, hc, hid, hreading⟩, fun stopped hstopped later => ?_⟩
  · rw [hmore, hnotices, List.append_assoc]
    rfl
  · rw [hcount]
    split_ifs <;> decide
  · -- A loss is reported just if it is the ending.
    rw [← List.one_le_count_iff, hcount]
    refine ⟨fun hone => ?_, fun hlost => ?_⟩
    · split_ifs at hone with hlost
      · exact hlost ▸ hfate
      · exact absurd hone (by decide)
    · exact Nat.le_of_eq (if_pos (hunique _ hlost).symm).symm
  · rw [hmoves] at hone ⊢
    exact silence_of_release _ before after hone
  · -- Once the moves have stopped the connection, later ones do not reach it.
    have hunread : c.reading = false := by
      refine eq_false_of_ne_true fun hread => ?_
      exact absurd (fate_unique _ _ _ _ hstopped (hreading.mp hread)) nofun
    rcases grows_run _ later _ c hc with ⟨d, hd, hgrows⟩
    rcases hgrows.idle hunread with ⟨hended, hsame, _⟩
    exact ⟨c, d, hc, hd, hsame, hended⟩

/-- The losses that are heard of over any run of a source, connection by
    connection: whatever led to the opening of the connection, and whatever the
    server, the consumer and the source did after it until another one is
    opened.

    A loss is heard of at most once, after the opening, and exactly if the first
    move that ended the reader was a close, a read error, the end of the stream
    or a refusal. It is not heard of if the reader ended because nobody took an
    event, nor from the release on. Once the reader has ended, for any reason,
    nothing is put on the channel any more, however the run goes on. -/
theorem losses_of_run (source : Source) (before moves : List Move)
    (hok : (((start source).run before).subscribe .connects).2 = some (.ok ()))
    (hone : (((start source).run before).step (.subscribe .connects)).opened moves = 0) :
    LossReported ((start source).run before).nextId
      ((start source).run before).connections.length moves ((start source).run before)
      ((start source).run (before ++ .subscribe .connects :: moves)) := by
  rw [run_append]
  exact loss_reported _ moves (unread_released (start source) before nofun) hok hone

/-- A second connection whose receiver is dropped. An event ends its reader, and
    the close behind it is not heard of. -/
theorem losses_of_deserted_connection :
    LossReported 2 1
        [.dropReceiver, .receive .other,
          .receive (.text "[\"stream-events\",7,[\"RENAMED\",\"b\"]]"), .receive .close,
          .unsubscribe, .subscribe (.fails unreachable)]
        ((start ⟨⟨⟨"ws"⟩, [], [], none, none, .segments [], none, none⟩, "simulator", none, 1⟩).run
          [.subscribe .connects, .receive .close, .unsubscribe])
        ((start ⟨⟨⟨"ws"⟩, [], [], none, none, .segments [], none, none⟩, "simulator", none, 1⟩).run
          [.subscribe .connects, .receive .close, .unsubscribe, .subscribe .connects,
            .dropReceiver, .receive .other,
            .receive (.text "[\"stream-events\",7,[\"RENAMED\",\"b\"]]"), .receive .close,
            .unsubscribe, .subscribe (.fails unreachable)]) ∧
      ((start ⟨⟨⟨"ws"⟩, [], [], none, none, .segments [], none, none⟩, "simulator", none, 1⟩).run
          [.subscribe .connects, .receive .close, .unsubscribe, .subscribe .connects,
            .dropReceiver, .receive .other,
            .receive (.text "[\"stream-events\",7,[\"RENAMED\",\"b\"]]"), .receive .close,
            .unsubscribe, .subscribe (.fails unreachable)]).notices =
        [.connecting, .connected, .disconnected, .connecting, .connected, .connecting,
          .failed (.connect unreachable)] := by
  refine ⟨?_, by decide +kernel⟩
  exact losses_of_run
    ⟨⟨⟨"ws"⟩, [], [], none, none, .segments [], none, none⟩, "simulator", none, 1⟩
    [.subscribe .connects, .receive .close, .unsubscribe]
    [.dropReceiver, .receive .other,
      .receive (.text "[\"stream-events\",7,[\"RENAMED\",\"b\"]]"), .receive .close,
      .unsubscribe, .subscribe (.fails unreachable)]
    (by decide +kernel) (by decide +kernel)

end Session

end Feed

end StreamRoster
