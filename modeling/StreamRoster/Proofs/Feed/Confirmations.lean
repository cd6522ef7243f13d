import StreamRoster.Proofs.Feed.Calls
import StreamRoster.Proofs.Feed.Frames
import StreamRoster.Proofs.Json.Conversion

/-!
# The Call That Is Cancelled

Which call is cancelled when a connection is released, if any.

The server may confirm a call several times, and under different numbers. What
is recorded is the number of the last confirmation. `Recorded` says so of a row
of texts and asks nothing of a connection; `processed` picks out of a run those
texts that are handled on the connection in the slot. Each of them either
accepts a call, and then its number takes the place of what was recorded, or
leaves what was recorded alone. The run lemma is the induction over that.

What a text has to be to leave the record alone is spelled out by `Silent`. The
delicate ones are those that carry a number for a call and do not count: a reply
to another request, a refusal, and a text whose number is no natural of 32 bits.
The last cannot be read as a message at all, which is a fact about reading
records out of trees.

## Main definitions

* `Frame.CallIn`: What stands for the call in a tree.
* `Frame.Silent`: What a text is that accepts no call.
* `Frame.Recorded`: What a row of texts leaves recorded.
* `Session.processed`: The texts that a run brings to a connection.
* `Session.Confirmed`: How a connection stands to the call that is cancelled.

## Theorems

* `Frame.ofText?_eq_none_of_call`: A number that does not fit cannot be read.
* `Frame.not_accepts_of_silent`: A silent text accepts nothing.
* `call_of_step`: What a move does to the recorded call.
* `recorded_run`: What a run leaves recorded.
* `processed_textMoves`: What is handled of a row of texts.
* `cancel_of_run`: The call that is cancelled behind any run.
-/

namespace StreamRoster

open Json

namespace Frame

/-! ### Reading the number of a call -/

/-- The number of a call that a tree is. -/
def call? (t : Tree) : Option UInt32 := t.unsigned32?.map UInt32.ofNat

/-- What a field of a message makes of a tree. -/
def field? (key : String) (t : Tree) : Option (Draft → Draft) :=
  if key = "type" then t.text?.map fun type d => { d with type := some type }
  else if key = "call" then (t.orNull? call?).map fun call d => { d with call := some call }
  else (t.orNull? some).map fun data d => { d with data := some data }

theorem converts_field? : Converts record.fields field? := by
  intro field hfield room s t rest h
  simp only [record, List.mem_cons, List.not_mem_nil, or_false] at hfield
  rcases hfield with rfl | rfl | rfl
  · simp only [toOption_bind, anyText_toOption room s t rest h, field?, if_true]
    cases t.text? <;> rfl
  · have hcall := nullable_toOption unsigned32 Tree.unsigned32? room s t rest
      (fun s h => unsigned32_toOption room s t rest h) h
    simp only [toOption_bind, hcall]
    rw [field?, if_neg (by decide), if_pos rfl]
    by_cases hnull : t = .null
    · rw [hnull]
      rfl
    · rw [Tree.orNull?_of_ne _ t hnull, Tree.orNull?_of_ne _ t hnull, call?]
      cases t.unsigned32? <;> rfl
  · have hdata := nullable_toOption (tree room) some room s t rest (fun s h => by rw [h]; rfl) h
    simp only [toOption_bind, hdata]
    rw [field?, if_neg (by decide), if_neg (by decide)]
    cases t <;> rfl

/-- What stands for the call in a tree that is read as a message: a member, or
    the second element of a list. -/
inductive CallIn : Tree → Tree → Prop where
  | member (members : List (String × Tree)) (t : Tree) (hmem : ("call", t) ∈ members) :
      CallIn (.object members) t
  | element (type t : Tree) (items : List Tree) : CallIn (.array (type :: t :: items)) t

/-- Only a natural of 32 bits is the number of a call. -/
theorem call?_eq_none (t : Tree) (h : ∀ c : UInt32, t ≠ .number (.integer c.toNat)) :
    call? t = none := by
  rw [call?, Option.map_eq_none_iff, Tree.unsigned32?, Option.map_eq_none_iff]
  cases t with
  | null | boolean | text | array | object => rfl
  | number n =>
      cases n with
      | float x => rfl
      | integer n =>
          refine if_neg fun hrange => h (UInt32.ofNat n.toNat) ?_
          have hsmall : n.toNat % 2 ^ 32 = n.toNat := Nat.mod_eq_of_lt (by omega)
          rw [UInt32.toNat_ofNat', hsmall, Int.toNat_of_nonneg hrange.1]

theorem field?_call_eq_none (t : Tree) (hnull : t ≠ .null)
    (hfit : ∀ c : UInt32, t ≠ .number (.integer c.toNat)) : field? "call" t = none := by
  rw [field?, if_neg (by decide), if_pos rfl, Tree.orNull?_of_ne _ t hnull,
    call?_eq_none t hfit]
  rfl

theorem ofTree?_eq_none_of_call (whole t : Tree) (ht : CallIn whole t) (hnull : t ≠ .null)
    (hfit : ∀ c : UInt32, t ≠ .number (.integer c.toNat)) :
    record.ofTree? field? whole = none := by
  have hnone := field?_call_eq_none t hnull hfit
  cases ht with
  | member members _ hmem =>
      rw [Record.ofTree?, Record.ofMembers?_eq_none _ _ _ members "call" t _ hmem rfl hnone]
      rfl
  | element type _ items =>
      refine Option.bind_eq_none_iff.mpr fun x hx => ?_
      rcases Option.bind_eq_some_iff.mp hx with ⟨put, _, hx⟩
      rcases Option.bind_eq_some_iff.mp hx with ⟨_, hput, _⟩
      exact absurd (hput.symm.trans hnone) (Option.some_ne_none _)

/-- A text that gives something for its call that is neither `null` nor a
    natural of 32 bits is no message. -/
theorem ofText?_eq_none_of_call (text : String) (whole t : Tree)
    (hwhole : readAll (tree topRoom) text = .ok whole) (ht : CallIn whole t) (hnull : t ≠ .null)
    (hfit : ∀ c : UInt32, t ≠ .number (.integer c.toNat)) : ofText? text = none := by
  rcases (readAll_eq_ok_iff _ text whole).mp hwhole with ⟨rest, htree, _⟩
  have hread := record.read_toOption field? converts_field? topRoom _ whole rest htree
  rw [ofTree?_eq_none_of_call whole t ht hnull hfit] at hread
  rw [ofText?, readAll, toOption_bind]
  have hnone : (read topRoom text.toList).toOption = none := hread
  rw [hnone]
  rfl

/-! ### What a row of texts leaves recorded -/

/-- What a text is that accepts no call: no message, an event frame, a refusal,
    or a message that names another request. -/
inductive Silent (request : UInt32) (text : String) : Prop where
  | unreadable (hframe : ofText? text = none)
  | event (frame : Frame) (hframe : ofText? text = some frame) (htype : frame.type = topic)
  | refusal (hrefuses : Refuses request text)
  | foreign (frame : Frame) (hframe : ofText? text = some frame) (n : Nat)
      (hnames : frame.data.bind (Tree.get? "replyTo") = some (.number (.integer n)))
      (hother : n ≠ request.toNat)

theorem not_accepts_of_silent (request : UInt32) (text : String) (h : Silent request text)
    (call : UInt32) : ¬Accepts request text call := by
  intro haccepts
  rcases haccepts with ⟨frame, hframe, hanswers, hexception, _⟩
  cases h with
  | unreadable hnone => exact absurd (hnone.symm.trans hframe) nofun
  | event other hother htype =>
      rcases Option.some.inj (hframe.symm.trans hother) with rfl
      exact not_answers_of_topic request frame htype hanswers
  | refusal hrefuses =>
      rcases ((refuses_iff request text frame hframe).mp hrefuses).2 with ⟨exception, hfound⟩
      exact absurd (hexception.symm.trans hfound) nofun
  | foreign other hother n hnames hne =>
      rcases Option.some.inj (hframe.symm.trans hother) with rfl
      exact hne (hanswers.2 n hnames)

/-- What a row of texts leaves recorded for the call of a request: the number of
    the last text that accepts it, or nothing if none does. -/
inductive Recorded (request : UInt32) : List String → Option UInt32 → Prop where
  | nothing (texts : List String) (hnone : ∀ text ∈ texts, ∀ call, ¬Accepts request text call) :
      Recorded request texts none
  | last (before : List String) (text : String) (after : List String) (call : UInt32)
      (haccepts : Accepts request text call)
      (hafter : ∀ other ∈ after, ∀ n, ¬Accepts request other n) :
      Recorded request (before ++ text :: after) (some call)

theorem recorded_concat_of_not_accepts (request : UInt32) (texts : List String) (text : String)
    (call : Option UInt32) (h : Recorded request texts call)
    (hnot : ∀ n, ¬Accepts request text n) : Recorded request (texts ++ [text]) call := by
  cases h with
  | nothing _ hnone =>
      refine Recorded.nothing _ fun other hother => ?_
      rcases List.mem_append.mp hother with hmem | hmem
      · exact hnone other hmem
      · rw [List.mem_singleton.mp hmem]
        exact hnot
  | last before accepting after n haccepts hafter =>
      rw [List.append_assoc, List.cons_append]
      refine Recorded.last before accepting _ n haccepts fun other hother => ?_
      rcases List.mem_append.mp hother with hmem | hmem
      · exact hafter other hmem
      · rw [List.mem_singleton.mp hmem]
        exact hnot

/-- A text that accepts nothing may be taken out of a row, wherever it stands. -/
theorem recorded_erase (request : UInt32) (before after : List String) (text : String)
    (call : Option UInt32) (h : Recorded request (before ++ text :: after) call)
    (hnot : ∀ n, ¬Accepts request text n) : Recorded request (before ++ after) call := by
  generalize htexts : before ++ text :: after = texts at h
  cases h with
  | nothing _ hnone =>
      refine Recorded.nothing _ fun other hother => hnone other ?_
      rw [← htexts, List.mem_append, List.mem_cons]
      exact (List.mem_append.mp hother).imp_right Or.inr
  | last front accepting back n haccepts hback =>
      rcases List.append_eq_append_iff.mp htexts with
        ⟨between, hfront, hrest⟩ | ⟨between, hbefore, hrest⟩
      · -- The text stands in front of the one that counts.
        cases between with
        | nil =>
            rcases List.cons.inj hrest with ⟨rfl, _⟩
            exact absurd haccepts (hnot n)
        | cons first between =>
            rw [List.cons_append, List.cons.injEq] at hrest
            rcases hrest with ⟨_, rfl⟩
            rw [← List.append_assoc]
            exact Recorded.last _ accepting back n haccepts hback
      · -- The text stands behind the one that counts.
        cases between with
        | nil =>
            rcases List.cons.inj hrest with ⟨rfl, _⟩
            exact absurd haccepts (hnot n)
        | cons first between =>
            rw [List.cons_append, List.cons.injEq] at hrest
            rcases hrest with ⟨rfl, rfl⟩
            rw [hbefore, List.append_assoc, List.cons_append]
            refine Recorded.last front accepting _ n haccepts fun other hother => hback other ?_
            rw [List.mem_append, List.mem_cons]
            exact (List.mem_append.mp hother).imp_right Or.inr

/-- Handling one more text records what the longer row leaves recorded. -/
theorem recorded_concat (request : UInt32) (listening : Bool) (texts : List String)
    (call : Option UInt32) (h : Recorded request texts call) (text : String) :
    Recorded request (texts ++ [text]) (handle request listening call text).call := by
  by_cases haccepts : ∃ n, Accepts request text n
  · rcases haccepts with ⟨n, haccepts⟩
    rw [call_of_accepts request listening call text n haccepts]
    exact Recorded.last texts text [] n haccepts fun _ hmem => absurd hmem List.not_mem_nil
  · rw [not_exists] at haccepts
    rw [call_of_not_accepts request listening call text haccepts]
    exact recorded_concat_of_not_accepts request texts text call h haccepts

end Frame

namespace Feed

namespace Session

/-! ### Along a run -/

/-- The text that a move brings to the connection in the slot, if that is read. -/
def processed? (s : Session) : Move → Option String
  | .receive (.text text) => if s.active.any Connection.reading then some text else none
  | _ => none

/-- The texts that a run brings to the connection in the slot for as long as it
    is read. -/
def processed : Session → List Move → List String
  | _, [] => []
  | s, m :: moves => (s.processed? m).toList ++ processed (s.step m) moves

/-- A move that is no release keeps the connection in the slot. The call that is
    recorded there is what the text made of it that the move brings, if any. -/
theorem call_of_step (s : Session) (c : Connection) (hactive : s.active = some c) (m : Move)
    (hm : m ≠ .unsubscribe) :
    ∃ d, (s.step m).active = some d ∧ d.id = c.id ∧
      ((∃ text, s.processed? m = some text ∧
          d.call = (Frame.handle c.id c.listening c.call text).call) ∨
        s.processed? m = none ∧ d.call = c.call) := by
  cases m with
  | unsubscribe => exact absurd rfl hm
  | dropReceiver =>
      rw [step, dropReceiver, hactive]
      exact ⟨_, rfl, rfl, Or.inr ⟨rfl, rfl⟩⟩
  | subscribe attempt =>
      rw [step_subscribe_of_active s attempt (by rw [hactive]; rfl)]
      exact ⟨c, hactive, rfl, Or.inr ⟨rfl, rfl⟩⟩
  | tend place duty =>
      rcases active_tend s c hactive place duty with ⟨writer, hwriter⟩
      exact ⟨_, hwriter, rfl, Or.inr ⟨rfl, rfl⟩⟩
  | receive incoming =>
      by_cases hreading : c.reading = true
      · -- Only a text changes the call, and only as its frame is handled.
        cases incoming with
        | text text =>
            refine ⟨_, active_receive_text s c hactive hreading text, rfl, Or.inl ⟨text, ?_, rfl⟩⟩
            rw [processed?, hactive, Option.any_some, if_pos hreading]
        | other =>
            simp only [step, receive, hactive, hreading, Bool.not_true, Bool.false_eq_true,
              if_false]
            exact ⟨c, rfl, rfl, Or.inr ⟨rfl, rfl⟩⟩
        | close | readError | endOfStream =>
            simp only [step, receive, hactive, hreading, Bool.not_true, Bool.false_eq_true,
              if_false]
            exact ⟨_, rfl, rfl, Or.inr ⟨rfl, rfl⟩⟩
      · -- A connection that no longer reads takes nothing.
        have hkeep : s.step (.receive incoming) = s := by
          refine receive_of_not_reading s incoming fun d hd => ?_
          rcases Option.some.inj (hactive.symm.trans hd) with rfl
          exact eq_false_of_ne_true hreading
        refine ⟨c, by rw [hkeep, hactive], rfl, Or.inr ⟨?_, rfl⟩⟩
        cases incoming with
        | text text => rw [processed?, hactive, Option.any_some, if_neg hreading]
        | other | close | readError | endOfStream => rfl

/-- What a run leaves recorded, by induction along its moves. The texts that were
    handled before stand in front. -/
theorem recorded_run (s : Session) (moves : List Move) (c : Connection)
    (hactive : s.active = some c) (hmoves : .unsubscribe ∉ moves) (texts : List String)
    (h : Frame.Recorded c.id texts c.call) :
    ∃ d, (s.run moves).active = some d ∧ d.id = c.id ∧
      Frame.Recorded c.id (texts ++ s.processed moves) d.call := by
  induction moves generalizing s c texts with
  | nil => exact ⟨c, hactive, rfl, by rw [processed, List.append_nil]; exact h⟩
  | cons m moves ih =>
      rw [List.mem_cons, not_or] at hmoves
      rcases hmoves with ⟨hm, hmoves⟩
      rcases call_of_step s c hactive m (Ne.symm hm) with ⟨d, hd, hid, hcall⟩
      -- A text that is handled is one more in the row; other moves add none.
      have hstep : Frame.Recorded d.id (texts ++ (s.processed? m).toList) d.call := by
        rcases hcall with ⟨text, htext, hcall⟩ | ⟨htext, hcall⟩
        · rw [htext, hcall, hid]
          exact Frame.recorded_concat c.id c.listening texts c.call h text
        · rw [htext, hcall, hid, Option.toList_none, List.append_nil]
          exact h
      rcases ih (s.step m) d hd hmoves _ hstep with ⟨e, he, heid, hrecorded⟩
      rw [hid, List.append_assoc] at hrecorded
      exact ⟨e, he, heid.trans hid, hrecorded⟩

theorem processed_of_not_reading (s : Session) (texts : List String)
    (h : ∀ c, s.active = some c → c.reading = false) : s.processed (textMoves texts) = [] := by
  induction texts with
  | nil => rfl
  | cons text texts ih =>
      have hstep : s.step (.receive (.text text)) = s := receive_of_not_reading s (.text text) h
      have hnone : s.processed? (.receive (.text text)) = none := by
        refine if_neg fun hany => ?_
        rcases (Option.any_eq_true_iff_get _ _).mp hany with ⟨hsome, hreading⟩
        rw [h _ (Option.some_get hsome).symm] at hreading
        exact Bool.false_ne_true hreading
      show (s.processed? _).toList ++ (s.step _).processed (textMoves texts) = []
      rw [hnone, hstep, ih]
      rfl

/-- What is handled of a row of texts: all up to the first that refuses the
    call, which is handled too. -/
theorem processed_textMoves (s : Session) (c : Connection) (hactive : s.active = some c)
    (hreading : c.reading = true) (hlistening : c.listening = true) (texts : List String) :
    s.processed (textMoves texts) =
      (texts.takeWhile fun text => !decide (Frame.Refuses c.id text)) ++
        (texts.dropWhile fun text => !decide (Frame.Refuses c.id text)).take 1 := by
  induction texts generalizing s c with
  | nil => rfl
  | cons text texts ih =>
      have hstep := active_receive_text s c hactive hreading text
      rw [hlistening] at hstep
      have htext : s.processed? (.receive (.text text)) = some text := by
        rw [processed?, hactive, Option.any_some, if_pos hreading]
      show (s.processed? _).toList ++ (s.step _).processed (textMoves texts) = _
      rw [htext]
      by_cases hrefuses : Frame.Refuses c.id text
      · -- The refusal is handled itself, and nothing behind it.
        have houtcome := Frame.outcome_of_refuses c.id true c.call text hrefuses
        have hrest : (s.step (.receive (.text text))).processed (textMoves texts) = [] := by
          refine processed_of_not_reading _ texts fun d hd => ?_
          rcases Option.some.inj (hstep.symm.trans hd) with rfl
          rw [Connection.heard, houtcome]
          rfl
        simp only [hrest, List.takeWhile_cons, List.dropWhile_cons, hrefuses, decide_true,
          Bool.not_true, Bool.false_eq_true, if_false]
        rfl
      · have houtcome := Frame.outcome_of_not_refuses c.id c.call text hrefuses
        have hread : (c.heard (Frame.handle c.id true c.call text)).reading = true := by
          rw [Connection.heard, houtcome]
          rfl
        simp only [List.takeWhile_cons, List.dropWhile_cons, hrefuses, decide_false,
          Bool.not_false, if_true]
        have hrest := ih (s.step (.receive (.text text))) _ hstep hread hlistening
        exact congrArg (text :: ·) hrest

/-- A text that accepts no call makes no difference to what is cancelled. -/
theorem released_of_silent (s : Session) (c : Connection) (hactive : s.active = some c)
    (text : String) (h : Frame.Silent c.id text) :
    (s.receive (.text text)).unsubscribe.released.map
        (fun r => (r.connection.call, r.connection.writer, r.stage)) =
      s.unsubscribe.released.map fun r => (r.connection.call, r.connection.writer, r.stage) := by
  by_cases hreading : c.reading = true
  · have hstep := active_receive_text s c hactive hreading text
    have hcall := Frame.call_of_not_accepts c.id c.listening c.call text
      (Frame.not_accepts_of_silent c.id text h)
    rw [unsubscribe, unsubscribe, hstep, hactive, Connection.heard, hcall]
    simp only [report, released_receive, Connection.leave_eq, List.map_append]
    rfl
  · rw [receive_of_not_reading s (.text text) fun d hd => ?_]
    rcases Option.some.inj (hactive.symm.trans hd) with rfl
    exact eq_false_of_ne_true hreading

/-- What is on a connection behind its release: what there is to say on it as it was
    taken leave of, or a start of that. -/
theorem farewell_of_release (inst : String) (s : Session) (c : Connection)
    (hactive : s.active = some c) (hwords : c.writer.Accounted [.openCall c.id inst])
    (later : List Move) : ∃ r : Release,
      (s.unsubscribe.run later).released[s.released.length]? = some r ∧
        r.connection.call = c.call ∧ r.connection.sent <+: c.script inst ∧
        (c.writer.phase = .running → ¬Disturbed s.released.length later → r.stage = .finished →
          r.connection.sent = c.script inst) := by
  rcases spoken_released_run inst _ later _ c.leave.1 (released_unsubscribe s c hactive)
    (Release.spoken_leave inst c hwords) with ⟨r, hr, hspoken, hgrows⟩
  have hunread : c.leave.1.connection.reading = false := by rw [Connection.leave_eq]
  have hkept : c.leave.1.connection.call = c.call := by rw [Connection.leave_eq]
  -- Nothing is read any more, so the call stays, and with it what there is to say.
  have hcall : r.connection.call = c.call := (hgrows.idle hunread).2.2.trans hkept
  have hscript : r.connection.script inst = c.script inst := by
    rw [Connection.script, Connection.script, hcall, hgrows.id, (c.grows_leave False).id]
  refine ⟨r, hr, hcall, ?_, fun hrunning hcalm hfinished => ?_⟩
  · rw [← hscript]
    exact r.sent_prefix_script inst hspoken
  · rw [← hscript]
    exact sent_of_sound inst r hspoken
      (hgrows.sound hcalm ((c.grows_leave False).sound id (Or.inl hrunning))) hfinished

/-- How a connection that has handled some texts stands to the call that is
    cancelled when it is released. -/
structure Confirmed (request : UInt32) (inst : String) (texts : List String) (s : Session)
    (c : Connection) : Prop where
  active : s.active = some c
  id : c.id = request
  /-- Recorded is the number of the last text that accepts the call. -/
  recorded : Frame.Recorded request texts c.call
  /-- A text that says nothing about the call might as well not be among them. -/
  sifted : ∀ before text after, texts = before ++ text :: after → Frame.Silent request text →
    Frame.Recorded request (before ++ after) c.call
  /-- Releasing cancels the recorded call, and no call if none is recorded. Whatever
      comes later, there is a start of the opening, this cancel and the close on the
      connection. It is all of that once the release is over, if the writer ran at the
      beginning of the release and nothing has kept it from sending since. -/
  farewell : ∀ later : List Move, ∃ r : Release,
    (s.unsubscribe.run later).released[s.released.length]? = some r ∧
      r.connection.call = c.call ∧
      r.connection.sent <+: .openCall request inst ::
        (c.call.toList.map ClientMessage.cancel ++ [.close]) ∧
      (c.writer.phase = .running → ¬Disturbed s.released.length later → r.stage = .finished →
        r.connection.sent = .openCall request inst ::
          (c.call.toList.map ClientMessage.cancel ++ [.close]))
  /-- The release does get there, if the writer runs. -/
  carried : c.writer.phase = .running → ∃ (later : List Move) (r : Release),
    ¬Disturbed s.released.length later ∧
      (s.unsubscribe.run later).released[s.released.length]? = some r ∧ r.stage = .finished
  /-- One more text that says nothing about the call does not change what is
      cancelled. -/
  unmoved : ∀ text, Frame.Silent request text →
    (s.receive (.text text)).unsubscribe.released.map
        (fun r => (r.connection.call, r.connection.writer, r.stage)) =
      s.unsubscribe.released.map fun r => (r.connection.call, r.connection.writer, r.stage)

/-- The call that is cancelled behind any run of moves on a connection, whatever
    the server says on it.

    It is the number that the last text accepts the call with, among the texts
    that were handled, and those are all up to the first refusal when nothing
    but texts arrives. A text that is no message, an event frame, a refusal and a
    reply to another request never change it; and no text is a message that has
    anything but `null` or a natural of 32 bits where the call belongs. -/
theorem cancel_of_run (s : Session) (attempt : Attempt) (moves : List Move)
    (hok : (s.subscribe attempt).2 = some (.ok ())) (hmoves : .unsubscribe ∉ moves) :
    (∃ c, Confirmed s.nextId s.source.inst ((s.subscribe attempt).1.processed moves)
        ((s.subscribe attempt).1.run moves) c ∧
      (¬Disturbed s.connections.length moves → c.writer.phase = .running)) ∧
      (∀ texts : List String,
        (s.subscribe attempt).1.processed (texts.map fun text => .receive (.text text)) =
        (texts.takeWhile fun text => !decide (Frame.Refuses s.nextId text)) ++
          (texts.dropWhile fun text => !decide (Frame.Refuses s.nextId text)).take 1) ∧
      (∀ text whole t, readAll (tree topRoom) text = .ok whole → Frame.CallIn whole t →
        t ≠ .null → (∀ n : UInt32, t ≠ .number (.integer n.toNat)) →
        Frame.Silent s.nextId text) := by
  rcases subscribe_of_ok s attempt hok with ⟨hactive, hconnections⟩
  generalize (s.subscribe attempt).1 = t at hactive hconnections
  refine ⟨?_, fun texts => processed_textMoves t _ hactive rfl rfl texts,
    fun text whole t hwhole ht hnull hfit =>
      Frame.Silent.unreadable (Frame.ofText?_eq_none_of_call text whole t hwhole ht hnull hfit)⟩
  have hstart : Frame.Recorded s.nextId [] none :=
    Frame.Recorded.nothing [] fun _ hmem => absurd hmem List.not_mem_nil
  rcases held_run t moves _ hactive hmoves with ⟨c, hc, hid, hwords, hlength, _⟩
  rcases recorded_run t moves _ hactive hmoves [] hstart with ⟨d, hd, _, hrecorded⟩
  rcases Option.some.inj (hc.symm.trans hd) with rfl
  have hid : c.id = s.nextId := hid
  have haccounted := hwords [.openCall s.nextId s.source.inst] (Writer.accounted_start _)
  rw [← hid] at haccounted
  refine ⟨c, ⟨hc, hid, hrecorded, fun before text after htexts hsilent => ?_, fun later => ?_,
    fun hrunning => ?_, fun text hsilent => released_of_silent _ c hc text (hid ▸ hsilent)⟩,
    fun hcalm => ?_⟩
  · rw [List.nil_append, htexts] at hrecorded
    exact Frame.recorded_erase _ before after text c.call hrecorded
      (Frame.not_accepts_of_silent _ text hsilent)
  · rw [← hid]
    exact farewell_of_release _ _ c hc haccounted later
  · rcases carried_out _ _ c hc haccounted hrunning with ⟨later, r, hlater, hr, hfinished, _⟩
    refine ⟨later, r, ?_, hr, hfinished⟩
    rintro ⟨duty, hduty, hdisturbs⟩
    rcases hlater _ hduty with ⟨other, hother, hcalm⟩
    rcases Move.tend.inj hother with ⟨_, rfl⟩
    exact absurd (hcalm.symm.trans hdisturbs) Bool.false_ne_true
  · -- The connection has the same place in the row, in the slot and before.
    have hplace : t.connections[s.connections.length]? = some (.opened s.nextId s.source.inst) := by
      rw [hconnections]
      exact List.getElem?_concat_length
    have hslot : (t.run moves).released.length = s.connections.length := by
      have hrow := congrArg List.length (connections_of_active t _ hactive)
      rw [hconnections, List.length_append, List.length_append, List.length_map] at hrow
      rw [hlength]
      exact Nat.add_right_cancel hrow.symm
    rcases grows_run t moves _ _ hplace with ⟨e, he, hgrows⟩
    rw [← hslot, connections_slot _ c hc] at he
    rcases Option.some.inj he with rfl
    exact Writer.running_of_sound _ c.writer haccounted
      (fun hmem => ClientMessage.noConfusion (List.mem_singleton.mp hmem))
      (hgrows.sound hcalm (Or.inl rfl))

/-- A confirmation, a second one, a reply to another request, and a confirmation
    under a number of more than 32 bits. The second one is what is cancelled. -/
theorem cancel_of_confirmed_twice :
    ∃ c, Confirmed 1 "simulator"
        ["[\"reply\",5]",
          "\x7b\"call\":9,\"type\":\"reply\",\"data\":\x7b\"replyTo\":1\x7d\x7d",
          "[\"reply\",6,\x7b\"replyTo\":2\x7d]", "[\"reply\",4294967296]"]
        (((start ⟨⟨⟨"ws"⟩, [], [], none, none, .segments [], none, none⟩, "simulator", none,
            1⟩).subscribe .connects).1.run (textMoves
          ["[\"reply\",5]",
            "\x7b\"call\":9,\"type\":\"reply\",\"data\":\x7b\"replyTo\":1\x7d\x7d",
            "[\"reply\",6,\x7b\"replyTo\":2\x7d]", "[\"reply\",4294967296]"])) c ∧
      c.call = some 9 := by
  have h := cancel_of_run
    (start ⟨⟨⟨"ws"⟩, [], [], none, none, .segments [], none, none⟩, "simulator", none, 1⟩)
    .connects
    (textMoves ["[\"reply\",5]",
      "\x7b\"call\":9,\"type\":\"reply\",\"data\":\x7b\"replyTo\":1\x7d\x7d",
      "[\"reply\",6,\x7b\"replyTo\":2\x7d]", "[\"reply\",4294967296]"])
    (by decide +kernel) (by decide +kernel)
  rcases h.1 with ⟨c, hc, _⟩
  have hcall : (((start ⟨⟨⟨"ws"⟩, [], [], none, none, .segments [], none, none⟩, "simulator", none,
      1⟩).subscribe .connects).1.run (textMoves
    ["[\"reply\",5]",
      "\x7b\"call\":9,\"type\":\"reply\",\"data\":\x7b\"replyTo\":1\x7d\x7d",
      "[\"reply\",6,\x7b\"replyTo\":2\x7d]", "[\"reply\",4294967296]"])).active.bind
        Connection.call = some 9 := by
    decide +kernel
  rw [hc.active] at hcall
  exact ⟨c, hc, hcall⟩

end Session

end Feed

end StreamRoster
