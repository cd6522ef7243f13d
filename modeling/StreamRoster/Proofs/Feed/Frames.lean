import StreamRoster.Proofs.Feed.Moves

/-!
# Events Out of Frames

What the reader of a connection makes of any row of texts.

What a text means is worked out in a fixed order: a reply is checked for
whom it answers before it is checked for a refusal, and for a refusal before
it is checked for a call. The three predicates below leave that order out.
Each says directly what a text has to be to carry an event, to refuse a call
or to accept one, and each is shown to be one of the meanings. Every other
text is passed over, whatever is wrong with it.

The events of a row are then those of its texts before the first refusal. A
text that is passed over may be taken out of the row or put into it, and
nothing changes for the others.

## Main definitions

* `Frame.event?`: The event in a text.
* `Frame.Answers`: Whether a message answers a request.
* `Frame.Refuses`, `Frame.Accepts`: Whether a text refuses or accepts a call.
* `Frame.events`: The events of a row of texts.

## Theorems

* `means_meaning`: What a text has to be for its meaning.
* `meaning_eq_refusal_iff`, `meaning_eq_confirmation_iff`, `event?_meaning`: The
  meanings that have an effect.
* `outcome_of_refuses`, `outcome_of_not_refuses`, `delivered_handle`,
  `call_of_accepts`, `call_of_not_accepts`: What a text does.
* `events_insert`: A text that is passed over might as well not be there.
* `active_run_texts`: What a row of texts does to a connection.
* `events_of_texts`: The events that a row of texts delivers.
-/

namespace StreamRoster

open Json

namespace Frame

/-- The event in a text, if the text is an event frame whose data is one. -/
def event? (text : String) : Option Event :=
  (ofText? text).bind fun frame =>
    if frame.type = topic then frame.data.bind Event.ofTree? else none

/-- Whether a message is a reply that does not name another request. A reply
    names a request by an unsigned integer; if it names none, or by something
    else, it may be meant for any. -/
def Answers (request : UInt32) (frame : Frame) : Prop :=
  frame.type = "reply" ∧
    ∀ n : Nat, frame.data.bind (Tree.get? "replyTo") = some (.number (.integer n)) →
      n = request.toNat

/-- Whether a text refuses the call of a request. -/
def Refuses (request : UInt32) (text : String) : Prop :=
  ∃ frame, ofText? text = some frame ∧ frame.Answers request ∧
    ∃ exception, frame.data.bind (Tree.get? "exception") = some exception

/-- Whether a text accepts the call of a request under a number. -/
def Accepts (request : UInt32) (text : String) (call : UInt32) : Prop :=
  ∃ frame, ofText? text = some frame ∧ frame.Answers request ∧
    frame.data.bind (Tree.get? "exception") = none ∧ frame.call = some call

theorem repliesTo?_eq_some_iff (data : Option Tree) (n : Nat) :
    repliesTo? data = some n ↔
      data.bind (Tree.get? "replyTo") = some (.number (.integer n)) := by
  rw [repliesTo?]
  split
  · rename_i m hm
    rw [hm]
    refine ⟨fun h => ?_, fun h => ?_⟩
    · rcases Option.some.inj h with rfl
      rfl
    · cases h
      rfl
  · rename_i hother
    exact iff_of_false nofun (hother n)

/-- A reply answers a request unless it names another one. -/
theorem answers_iff (request : UInt32) (frame : Frame) :
    frame.Answers request ↔ frame.type = "reply" ∧
      ((repliesTo? frame.data).any fun n => n ≠ request.toNat) = false := by
  refine and_congr_right fun _ => ?_
  simp only [← repliesTo?_eq_some_iff]
  cases repliesTo? frame.data with
  | none => exact iff_of_true nofun rfl
  | some n =>
      simp only [Option.some.injEq, forall_eq', Option.any_some, ne_eq, decide_eq_false_iff_not,
        not_not]

/-- What a text has to be for each meaning. -/
inductive Means (request : UInt32) (text : String) : Meaning → Prop where
  | unreadable (hframe : ofText? text = none) : Means request text .unreadable
  | foreignReply (frame : Frame) (hframe : ofText? text = some frame)
      (htype : frame.type = "reply") (hanswers : ¬frame.Answers request) :
      Means request text .foreignReply
  | refusal (frame : Frame) (hframe : ofText? text = some frame)
      (hanswers : frame.Answers request) (exception : Tree)
      (hexception : frame.data.bind (Tree.get? "exception") = some exception) :
      Means request text .refusal
  | confirmation (frame : Frame) (hframe : ofText? text = some frame)
      (hanswers : frame.Answers request)
      (hexception : frame.data.bind (Tree.get? "exception") = none) (call : UInt32)
      (hcall : frame.call = some call) : Means request text (.confirmation call)
  | emptyReply (frame : Frame) (hframe : ofText? text = some frame)
      (hanswers : frame.Answers request)
      (hexception : frame.data.bind (Tree.get? "exception") = none)
      (hcall : frame.call = none) : Means request text .emptyReply
  | missingEvent (frame : Frame) (hframe : ofText? text = some frame)
      (htype : frame.type = topic) (hdata : frame.data = none) : Means request text .missingEvent
  | strangeEvent (frame : Frame) (hframe : ofText? text = some frame)
      (htype : frame.type = topic) (data : Tree) (hdata : frame.data = some data)
      (hevent : Event.ofTree? data = none) : Means request text .strangeEvent
  | event (frame : Frame) (hframe : ofText? text = some frame)
      (htype : frame.type = topic) (data : Tree) (hdata : frame.data = some data) (e : Event)
      (hevent : Event.ofTree? data = some e) : Means request text (.event e)
  | unrelated (frame : Frame) (hframe : ofText? text = some frame)
      (hreply : frame.type ≠ "reply") (htopic : frame.type ≠ topic) :
      Means request text .unrelated

theorem means_replyMeaning (request : UInt32) (text : String) (frame : Frame)
    (hframe : ofText? text = some frame) (htype : frame.type = "reply") :
    Means request text (replyMeaning request frame) := by
  rw [replyMeaning]
  by_cases hforeign : ((repliesTo? frame.data).any fun n => n ≠ request.toNat) = true
  · rw [if_pos hforeign]
    refine Means.foreignReply frame hframe htype fun hanswers => ?_
    rw [((answers_iff request frame).mp hanswers).2] at hforeign
    exact absurd hforeign nofun
  rw [if_neg hforeign]
  have hanswers : frame.Answers request :=
    (answers_iff request frame).mpr ⟨htype, eq_false_of_ne_true hforeign⟩
  by_cases hrefuses : refuses frame.data = true
  · rw [if_pos hrefuses]
    rcases Option.isSome_iff_exists.mp hrefuses with ⟨exception, hexception⟩
    exact Means.refusal frame hframe hanswers exception hexception
  · rw [if_neg hrefuses]
    have hexception := Option.not_isSome_iff_eq_none.mp hrefuses
    cases hcall : frame.call with
    | some call => exact Means.confirmation frame hframe hanswers hexception call hcall
    | none => exact Means.emptyReply frame hframe hanswers hexception hcall

theorem means_eventMeaning (request : UInt32) (text : String) (frame : Frame)
    (hframe : ofText? text = some frame) (htype : frame.type = topic) :
    Means request text (eventMeaning frame) := by
  rw [eventMeaning]
  cases hdata : frame.data with
  | none => exact Means.missingEvent frame hframe htype hdata
  | some data =>
      cases hevent : Event.ofTree? data with
      | none =>
          simp only [hevent]
          exact Means.strangeEvent frame hframe htype data hdata hevent
      | some e =>
          simp only [hevent]
          exact Means.event frame hframe htype data hdata e hevent

theorem means_meaning (request : UInt32) (text : String) :
    Means request text (meaning request text) := by
  rw [meaning]
  cases hframe : ofText? text with
  | none => exact Means.unreadable hframe
  | some frame =>
      simp only
      by_cases hreply : frame.type = "reply"
      · rw [if_pos hreply]
        exact means_replyMeaning request text frame hframe hreply
      rw [if_neg hreply]
      by_cases htopic : frame.type = topic
      · rw [if_pos htopic]
        exact means_eventMeaning request text frame hframe htopic
      · rw [if_neg htopic]
        exact Means.unrelated frame hframe hreply htopic

theorem refuses_iff (request : UInt32) (text : String) (frame : Frame)
    (hframe : ofText? text = some frame) :
    Refuses request text ↔ frame.Answers request ∧
      ∃ exception, frame.data.bind (Tree.get? "exception") = some exception := by
  refine ⟨fun h => ?_, fun h => ⟨frame, hframe, h⟩⟩
  rcases h with ⟨found, hfound, h⟩
  rcases Option.some.inj (hframe.symm.trans hfound) with rfl
  exact h

theorem accepts_iff (request : UInt32) (text : String) (call : UInt32) (frame : Frame)
    (hframe : ofText? text = some frame) :
    Accepts request text call ↔ frame.Answers request ∧
      frame.data.bind (Tree.get? "exception") = none ∧ frame.call = some call := by
  refine ⟨fun h => ?_, fun h => ⟨frame, hframe, h⟩⟩
  rcases h with ⟨found, hfound, h⟩
  rcases Option.some.inj (hframe.symm.trans hfound) with rfl
  exact h

/-- No message of the type of events is a reply. -/
theorem not_answers_of_topic (request : UInt32) (frame : Frame) (htype : frame.type = topic) :
    ¬frame.Answers request := by
  intro h
  exact absurd (htype.symm.trans h.1) (by decide)

theorem meaning_eq_refusal_iff (request : UInt32) (text : String) :
    meaning request text = .refusal ↔ Refuses request text := by
  have hmeans := means_meaning request text
  generalize meaning request text = m at hmeans
  cases hmeans with
  | refusal frame hframe hanswers exception hexception =>
      exact iff_of_true rfl ⟨frame, hframe, hanswers, exception, hexception⟩
  | unreadable hframe =>
      refine iff_of_false nofun fun h => ?_
      rcases h with ⟨frame, hfound, _⟩
      exact absurd (hframe.symm.trans hfound) nofun
  | foreignReply frame hframe htype hanswers =>
      exact iff_of_false nofun fun h => hanswers ((refuses_iff request text frame hframe).mp h).1
  | confirmation frame hframe hanswers hexception | emptyReply frame hframe hanswers hexception =>
      refine iff_of_false nofun fun h => ?_
      rcases ((refuses_iff request text frame hframe).mp h).2 with ⟨exception, hfound⟩
      exact absurd (hexception.symm.trans hfound) nofun
  | missingEvent frame hframe htype | strangeEvent frame hframe htype
  | event frame hframe htype =>
      exact iff_of_false nofun fun h =>
        not_answers_of_topic request frame htype ((refuses_iff request text frame hframe).mp h).1
  | unrelated frame hframe hreply =>
      exact iff_of_false nofun fun h => hreply ((refuses_iff request text frame hframe).mp h).1.1

theorem meaning_eq_confirmation_iff (request : UInt32) (text : String) (call : UInt32) :
    meaning request text = .confirmation call ↔ Accepts request text call := by
  have hmeans := means_meaning request text
  generalize meaning request text = m at hmeans
  cases hmeans with
  | confirmation frame hframe hanswers hexception found hcall =>
      rw [accepts_iff request text call frame hframe, hcall]
      exact ⟨fun h => ⟨hanswers, hexception, congrArg some (Meaning.confirmation.inj h)⟩,
        fun h => congrArg Meaning.confirmation (Option.some.inj h.2.2)⟩
  -- Every other meaning denies one of the conditions of a confirmation.
  | unreadable hframe =>
      refine iff_of_false nofun fun h => ?_
      rcases h with ⟨frame, hfound, _⟩
      exact absurd (hframe.symm.trans hfound) nofun
  | foreignReply frame hframe htype hanswers =>
      exact iff_of_false nofun fun h =>
        hanswers ((accepts_iff request text call frame hframe).mp h).1
  | refusal frame hframe hanswers exception hexception =>
      exact iff_of_false nofun fun h => absurd
        (hexception.symm.trans ((accepts_iff request text call frame hframe).mp h).2.1) nofun
  | emptyReply frame hframe hanswers hexception hcall =>
      exact iff_of_false nofun fun h => absurd
        (hcall.symm.trans ((accepts_iff request text call frame hframe).mp h).2.2) nofun
  | missingEvent frame hframe htype | strangeEvent frame hframe htype
  | event frame hframe htype =>
      exact iff_of_false nofun fun h => not_answers_of_topic request frame htype
        ((accepts_iff request text call frame hframe).mp h).1
  | unrelated frame hframe hreply =>
      exact iff_of_false nofun fun h =>
        hreply ((accepts_iff request text call frame hframe).mp h).1.1

/-- The event of a meaning. -/
def Meaning.event? : Meaning → Option Event
  | .event e => some e
  | _ => none

theorem event?_meaning (request : UInt32) (text : String) :
    (meaning request text).event? = event? text := by
  have hmeans := means_meaning request text
  rw [event?]
  generalize meaning request text = m at hmeans
  cases hmeans with
  | unreadable hframe =>
      rw [hframe]
      rfl
  | foreignReply frame hframe htype hanswers =>
      rw [hframe, Option.bind_some, htype]
      rfl
  -- An answer to the request is a reply, so it is not searched for an event.
  | refusal frame hframe hanswers | confirmation frame hframe hanswers
  | emptyReply frame hframe hanswers =>
      rw [hframe, Option.bind_some, hanswers.1]
      rfl
  | missingEvent frame hframe htype hdata =>
      rw [hframe, Option.bind_some, if_pos htype, hdata]
      rfl
  | strangeEvent frame hframe htype data hdata hevent =>
      rw [hframe, Option.bind_some, if_pos htype, hdata, Option.bind_some, hevent]
      rfl
  | event frame hframe htype data hdata e hevent =>
      rw [hframe, Option.bind_some, if_pos htype, hdata, Option.bind_some, hevent]
      rfl
  | unrelated frame hframe hreply htopic =>
      rw [hframe, Option.bind_some, if_neg htopic]
      rfl

theorem event?_of_refuses (request : UInt32) (text : String) (h : Refuses request text) :
    event? text = none := by
  rw [← event?_meaning request text, (meaning_eq_refusal_iff request text).mpr h]
  rfl

/-- What a text delivers while somebody takes events. -/
theorem delivered_handle (request : UInt32) (call : Option UInt32) (text : String) :
    (handle request true call text).delivered = event? text := by
  rw [handle, ← event?_meaning request text]
  cases meaning request text <;> rfl

theorem outcome_of_refuses (request : UInt32) (listening : Bool) (call : Option UInt32)
    (text : String) (h : Refuses request text) :
    (handle request listening call text).outcome = .rejected := by
  rw [handle, (meaning_eq_refusal_iff request text).mpr h]
  rfl

theorem outcome_of_not_refuses (request : UInt32) (call : Option UInt32) (text : String)
    (h : ¬Refuses request text) : (handle request true call text).outcome = .proceed := by
  have hmeaning := (meaning_eq_refusal_iff request text).not.mpr h
  rw [handle]
  generalize meaning request text = m at hmeaning
  cases m with
  | refusal => exact absurd rfl hmeaning
  | unreadable | foreignReply | confirmation | emptyReply | event | missingEvent
  | strangeEvent | unrelated => rfl

theorem call_of_accepts (request : UInt32) (listening : Bool) (call : Option UInt32)
    (text : String) (c : UInt32) (h : Accepts request text c) :
    (handle request listening call text).call = some c := by
  rw [handle, (meaning_eq_confirmation_iff request text c).mpr h]
  rfl

theorem call_of_not_accepts (request : UInt32) (listening : Bool) (call : Option UInt32)
    (text : String) (h : ∀ c, ¬Accepts request text c) :
    (handle request listening call text).call = call := by
  have hmeaning : ∀ c, meaning request text ≠ .confirmation c :=
    fun c => (meaning_eq_confirmation_iff request text c).not.mpr (h c)
  rw [handle]
  generalize meaning request text = m at hmeaning
  cases m with
  | confirmation c => exact absurd rfl (hmeaning c)
  | event e => cases listening <;> rfl
  | unreadable | foreignReply | refusal | emptyReply | missingEvent | strangeEvent
  | unrelated => rfl

instance (request : UInt32) (text : String) : Decidable (Refuses request text) :=
  decidable_of_iff _ (meaning_eq_refusal_iff request text)

/-- The events of a row of texts: those of its texts before the first that
    refuses the call. -/
def events (request : UInt32) (texts : List String) : List Event :=
  (texts.takeWhile fun text => !decide (Refuses request text)).filterMap event?

theorem events_cons_of_refuses (request : UInt32) (text : String) (texts : List String)
    (h : Refuses request text) : events request (text :: texts) = [] := by
  rw [events, List.takeWhile_cons_of_neg (by simp only [h, decide_true, Bool.not_true]; nofun),
    List.filterMap_nil]

theorem events_cons_of_not_refuses (request : UInt32) (text : String) (texts : List String)
    (h : ¬Refuses request text) :
    events request (text :: texts) = (event? text).toList ++ events request texts := by
  rw [events, List.takeWhile_cons_of_pos (by simp only [h, decide_false, Bool.not_false])]
  cases hevent : event? text with
  | none => rw [List.filterMap_cons_none hevent]; rfl
  | some e => rw [List.filterMap_cons_some hevent]; rfl

/-- A text without an event that is no refusal makes no difference to the
    others, wherever it stands. -/
theorem events_insert (request : UInt32) (before after : List String) (text : String)
    (hrefuses : ¬Refuses request text) (hevent : event? text = none) :
    events request (before ++ text :: after) = events request (before ++ after) := by
  induction before with
  | nil =>
      rw [List.nil_append, events_cons_of_not_refuses request text after hrefuses, hevent]
      rfl
  | cons first before ih =>
      rw [List.cons_append, List.cons_append]
      by_cases hfirst : Refuses request first
      · rw [events_cons_of_refuses request first _ hfirst,
          events_cons_of_refuses request first _ hfirst]
      · rw [events_cons_of_not_refuses request first _ hfirst,
          events_cons_of_not_refuses request first _ hfirst, ih]

end Frame

namespace Feed

namespace Session

/-- The moves by which a row of texts arrives. -/
def textMoves (texts : List String) : List Move := texts.map fun text => .receive (.text text)

/-- Where nothing is read, a row of texts changes nothing. -/
theorem run_texts_of_not_reading (s : Session) (texts : List String)
    (h : ∀ c, s.active = some c → c.reading = false) : s.run (textMoves texts) = s := by
  induction texts with
  | nil => rfl
  | cons text texts ih =>
      have hstep : s.step (.receive (.text text)) = s := receive_of_not_reading s (.text text) h
      exact (congrArg (fun t => Session.run t (textMoves texts)) hstep).trans ih

/-- What a row of texts does to a connection that is read and listened to. It
    delivers the events of the row, and reading goes on unless a text refuses
    the call. -/
theorem active_run_texts (s : Session) (c : Connection) (hactive : s.active = some c)
    (hreading : c.reading = true) (hlistening : c.listening = true) (texts : List String) :
    ∃ d, (s.run (textMoves texts)).active = some d ∧
      d.delivered = c.delivered ++ Frame.events c.id texts ∧
      (d.reading = true ↔ ∀ text ∈ texts, ¬Frame.Refuses c.id text) := by
  induction texts generalizing s c with
  | nil =>
      exact ⟨c, hactive, (List.append_nil _).symm,
        iff_of_true hreading fun _ hmem => absurd hmem List.not_mem_nil⟩
  | cons text texts ih =>
      have hstep := active_receive_text s c hactive hreading text
      rw [hlistening] at hstep
      by_cases hrefuses : Frame.Refuses c.id text
      · -- From here on nothing is read.
        have houtcome := Frame.outcome_of_refuses c.id true c.call text hrefuses
        have hidle : s.run (textMoves (text :: texts)) = s.receive (.text text) := by
          refine run_texts_of_not_reading (s.receive (.text text)) texts fun d hd => ?_
          rcases Option.some.inj (hstep.symm.trans hd) with rfl
          rw [Connection.heard, houtcome]
          rfl
        refine ⟨_, (congrArg Session.active hidle).trans hstep, ?_, ?_⟩
        · rw [Connection.heard, Frame.delivered_handle,
            Frame.event?_of_refuses c.id text hrefuses,
            Frame.events_cons_of_refuses c.id text texts hrefuses]
          rfl
        · rw [Connection.heard, houtcome]
          exact iff_of_false Bool.false_ne_true fun h => h text List.mem_cons_self hrefuses
      · have houtcome := Frame.outcome_of_not_refuses c.id c.call text hrefuses
        have hread : (c.heard (Frame.handle c.id true c.call text)).reading = true := by
          rw [Connection.heard, houtcome]
          rfl
        rcases ih (s.receive (.text text)) _ hstep hread hlistening with ⟨d, hd, hevents, hreads⟩
        refine ⟨d, hd, ?_, ?_⟩
        · rw [hevents, Connection.heard, Frame.delivered_handle,
            Frame.events_cons_of_not_refuses c.id text texts hrefuses, List.append_assoc]
        · rw [hreads, List.forall_mem_cons]
          exact ⟨fun h => ⟨hrefuses, h⟩, fun h => h.2⟩

/-- The events that a row of texts delivers on a connection that is read and
    listened to, whatever request opened its call and whatever the texts are.

    The channel gets the events of those texts that are event frames with an
    event for data, in order and each once, up to the first text that refuses
    the call, and reading goes on exactly if there is none. Any other text is
    passed over: the outcome is to proceed, the recorded call stays what it is
    unless the text accepts the call, and without an event in it the text
    might as well not be there. -/
theorem events_of_texts (s : Session) (c : Connection) (hactive : s.active = some c)
    (hreading : c.reading = true) (hlistening : c.listening = true) (texts : List String) :
    (∃ d, (s.run (texts.map fun text => .receive (.text text))).active = some d ∧
        d.delivered = c.delivered ++
          (texts.takeWhile fun text => !decide (Frame.Refuses c.id text)).filterMap
            Frame.event? ∧
        (d.reading = true ↔ ∀ text ∈ texts, ¬Frame.Refuses c.id text)) ∧
      (∀ text, ¬Frame.Refuses c.id text → ∀ call,
        (Frame.handle c.id true call text).outcome = .proceed ∧
          (Frame.handle c.id true call text).delivered = Frame.event? text ∧
          ((∀ n, ¬Frame.Accepts c.id text n) → (Frame.handle c.id true call text).call = call)) ∧
      (∀ before text after, texts = before ++ text :: after → ¬Frame.Refuses c.id text →
        Frame.event? text = none →
        Frame.events c.id texts = Frame.events c.id (before ++ after)) := by
  refine ⟨active_run_texts s c hactive hreading hlistening texts,
    fun text hrefuses call => ⟨Frame.outcome_of_not_refuses c.id call text hrefuses,
      Frame.delivered_handle c.id call text, Frame.call_of_not_accepts c.id true call text⟩,
    fun before text after htexts hrefuses hevent => ?_⟩
  rw [htexts]
  exact Frame.events_insert c.id before after text hrefuses hevent

/-- An event, a reply to another request with an exception in it, an event
    whose count is too large, a second event, a refusal, and an event behind
    it. Two of the events are delivered. -/
theorem events_of_refused_texts :
    ∃ d, (Session.run
        { source := ⟨⟨⟨"ws"⟩, [], [], none, none, .segments [], none, none⟩, "simulator", none, 1⟩
          active := some (.opened 7 "simulator"), released := [], nextId := 8, notices := []
          logs := [] }
        (["\x7b\"type\":\"stream-events\",\"data\":[\"CREATED\",\"a\",\"4\"]\x7d",
          "\x7b\"type\":\"reply\",\"data\":\x7b\"replyTo\":6,\"exception\":null\x7d\x7d",
          "[\"stream-events\",7,[\"UPDATED\",\"a\",18446744073709551616]]",
          "[\"stream-events\",7,[\"RENAMED\",\"b\"]]",
          "\x7b\"data\":\x7b\"exception\":\"gone\"\x7d,\"type\":\"reply\"\x7d",
          "[\"stream-events\",7,[\"CREATED\",\"c\",1]]"].map
          fun text => .receive (.text text))).active = some d ∧
      d.delivered = [⟨.created, "a", 4⟩, ⟨.other "RENAMED", "b", 0⟩] := by
  have h := events_of_texts
    { source := ⟨⟨⟨"ws"⟩, [], [], none, none, .segments [], none, none⟩, "simulator", none, 1⟩
      active := some (.opened 7 "simulator"), released := [], nextId := 8, notices := []
      logs := [] }
    (.opened 7 "simulator") rfl rfl rfl
    ["\x7b\"type\":\"stream-events\",\"data\":[\"CREATED\",\"a\",\"4\"]\x7d",
      "\x7b\"type\":\"reply\",\"data\":\x7b\"replyTo\":6,\"exception\":null\x7d\x7d",
      "[\"stream-events\",7,[\"UPDATED\",\"a\",18446744073709551616]]",
      "[\"stream-events\",7,[\"RENAMED\",\"b\"]]",
      "\x7b\"data\":\x7b\"exception\":\"gone\"\x7d,\"type\":\"reply\"\x7d",
      "[\"stream-events\",7,[\"CREATED\",\"c\",1]]"]
  rcases h.1 with ⟨d, hd, hdelivered, _⟩
  refine ⟨d, hd, ?_⟩
  rw [hdelivered]
  decide +kernel

end Session

end Feed

end StreamRoster
