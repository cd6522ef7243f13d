import Mathlib.Data.List.Nodup
import StreamRoster.Proofs.Feed.Moves

/-!
# The Row of Connections

The connections of a source, one after the other, and what may become of each.

`connections` puts the connections that have left the slot and the one in it
into one row, in the order in which they were opened. A connection never leaves
its place in the row, and emptying the slot does not move it either. So a move
does one of two things to the row. It adds a connection at the end, which only a
subscription does that succeeds, or it leaves the length alone and changes one
connection at most. `row_of_step` says so, and nothing in this module looks at a
single kind of move again.

What a change may do to a connection is `Grows`. It is the same for reading,
for taking leave, for sending and for giving up: nothing is taken back that was
sent, a connection that is no longer read stays unread, and a writer that has
ended stays as it is. `Grows` can be chained, so it holds between any moment and
any later one.

`opened` counts the subscriptions that succeed, and it looks at nothing but their
answers. That the numbers of the row are the first so many naturals is then one
equation, kept by every move.

## Main definitions

* `connections`: The connections of a source in the order of their opening.
* `opened`: How many subscriptions of a run succeeded.
* `callNumbers`: The first few call numbers.
* `Disturbed`: Whether something ends a writer too early.
* `Connection.Grows`: What later moves may make of a connection.
* `Numbered`: How the numbers of the calls go with the subscriptions.

## Theorems

* `row_of_step`: What a move does to the row.
* `grows_run`: What a run does to a connection in the row.
* `sound_run`: Undisturbed writers run or have closed.
* `ids_of_step`, `ids_of_run`: A move adds a number to the row or leaves the
  numbers alone.
* `numbered_run`: Every run numbers its calls in order.
* `held_run`: A connection stays in the slot until it is released.
* `empty_run`: The slot stays empty until a subscription succeeds.
-/

namespace StreamRoster

namespace Feed

namespace Session

/-! ### Places -/

/-- The connections of a source in the order in which they were opened. -/
def connections (s : Session) : List Connection :=
  s.released.map Release.connection ++ s.active.toList

/-- The numbers of the calls of a source, in the same order. -/
def ids (s : Session) : List UInt32 := s.connections.map Connection.id

theorem connections_of_active (s : Session) (c : Connection) (hactive : s.active = some c) :
    s.connections = s.released.map Release.connection ++ [c] := by
  rw [connections, hactive, Option.toList_some]

theorem connections_of_inactive (s : Session) (hactive : s.active = none) :
    s.connections = s.released.map Release.connection := by
  rw [connections, hactive, Option.toList_none, List.append_nil]

/-- A connection that is released keeps its place. -/
theorem connections_released (s : Session) (place : Nat) (r : Release)
    (h : s.released[place]? = some r) : s.connections[place]? = some r.connection := by
  rcases List.getElem?_eq_some_iff.mp h with ⟨hplace, _⟩
  rw [connections, List.getElem?_append_left (by rwa [List.length_map]), List.getElem?_map, h]
  rfl

/-- The connection in the slot has the place behind those that are released. -/
theorem connections_slot (s : Session) (c : Connection) (hactive : s.active = some c) :
    s.connections[s.released.length]? = some c := by
  have hlength : s.released.length = (s.released.map Release.connection).length :=
    (List.length_map _).symm
  rw [connections_of_active s c hactive, hlength, List.getElem?_concat_length]

/-- Another connection in the slot is another one at that place. -/
theorem set_slot (s : Session) (c d : Connection) (hactive : s.active = some c) :
    s.released.map Release.connection ++ [d] = s.connections.set s.released.length d := by
  rw [connections_of_active s c hactive,
    List.set_append_right _ _ (Nat.le_of_eq (List.length_map _)), List.length_map, Nat.sub_self,
    List.set_cons_zero]

/-- Another connection that is released is another one at its place. -/
theorem set_released (s : Session) (place : Nat) (r r' : Release)
    (h : s.released[place]? = some r) :
    (s.released.set place r').map Release.connection ++ s.active.toList =
      s.connections.set place r'.connection := by
  rcases List.getElem?_eq_some_iff.mp h with ⟨hplace, _⟩
  rw [connections, List.set_append_left _ _ (by rwa [List.length_map]), List.map_set]

/-! ### What becomes of a connection -/

/-- Whether one of some moves ends the writer of a connection before its close,
    if it runs. -/
def Disturbed (place : Nat) (moves : List Move) : Prop :=
  ∃ duty : Duty, .tend place duty ∈ moves ∧ duty.disturbs = true

theorem disturbed_cons (place : Nat) (m : Move) (moves : List Move)
    (h : Disturbed place [m] ∨ Disturbed place moves) : Disturbed place (m :: moves) := by
  rcases h with ⟨duty, hmem, hdisturbs⟩ | ⟨duty, hmem, hdisturbs⟩
  · exact ⟨duty, List.mem_cons.mpr (Or.inl (List.mem_singleton.mp hmem)), hdisturbs⟩
  · exact ⟨duty, List.mem_cons_of_mem m hmem, hdisturbs⟩

theorem disturbed_append (place : Nat) (moves later : List Move)
    (h : Disturbed place moves ∨ Disturbed place later) : Disturbed place (moves ++ later) := by
  rcases h with ⟨duty, hmem, hdisturbs⟩ | ⟨duty, hmem, hdisturbs⟩
  · exact ⟨duty, List.mem_append_left later hmem, hdisturbs⟩
  · exact ⟨duty, List.mem_append_right moves hmem, hdisturbs⟩

end Session

/-- What later moves may make of a connection, and of its writer unless that was
    disturbed. -/
structure Connection.Grows (disturbed : Prop) (c d : Connection) : Prop where
  id : d.id = c.id
  /-- Where nothing is read, nothing is delivered and no call is recorded. -/
  idle : c.reading = false → d.reading = false ∧ d.delivered = c.delivered ∧ d.call = c.call
  sent : c.sent <+: d.sent
  ended : c.writer.phase ≠ .running → d.writer = c.writer
  sound : ¬disturbed → c.writer.Sound → d.writer.Sound

namespace Connection

theorem grows_refl (disturbed : Prop) (c : Connection) : c.Grows disturbed c where
  id := rfl
  idle hidle := ⟨hidle, rfl, rfl⟩
  sent := List.prefix_rfl
  ended _ := rfl
  sound _ hsound := hsound

theorem Grows.trans {first second whole : Prop} {c d e : Connection} (h : c.Grows first d)
    (hlater : d.Grows second e) (hwhole : first ∨ second → whole) : c.Grows whole e where
  id := hlater.id.trans h.id
  idle hidle := by
    rcases h.idle hidle with ⟨hd, hdelivered, hcall⟩
    rcases hlater.idle hd with ⟨he, hsame, hkept⟩
    exact ⟨he, hsame.trans hdelivered, hkept.trans hcall⟩
  sent := h.sent.trans hlater.sent
  ended hended := by
    have hd := h.ended hended
    exact (hlater.ended (hd ▸ hended)).trans hd
  sound hcalm hsound :=
    hlater.sound (fun hsecond => hcalm (hwhole (Or.inr hsecond)))
      (h.sound (fun hfirst => hcalm (hwhole (Or.inl hfirst))) hsound)

theorem Grows.mono {disturbed more : Prop} {c d : Connection} (h : c.Grows disturbed d)
    (hmore : disturbed → more) : c.Grows more d where
  id := h.id
  idle := h.idle
  sent := h.sent
  ended := h.ended
  sound hcalm := h.sound fun hdisturbed => hcalm (hmore hdisturbed)

/-- Reading may change all but the number and the writer. -/
theorem grows_of_read (disturbed : Prop) (c d : Connection) (hid : d.id = c.id)
    (hwriter : d.writer = c.writer)
    (hidle : c.reading = false →
      d.reading = false ∧ d.delivered = c.delivered ∧ d.call = c.call) : c.Grows disturbed d where
  id := hid
  idle := hidle
  sent := by
    have hsent : d.sent = c.sent := congrArg Writer.sent hwriter
    exact hsent ▸ List.prefix_rfl
  ended _ := hwriter
  sound _ hsound := hwriter ▸ hsound

theorem grows_of_hand (disturbed : Prop) (c : Connection) (m : ClientMessage) :
    c.Grows disturbed { c with writer := c.writer.hand m } where
  id := rfl
  idle hidle := ⟨hidle, rfl, rfl⟩
  sent := by
    have hsent : (c.writer.hand m).sent = c.sent := c.writer.sent_hand m
    exact (congrArg (c.sent <+: ·) hsent).mpr List.prefix_rfl
  ended hended := c.writer.hand_of_ended m hended
  sound _ hsound := by
    rw [Writer.Sound, Writer.phase_hand]
    exact hsound

theorem grows_of_writes (c : Connection) (sending : Sending) (writer : Writer)
    (h : c.writer.Writes sending writer) :
    c.Grows ((Duty.write sending).disturbs = true) { c with writer } where
  id := rfl
  idle hidle := ⟨hidle, rfl, rfl⟩
  sent := c.writer.sent_prefix_writes writer sending h
  ended hended := c.writer.eq_of_writes_of_ended writer sending h hended
  sound hcalm hsound := by
    cases sending with
    | goesOut => exact c.writer.sound_writes writer h hsound
    | fails | breaksDown => exact absurd rfl hcalm

theorem grows_leave (disturbed : Prop) (c : Connection) :
    c.Grows disturbed c.leave.1.connection := by
  have hunread : c.Grows disturbed { c with reading := false } :=
    grows_of_read disturbed c _ rfl rfl fun _ => ⟨rfl, rfl, rfl⟩
  rw [leave_eq]
  cases hcall : c.call with
  | none =>
      rw [hcall] at hunread
      exact hunread
  | some call =>
      rw [hcall] at hunread
      exact hunread.trans (grows_of_hand disturbed _ (.cancel call)) or_self_iff.mp

end Connection

theorem Release.grows_tends (r r' : Release) (duty : Duty) (h : r.Tends duty r') :
    r.connection.Grows (duty.disturbs = true) r'.connection := by
  cases h with
  | waits | ends | isFinished | stays => exact r.connection.grows_refl _
  | writes sending writer hwrites => exact r.connection.grows_of_writes sending writer hwrites
  | closes => exact r.connection.grows_of_hand _ .close
  | expires hstage hrunning =>
      exact ⟨rfl, fun hidle => ⟨hidle, rfl, rfl⟩, List.prefix_rfl,
        fun hended => absurd hrunning hended, fun hcalm => absurd rfl hcalm⟩

namespace Session

/-- Only the connection at one place of a row is changed. -/
theorem exists_grown_set (row : List Connection) (place : Nat) (c d : Connection)
    (disturbed : Nat → Prop) (hc : row[place]? = some c) (h : c.Grows (disturbed place) d)
    (n : Nat) (e : Connection) (he : row[n]? = some e) :
    ∃ e', (row.set place d)[n]? = some e' ∧ e.Grows (disturbed n) e' := by
  by_cases hn : place = n
  · rw [hn] at hc h
    rcases Option.some.inj (hc.symm.trans he) with rfl
    rcases List.getElem?_eq_some_iff.mp he with ⟨hlength, _⟩
    exact ⟨d, by rw [hn, List.getElem?_set_self hlength], h⟩
  · exact ⟨e, by rw [List.getElem?_set_ne hn, he], e.grows_refl _⟩

/-- A move adds a connection with the next number to the row, or it changes one
    connection of the row at most. -/
theorem row_of_step (s t : Session) (m : Move) (h : s.step m = t) :
    (s.opens m = true ∧ t.nextId = s.nextId + 1 ∧
        t.connections = s.connections ++ [.opened s.nextId s.source.inst]) ∨
      (s.opens m = false ∧ t.nextId = s.nextId ∧ t.connections.length = s.connections.length ∧
        ∀ (n : Nat) (c : Connection), s.connections[n]? = some c →
          ∃ d, t.connections[n]? = some d ∧ c.Grows (Disturbed n [m]) d) := by
  -- Each move but an opening puts one connection in the place of another.
  have hset (place : Nat) (c d : Connection) (hopens : s.opens m = false)
      (hnext : t.nextId = s.nextId) (hc : s.connections[place]? = some c)
      (hd : c.Grows (Disturbed place [m]) d)
      (hrow : t.connections = s.connections.set place d) :
      s.opens m = false ∧ t.nextId = s.nextId ∧ t.connections.length = s.connections.length ∧
        ∀ (n : Nat) (c : Connection), s.connections[n]? = some c →
          ∃ d, t.connections[n]? = some d ∧ c.Grows (Disturbed n [m]) d := by
    rw [hrow]
    exact ⟨hopens, hnext, List.length_set,
      exists_grown_set s.connections place c d (fun n => Disturbed n [m]) hc hd⟩
  cases turns_of_step s t m h with
  | keep m notices logs hopens =>
      exact Or.inr ⟨hopens, rfl, rfl, fun n c hc => ⟨c, hc, c.grows_refl _⟩⟩
  | read m c d notices logs hactive hid hwriter hidle hopens =>
      exact Or.inr (hset _ c d hopens rfl (connections_slot s c hactive)
        (Connection.grows_of_read _ c d hid hwriter hidle) (set_slot s c d hactive))
  | connect m notices logs hactive hopens =>
      refine Or.inl ⟨hopens, rfl, ?_⟩
      rw [connections_of_inactive s hactive]
      rfl
  | release c logs hactive =>
      refine Or.inr (hset _ c _ rfl rfl (connections_slot s c hactive) (c.grows_leave _) ?_)
      rw [connections_of_inactive _ rfl, List.map_append, ← set_slot s c _ hactive]
      rfl
  | write sending c writer logs hactive hwrites =>
      refine Or.inr (hset _ c _ rfl rfl (connections_slot s c hactive)
        ((c.grows_of_writes sending writer hwrites).mono fun hdisturbs => ?_)
        (set_slot s c _ hactive))
      exact ⟨_, List.mem_singleton_self _, hdisturbs⟩
  | tend place duty r r' logs hplace htends =>
      refine Or.inr (hset place _ _ rfl rfl (connections_released s place r hplace)
        ((r.grows_tends r' duty htends).mono fun hdisturbs => ?_)
        (set_released s place r r' hplace))
      exact ⟨duty, List.mem_singleton_self _, hdisturbs⟩

/-! ### Along a run -/

/-- How many subscriptions of a run succeeded. -/
def opened : Session → List Move → Nat
  | _, [] => 0
  | s, m :: moves => (s.opens m).toNat + opened (s.step m) moves

theorem opened_append (s : Session) (moves later : List Move) :
    s.opened (moves ++ later) = s.opened moves + (s.run moves).opened later := by
  induction moves generalizing s with
  | nil => exact (Nat.zero_add _).symm
  | cons m moves ih =>
      rw [List.cons_append, opened, opened, ih, Nat.add_assoc]
      rfl

theorem opened_concat (s : Session) (moves : List Move) (m : Move) :
    s.opened (moves ++ [m]) = s.opened moves + ((s.run moves).opens m).toNat :=
  opened_append s moves [m]

/-- A connection keeps its place in the row, whatever happens to it there. -/
theorem grows_step (s : Session) (m : Move) (n : Nat) (c : Connection)
    (hc : s.connections[n]? = some c) :
    ∃ d, (s.step m).connections[n]? = some d ∧ c.Grows (Disturbed n [m]) d := by
  rcases row_of_step s _ m rfl with ⟨_, _, hrow⟩ | ⟨_, _, _, hrow⟩
  · rcases List.getElem?_eq_some_iff.mp hc with ⟨hn, _⟩
    exact ⟨c, by rw [hrow, List.getElem?_append_left hn, hc], c.grows_refl _⟩
  · exact hrow n c hc

theorem grows_run (s : Session) (moves : List Move) (n : Nat) (c : Connection)
    (hc : s.connections[n]? = some c) :
    ∃ d, (s.run moves).connections[n]? = some d ∧ c.Grows (Disturbed n moves) d := by
  induction moves generalizing s c with
  | nil => exact ⟨c, hc, c.grows_refl _⟩
  | cons m moves ih =>
      rcases grows_step s m n c hc with ⟨d, hd, hfirst⟩
      rcases ih (s.step m) d hd with ⟨e, he, hlater⟩
      exact ⟨e, he, hfirst.trans hlater (disturbed_cons n m moves)⟩

/-- A writer that nothing has disturbed runs or has closed. The induction adds a
    move at the end, which opens the connection or finds it there. -/
theorem sound_run (s : Session) (moves : List Move) (hempty : s.connections = []) (n : Nat)
    (c : Connection) (hc : (s.run moves).connections[n]? = some c)
    (hcalm : ¬Disturbed n moves) : c.writer.Sound := by
  induction moves using List.reverseRecOn generalizing c with
  | nil =>
      rw [run, List.foldl_nil, hempty] at hc
      cases hc
  | append_singleton moves m ih =>
      have hbefore : ¬Disturbed n moves := fun h => hcalm (disturbed_append n moves [m] (Or.inl h))
      have hlast : ¬Disturbed n [m] := fun h => hcalm (disturbed_append n moves [m] (Or.inr h))
      rw [run_concat] at hc
      cases hold : (s.run moves).connections[n]? with
      | some b =>
          rcases grows_step _ m n b hold with ⟨d, hd, hgrows⟩
          rcases Option.some.inj (hc.symm.trans hd) with rfl
          exact hgrows.sound hlast (ih b hold hbefore)
      | none =>
          -- There was nothing at the place, so the last move has opened a connection.
          rw [List.getElem?_eq_none_iff] at hold
          rcases row_of_step (s.run moves) _ m rfl with ⟨_, _, hrow⟩ | ⟨_, _, hlength, _⟩
          · rw [hrow, List.getElem?_append_right hold] at hc
            have hnew := List.mem_singleton.mp (List.mem_of_getElem? hc)
            rw [hnew]
            exact Or.inl rfl
          · rw [← hlength, ← List.getElem?_eq_none_iff, hc] at hold
            cases hold

/-! ### Numbers -/

/-- The first few call numbers. They start over behind the largest one. -/
def callNumbers (n : Nat) : List UInt32 := (List.range n).map fun k => UInt32.ofNat (k + 1)

theorem callNumbers_succ (n : Nat) :
    callNumbers (n + 1) = callNumbers n ++ [UInt32.ofNat (n + 1)] := by
  rw [callNumbers, List.range_succ, List.map_append]
  rfl

/-- Fewer numbers than there are words of 32 bits are all different. -/
theorem nodup_callNumbers (n : Nat) (h : n < UInt32.size) : (callNumbers n).Nodup := by
  refine List.Nodup.map_on ?_ List.nodup_range
  intro j hj k hk heq
  rw [List.mem_range] at hj hk
  have hnat := congrArg UInt32.toNat heq
  rw [UInt32.toNat_ofNat', UInt32.toNat_ofNat'] at hnat
  rw [UInt32.size] at h
  omega

/-- A move adds the next number to the row if it opens a connection, and
    leaves the numbers alone otherwise. -/
theorem ids_of_step (s t : Session) (m : Move) (h : s.step m = t) :
    (s.opens m = true ∧ t.ids = s.ids ++ [s.nextId] ∧ t.nextId = s.nextId + 1) ∨
      (s.opens m = false ∧ t.ids = s.ids ∧ t.nextId = s.nextId) := by
  rcases row_of_step s t m h with ⟨hopens, hnext, hrow⟩ | ⟨hopens, hnext, hlength, hrow⟩
  · refine Or.inl ⟨hopens, ?_, hnext⟩
    rw [ids, hrow, List.map_append]
    rfl
  · refine Or.inr ⟨hopens, List.ext_getElem? fun n => ?_, hnext⟩
    rw [ids, ids, List.getElem?_map, List.getElem?_map]
    cases hc : s.connections[n]? with
    | some c =>
        rcases hrow n c hc with ⟨d, hd, hgrows⟩
        rw [hd, Option.map_some, Option.map_some, hgrows.id]
    | none =>
        rw [List.getElem?_eq_none_iff, ← hlength, ← List.getElem?_eq_none_iff] at hc
        rw [hc]

theorem ids_of_run (s : Session) (moves : List Move) (hone : s.opened moves = 0) :
    (s.run moves).connections.map Connection.id = s.connections.map Connection.id := by
  induction moves generalizing s with
  | nil => rfl
  | cons m moves ih =>
      rw [opened, Nat.add_eq_zero_iff, Bool.toNat_eq_zero] at hone
      refine (ih (s.step m) hone.2).trans ?_
      rcases ids_of_step s _ m rfl with ⟨hopens, _⟩ | ⟨_, hids, _⟩
      · exact absurd (hone.1.symm.trans hopens) Bool.false_ne_true
      · exact hids

/-- How the numbers of the calls go with the subscriptions that succeeded. -/
structure Numbered (source : Source) (moves : List Move) (s : Session) : Prop where
  kept : s.source = source
  ids : s.ids = callNumbers ((start source).opened moves)
  next : s.nextId = UInt32.ofNat ((start source).opened moves + 1)

theorem numbered_run (source : Source) (moves : List Move) :
    Numbered source moves ((start source).run moves) := by
  induction moves using List.reverseRecOn with
  | nil => exact ⟨rfl, rfl, rfl⟩
  | append_singleton moves m ih =>
      rw [run_concat]
      have hcount := opened_concat (start source) moves m
      refine ⟨(source_of_step _ _ m rfl).trans ih.kept, ?_, ?_⟩
      · rcases ids_of_step _ _ m rfl with ⟨hopens, hids, _⟩ | ⟨hopens, hids, _⟩
        · rw [hopens] at hcount
          rw [hids, hcount, ih.ids, ih.next]
          exact (callNumbers_succ _).symm
        · rw [hopens] at hcount
          rw [hids, hcount, ih.ids]
          rfl
      · rcases ids_of_step _ _ m rfl with ⟨hopens, _, hnext⟩ | ⟨hopens, _, hnext⟩
        · rw [hopens] at hcount
          rw [hnext, hcount, ih.next]
          exact (UInt32.ofNat_add _ 1).symm
        · rw [hopens] at hcount
          rw [hnext, hcount, ih.next]
          rfl

/-! ### The slot -/

/-- A connection stays in the slot until it is released, nothing more is meant for
    its writer, and no other connection is opened in the meantime. -/
theorem held_run (s : Session) (moves : List Move) (c : Connection) (hactive : s.active = some c)
    (hmoves : .unsubscribe ∉ moves) :
    ∃ d, (s.run moves).active = some d ∧ d.id = c.id ∧
      (∀ words, c.writer.Accounted words → d.writer.Accounted words) ∧
      (s.run moves).released.length = s.released.length ∧ s.opened moves = 0 := by
  induction moves generalizing s c with
  | nil => exact ⟨c, hactive, rfl, fun _ h => h, rfl, rfl⟩
  | cons m moves ih =>
      rw [List.mem_cons, not_or] at hmoves
      rcases hmoves with ⟨hm, hmoves⟩
      have hkeep : ∃ d, (s.step m).active = some d ∧ d.id = c.id ∧
          (∀ words, c.writer.Accounted words → d.writer.Accounted words) ∧
          (s.step m).released.length = s.released.length ∧ s.opens m = false := by
        -- Of the turns a step can take, only a release empties the slot.
        generalize hstep : s.step m = t
        cases turns_of_step s t m hstep with
        | keep m notices logs hopens => exact ⟨c, hactive, rfl, fun _ h => h, rfl, hopens⟩
        | read m b d notices logs hb hid hwriter _ hopens =>
            rcases Option.some.inj (hactive.symm.trans hb) with rfl
            exact ⟨d, rfl, hid, fun _ h => hwriter ▸ h, rfl, hopens⟩
        | connect m notices logs hempty hopens => exact absurd (hactive.symm.trans hempty) nofun
        | release b logs hb => exact absurd rfl hm
        | write sending b writer logs hb hwrites =>
            rcases Option.some.inj (hactive.symm.trans hb) with rfl
            have hwords (words : List ClientMessage) (h : c.writer.Accounted words) :
                writer.Accounted words :=
              Writer.accounted_writes words c.writer writer sending h hwrites
            exact ⟨_, rfl, rfl, hwords, rfl, rfl⟩
        | tend => exact ⟨c, hactive, rfl, fun _ h => h, List.length_set, rfl⟩
      rcases hkeep with ⟨d, hd, hid, hwords, hreleased, hopens⟩
      rcases ih (s.step m) d hd hmoves with ⟨e, he, heid, hewords, hereleased, hnone⟩
      refine ⟨e, he, heid.trans hid, fun words h => hewords words (hwords words h),
        hereleased.trans hreleased, ?_⟩
      rw [opened, hopens, hnone]
      rfl

/-- An empty slot stays empty until a subscription succeeds. -/
theorem empty_run (s : Session) (moves : List Move) (hactive : s.active = none)
    (hopened : s.opened moves = 0) : (s.run moves).active = none := by
  induction moves generalizing s with
  | nil => exact hactive
  | cons m moves ih =>
      rw [opened, Nat.add_eq_zero_iff] at hopened
      rcases hopened with ⟨hm, hmoves⟩
      refine ih (s.step m) ?_ hmoves
      generalize hstep : s.step m = t
      cases turns_of_step s t m hstep with
      | keep | tend => exact hactive
      | read m c d notices logs hc => exact absurd (hactive.symm.trans hc) nofun
      | connect m notices logs _ hopens =>
          rw [hopens] at hm
          exact absurd hm Nat.one_ne_zero
      | release c logs hc => exact absurd (hactive.symm.trans hc) nofun
      | write sending c writer logs hc => exact absurd (hactive.symm.trans hc) nofun

end Session

end Feed

end StreamRoster
