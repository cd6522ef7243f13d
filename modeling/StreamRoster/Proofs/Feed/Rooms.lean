import StreamRoster.Proofs.Config.Loading
import StreamRoster.Proofs.Feed.Calls
import StreamRoster.Proofs.Number.NaturalText
import StreamRoster.Proofs.Url.Endpoints

/-!
# Room for Events

How many events may wait for the consumer of a feed, from the configuration to
the channel.

A channel has room for at least one event, and for a limited number of them. The
lower limit is kept twice, by the check of a configuration and by the source. The
upper limit is kept by neither: what the variable may say is limited by 64 bits
alone (`Config.load_replaced_room`), and the room reaches the channel as it is.

Where the room is too great, a subscription breaks off when its channel is made,
behind the connection (`Session.breaks_off_iff`). It does so each time, so there
is never a connection in the slot of such a source, and none to be released.

## Main definitions

* `Config.replaceRoom`: An environment with another room.

## Theorems

* `Config.load_replaced_room`: Any number of 64 bits but zero is accepted.
* `Session.breaks_off_iff`: When a subscription breaks off.
* `Session.connections_of_run`: Without a channel there are no connections.
* `Session.rooms_of_config`: The room of a configuration.
* `Session.rooms_of_oversized_buffer`: One that is accepted and too great.
-/

namespace StreamRoster

namespace Config

/-- The environment in which the variable of the room has another text. -/
def replaceRoom (env : Environment) (text : String) : Environment := fun name =>
  if name = Setting.eventRoom.variableName then some text else env name

theorem readSize_of_written (text : String) (n : Nat) (h : Unsigned.Written text.toList n)
    (hn : n < 0x10000000000000000) : readSize text = .ok n := by
  rw [readSize, (Unsigned.read_eq_ok_iff _ _ n (by decide)).mpr ⟨h, hn⟩]

theorem path_replaceRoom (env : Environment) (text : String) :
    path (replaceRoom env text) = path env := by
  rw [path, path, replaceRoom, if_neg (by decide)]

theorem replaceRoom_of_ne (env : Environment) (text : String) (s : Setting)
    (h : s ≠ .eventRoom) : replaceRoom env text s.variableName = env s.variableName := by
  rw [replaceRoom, if_neg]
  cases s with
  | eventRoom => exact absurd rfl h
  | serverUrl | archiveUrl | inst | key | localAddress | seedFromArchive | logLevel | logFormat =>
      decide

theorem get_of_ne (c : Config) (n : Nat) (s : Setting) (h : s ≠ .eventRoom) :
    s.get { c with eventRoom := n } = s.get c := by
  cases s with
  | eventRoom => exact absurd rfl h
  | serverUrl | archiveUrl | inst | key | localAddress | seedFromArchive | logLevel | logFormat =>
      rfl

/-- Each room of 64 bits that is not zero is accepted in place of another one. -/
theorem load_replaced_room (env : Environment) (files : String → FileState) (c : Config)
    (h : load env files = .ok c) (text : String) (n : Nat)
    (htext : Unsigned.Written text.toList n) (hpos : 0 < n) (hn : n < 0x10000000000000000) :
    load (replaceRoom env text) files = .ok { c with eventRoom := n } := by
  rcases (load_eq_ok_iff env files c).mp h with ⟨entries, hfile, hvariables, hvalues, hvalid⟩
  have hread : Setting.eventRoom.ofText text = .ok n := readSize_of_written text n htext hn
  have hset : replaceRoom env text Setting.eventRoom.variableName = some text := if_pos rfl
  rw [← path_replaceRoom env text] at hfile
  -- Only the one variable is another, so every other setting is what it was.
  refine (load_eq_ok_iff _ files _).mpr ⟨entries, hfile, fun s hs => ?_, fun s => ?_, ?_⟩
  · by_cases hroom : s = .eventRoom
    · rw [hroom, Setting.variableFault?, hset]
      simp only [hread]
    · rw [Setting.variableFault?, replaceRoom_of_ne env text s hroom]
      exact hvariables s hs
  · by_cases hroom : s = .eventRoom
    · rw [hroom, Setting.value?, hset]
      exact congrArg Except.toOption hread
    · rw [Setting.value?, replaceRoom_of_ne env text s hroom, get_of_ne c n s hroom]
      exact hvalues s
  · rcases c.validate_eq_ok_iff.mp hvalid with ⟨feed, base, hfeed, hbase, hinst, _⟩
    exact (validate_eq_ok_iff _).mpr ⟨feed, base, hfeed, hbase, hinst, hpos⟩

end Config

namespace Feed

namespace Session

/-- A subscription that connects breaks off if the room of its source is more than
    a channel can have. -/
theorem breaks_off_iff (s : Session) :
    (s.subscribe .connects).2 = none ↔ s.active = none ∧
      (∃ request, s.source.request = .ok request) ∧ Source.greatestRoom < s.source.room := by
  have hrule := subscribes s .connects
  generalize s.subscribe .connects = result at hrule
  rcases result with ⟨t, answer⟩
  cases hrule with
  | refuse attempt hattempt hactive =>
      refine iff_of_false nofun fun h => ?_
      rw [h.1] at hactive
      exact absurd hactive nofun
  | misrequest attempt hattempt hactive fault hrequest =>
      refine iff_of_false nofun fun h => ?_
      rcases h.2.1 with ⟨request, hok⟩
      exact absurd (hrequest.symm.trans hok) nofun
  | connect hactive request hrequest hroom =>
      exact iff_of_false nofun fun h => absurd hroom (Nat.not_le.mpr h.2.2)
  | breakOff hactive request hrequest hroom =>
      exact iff_of_true rfl ⟨hactive, ⟨request, hrequest⟩, Nat.not_le.mp hroom⟩

/-- A source whose room is more than a channel can have opens no connection. -/
theorem opened_of_room (s : Session) (moves : List Move)
    (hroom : Source.greatestRoom < s.source.room) : s.opened moves = 0 := by
  induction moves generalizing s with
  | nil => rfl
  | cons m moves ih =>
      have hkept := source_of_step s _ m rfl
      -- A subscription without an error has made its channel.
      have hopens : s.opens m = false := by
        cases m with
        | subscribe attempt =>
            refine decide_eq_false fun hok => ?_
            exact absurd ((subscribe_ok_iff s attempt).mp hok).2.2.2 (Nat.not_le.mpr hroom)
        | receive | dropReceiver | unsubscribe | tend => rfl
      rw [opened, hopens, ih (s.step m) (hkept ▸ hroom)]
      rfl

/-- In no run of such a source there is a connection in the slot or behind it. -/
theorem connections_of_run (source : Source) (moves : List Move)
    (hroom : Source.greatestRoom < source.room) :
    ((start source).run moves).connections = [] := by
  have hids := ids_of_run (start source) moves (opened_of_room (start source) moves hroom)
  exact List.map_eq_nil_iff.mp hids

/-- The room of a configuration that is loaded. It is at least one, and its source
    has it as it is. At each moment of each run of the source, a subscription that
    connects breaks off just if the room is more than a channel can have, and where
    it is, there never is or was a connection. No check refuses such a room: any
    number of 64 bits is accepted in place of the one there is, apart from zero. -/
theorem rooms_of_config (env : Config.Environment) (files : String → Config.FileState)
    (c : Config) (h : Config.load env files = .ok c) :
    (∃ source, Source.ofConfig c = .ok source ∧ source.room = c.eventRoom ∧ 0 < source.room ∧
      ∀ moves,
        ((((start source).run moves).subscribe .connects).2 = none ↔
          ((start source).run moves).active = none ∧
            (∃ request, source.request = .ok request) ∧ Source.greatestRoom < source.room) ∧
        (Source.greatestRoom < source.room → ((start source).run moves).connections = [])) ∧
    ∀ text n, Unsigned.Written text.toList n → 0 < n → n < 0x10000000000000000 →
      Config.load (Config.replaceRoom env text) files = .ok { c with eventRoom := n } := by
  rcases (Config.load_eq_ok_iff env files c).mp h with ⟨_, _, hmerges⟩
  rcases c.validate_eq_ok_iff.mp hmerges.valid with ⟨_, _, _, _, _, hpos⟩
  rcases Url.exists_ofConfig c hmerges.valid with ⟨source, hsource, _, hroom⟩
  refine ⟨⟨source, hsource, hroom, hroom ▸ hpos, fun moves => ⟨?_, ?_⟩⟩,
    Config.load_replaced_room env files c h⟩
  · have hbreaks := breaks_off_iff ((start source).run moves)
    rw [(numbered_run source moves).kept] at hbreaks
    exact hbreaks
  · exact connections_of_run source moves

/-- The greatest room of a channel is accepted and taken, and the greatest number
    of 64 bits is accepted as well. -/
theorem rooms_of_greatest_buffer :
    ∃ c source, Config.load (Config.replaceRoom (fun _ => none) "2305843009213693951")
        (fun _ => .absent) = .ok c ∧
      Source.ofConfig c = .ok source ∧ source.room = Source.greatestRoom ∧
      ((start source).subscribe .connects).2 ≠ none ∧
      Config.load (Config.replaceRoom
        (Config.replaceRoom (fun _ => none) "2305843009213693951") "18446744073709551615")
        (fun _ => .absent) = .ok { c with eventRoom := 18446744073709551615 } := by
  have hload := Config.load_replaced_room (fun _ => none) (fun _ => .absent) Config.default
    Config.load_default "2305843009213693951" 2305843009213693951
    (Unsigned.written_digits _ _ (by decide) (by decide) rfl) (by decide) (by decide)
  rcases rooms_of_config _ _ _ hload with ⟨⟨source, hsource, hroom, _, hruns⟩, hreplaced⟩
  refine ⟨_, source, hload, hsource, hroom, fun hbreaks => ?_, hreplaced "18446744073709551615" _
    (Unsigned.written_digits _ _ (by decide) (by decide) rfl) (by decide) (by decide)⟩
  have hgreat := ((hruns []).1.mp hbreaks).2.2
  rw [hroom] at hgreat
  exact absurd hgreat (Nat.lt_irrefl _)

/-- A room with one more place than a channel can have is accepted, and the
    subscription breaks off behind the connection. -/
theorem rooms_of_oversized_buffer :
    ∃ c source, Config.load (Config.replaceRoom (fun _ => none) "2305843009213693952")
        (fun _ => .absent) = .ok c ∧
      Source.ofConfig c = .ok source ∧ source.room = Source.greatestRoom + 1 ∧
      (start source).subscribe .connects =
        (((start source).notify .connecting).notify .connected, none) := by
  have hload := Config.load_replaced_room (fun _ => none) (fun _ => .absent) Config.default
    Config.load_default "2305843009213693952" 2305843009213693952
    (Unsigned.written_digits _ _ (by decide) (by decide) rfl) (by decide) (by decide)
  have hmade : ((Source.ofConfig { Config.default with eventRoom := 2305843009213693952 }
      ).toOption.map fun source => (source.room, source.request.toOption.isSome)) =
        some (2305843009213693952, true) := by decide +kernel
  cases hsource : Source.ofConfig { Config.default with eventRoom := 2305843009213693952 } with
  | error fault =>
      rw [hsource] at hmade
      cases hmade
  | ok source =>
      rw [hsource] at hmade
      rcases Prod.mk.inj (Option.some.inj hmade) with ⟨hroom, hmakes⟩
      refine ⟨_, source, hload, hsource, hroom, ?_⟩
      have hkept : ((start source).notify .connecting).source = source := rfl
      have hgreat : ¬source.room ≤ Source.greatestRoom := by
        rw [hroom]
        decide
      cases hrequest : source.request with
      | error fault =>
          rw [hrequest] at hmakes
          cases hmakes
      | ok request =>
          simp only [subscribe, hkept, hrequest, if_neg hgreat]
          rfl

end Session

end Feed

end StreamRoster
