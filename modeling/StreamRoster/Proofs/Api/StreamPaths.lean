import StreamRoster.Proofs.Api.Surfaces
import StreamRoster.Proofs.Http.PercentText

/-!
# Streams by Their Paths

Each listed stream that has a name can be asked for by a path.

The name of a stream is any text, and a path is cut into segments and resolved
before a name is looked up. So the name is escaped first. Two things have to be
escaped for the name to come back, the percent signs and the slashes, and beside
these what a target refuses; `Percent.Covers` says so of a test. Whatever else is
escaped, the segment resolves to the name, it is one segment, and the path is a
target as it stands, with no query. From there on only `Route.nameOf?` of the
segment matters.

A stream whose name is empty is listed like any other and is answered over
WebSocket, but has no path: the empty segment matches no route, and the reply is
one without an answer in it.

## Main definitions

* `Percent.Covers`: A test that covers what is not itself in a segment.
* `Percent.isReserved`: The test that escapes as much as is allowed.
* `Route.streamPath`: The path of a stream.
* `Route.Fetches`: Whether a path fetches an item.

## Theorems

* `Percent.isPathChar_of_mem_encode`: An escaped text may stand in a path.
* `Percent.covers_isReserved`: Reserved characters are covered.
* `Target.parse_path`: A path is a target, unless it is too long.
* `Route.ofPath?_stem`: The routes behind the stem of the streams.
* `Route.nameOf?_encode`: An escaped name resolves to the name.
* `Route.fetches_of_name`: A segment that resolves to a name fetches its item.
* `Route.streams_of_paths`: Listed streams and their paths.
-/

namespace StreamRoster

open Json

/-! ### Escaped segments -/

namespace Percent

/-- A test that covers what is not itself in a segment of a path: percent signs,
    slashes, and what may not stand in a path. -/
structure Covers (escaped : Char → Bool) : Prop where
  sign : escaped '%' = true
  slash : escaped '/' = true
  kept : ∀ c, c.toNat < 0x80 → escaped c = false → Target.isPathChar c = true

/-- Whether a character of ASCII is reserved: neither a letter nor a digit nor one
    of the four marks that need no escape anywhere. -/
def isReserved (c : Char) : Bool := !(c.isAlphanum || c = '-' || c = '.' || c = '_' || c = '~')

theorem covers_isReserved : Covers isReserved := by
  have hall : ∀ n < 0x80, isReserved (Char.ofNat n) = false →
      Target.isPathChar (Char.ofNat n) = true := by
    decide
  exact ⟨by decide, by decide, Text.forall_ascii _ hall⟩

/-- The characters of an escape may stand in a path, and are no slashes. -/
theorem isPathChar_hexDigit : ∀ n < 16,
    Target.isPathChar (hexDigit n) = true ∧ hexDigit n ≠ '/' := by
  decide

theorem isPathChar_of_mem_encode (escaped : Char → Bool) (hcovers : Covers escaped)
    (s : List Char) (c : Char) (h : c ∈ encode escaped s) :
    Target.isPathChar c = true ∧ c ≠ '/' := by
  rcases mem_encode_cases escaped s c h with ⟨_, hascii, hkept⟩ | rfl | ⟨n, hn, rfl⟩
  · -- A slash would have been escaped.
    refine ⟨hcovers.kept c hascii hkept, fun hslash => ?_⟩
    rw [hslash, hcovers.slash] at hkept
    exact absurd hkept nofun
  · exact ⟨by decide, by decide⟩
  · exact isPathChar_hexDigit n hn

end Percent

/-- A path without a query is a target as it stands, unless it is too long. -/
theorem Target.parse_path (path : List Char) (hhead : path.head? = some '/')
    (h : ∀ c ∈ path, isPathChar c = true) :
    parse path = if maxLength < (Text.utf8 path).length then .error .tooLong
      else .ok ⟨none, [], path, none⟩ := by
  -- The marks that end a path may not stand in one, so nothing is cut off.
  have hmarks : ∀ c ∈ path, (!decide (c = '?' ∨ c = '#')) = true := by
    intro c hc
    rw [Bool.not_eq_true', decide_eq_false_iff_not]
    rintro (rfl | rfl)
    · exact absurd (h _ hc) (by decide)
    · exact absurd (h _ hc) (by decide)
  have hsplit : splitAt (fun c => c = '?' || c = '#') path = (path, []) := by
    simp only [splitAt, ← Bool.decide_or]
    rw [List.takeWhile_eq_self_iff.mpr hmarks, List.dropWhile_eq_nil_iff.mpr hmarks]
  have hall : path.all isPathChar = true := List.all_eq_true.mpr h
  rcases List.head?_eq_some_iff.mp hhead with ⟨rest, rfl⟩
  rw [parse]
  split_ifs with hlong
  · rfl
  · simp only [parsePath, hsplit, hall]
    rfl

namespace Route

/-! ### Routes -/

/-- The path of a stream, its name escaped. -/
def streamPath (escaped : Char → Bool) (name : String) : List Char :=
  streamStem ++ Percent.encode escaped name.toList

theorem isPathChar_stem : ∀ c ∈ streamStem, Target.isPathChar c = true :=
  List.all_eq_true.mp (by decide)

/-- The routes behind the stem of the streams: one for each segment that is not
    empty. The other paths are shorter than the stem. -/
theorem ofPath?_stem (segment : List Char) (hslash : '/' ∉ segment) :
    ofPath? (streamStem ++ segment) = if segment = [] then none else some (.stream segment) := by
  have hlong : ∀ word : List Char, word.length < streamStem.length →
      streamStem ++ segment ≠ word := by
    intro word hlt heq
    have hlength := congrArg List.length heq
    rw [List.length_append] at hlength
    omega
  have hcontains : segment.contains '/' = false := by
    rw [Bool.eq_false_iff, ne_eq, List.contains_iff_mem]
    exact hslash
  rw [ofPath?, if_neg (hlong _ (by decide)), if_neg (hlong _ (by decide)),
    if_neg (hlong _ (by decide)), List.take_left, if_pos rfl, List.drop_left]
  simp only [hcontains, Bool.or_false, List.isEmpty_iff]

theorem nameOf?_encode (escaped : Char → Bool) (hsign : escaped '%' = true) (name : String) :
    nameOf? (Percent.encode escaped name.toList) = some name := by
  rw [nameOf?, Percent.decode_encode_self escaped hsign, Text.ofUtf8?_utf8, Option.map_some,
    String.ofList_toList]

/-- Whether a path fetches an item: it is routed to a segment that resolves to the
    name, the reply is a success, and its body is read as an answer with the item
    for its data. -/
structure Fetches (snapshot : List Item) (path : List Char) (item : Item) : Prop where
  routed : ∃ segment, ofPath? path = some (.stream segment) ∧ nameOf? segment = some item.name
  reply : respond snapshot "GET" path = .ofJson 200 ((Response.ok item).json Item.json)
  read : readAll (tree topRoom) (String.ofList (respond snapshot "GET" path).body) =
    .ok (.object [("success", .boolean true), ("data", item.row), ("error", .null)])

/-- A segment that resolves to a name fetches the item that is found under it. -/
theorem fetches_of_name (snapshot : List Item) (segment : List Char) (item : Item)
    (hsegment : segment ≠ []) (hslash : '/' ∉ segment) (hname : nameOf? segment = some item.name)
    (hfound : Views.find snapshot item.name = .ok item) :
    Fetches snapshot (streamStem ++ segment) item := by
  have hroute : ofPath? (streamStem ++ segment) = some (.stream segment) := by
    rw [ofPath?_stem segment hslash, if_neg hsegment]
  have hreply : respond snapshot "GET" (streamStem ++ segment) =
      .ofJson 200 ((Response.ok item).json Item.json) := by
    simp only [respond, hroute, if_true, get, streamReply, hname, hfound]
    rfl
  refine ⟨⟨segment, hroute, hname⟩, hreply, ?_⟩
  rw [hreply]
  refine (congrArg (fun body => readAll (tree topRoom) (String.ofList body))
    (Response.json_eq Item.json Item.row (.ok item) Item.json_eq_row)).trans ?_
  exact readAll_json topRoom _ (Response.plain_toTree 126 Item.row _ (Item.plain_row 125))

/-- Listed streams and their paths. Whatever seeds and events a roster went
    through, an item that it lists is fetched by the path of its name, however
    much of the name is escaped, exactly if the name is not empty. The path of an
    empty name has no route, and gets a reply without an answer. Each of the paths
    is a target as it stands if it is not too long, and over WebSocket the item is
    answered in any case. -/
theorem streams_of_paths (steps : List Roster.Step) (item : Item)
    (hlisted : item ∈ (Roster.empty.run steps).snapshot) (escaped : Char → Bool)
    (hcovers : Percent.Covers escaped) :
    (Fetches (Roster.empty.run steps).snapshot (streamPath escaped item.name) item ↔
        item.name ≠ "") ∧
      (item.name = "" → ofPath? (streamPath escaped item.name) = none ∧
        respond (Roster.empty.run steps).snapshot "GET" (streamPath escaped item.name) =
          .bare 404) ∧
      Target.parse (streamPath escaped item.name) =
        (if Target.maxLength < (Text.utf8 (streamPath escaped item.name)).length then
          .error .tooLong
        else .ok ⟨none, [], streamPath escaped item.name, none⟩) ∧
      Request.reply (Roster.empty.run steps).snapshot
          (String.ofList (Request.getStream item.name).json) =
        ((Response.ok item).map Item.tree).json Tree.json := by
  have hconsistent := Roster.consistent_run Roster.empty steps Roster.consistent_empty
  have hfound : Views.find (Roster.empty.run steps).snapshot item.name = .ok item :=
    ((findsEntries_of_consistent _ hconsistent).found _ item).mpr
      ((mem_snapshot_iff _ hconsistent item).mp hlisted)
  have hslash : '/' ∉ Percent.encode escaped item.name.toList := fun hmem =>
    (Percent.isPathChar_of_mem_encode escaped hcovers _ _ hmem).2 rfl
  -- The escaped name is empty with the name, and then no route is left.
  have hnone (hempty : item.name = "") : ofPath? (streamPath escaped item.name) = none := by
    rw [streamPath, ofPath?_stem _ hslash, hempty]
    rfl
  have hname := nameOf?_encode escaped hcovers.sign item.name
  refine ⟨⟨fun hfetches hempty => ?_, fun hne => ?_⟩, fun hempty => ?_, ?_, ?_⟩
  · rcases hfetches.routed with ⟨segment, hroute, _⟩
    exact absurd (hroute.symm.trans (hnone hempty)) nofun
  · -- An empty segment resolves to the empty name, and this one to the name of the item.
    refine fetches_of_name _ _ item (fun hnil => hne ?_) hslash hname hfound
    rw [hnil] at hname
    exact (Option.some.inj hname).symm
  · refine ⟨hnone hempty, ?_⟩
    rw [respond, hnone hempty]
  · refine Target.parse_path _ rfl fun c hc => ?_
    rcases List.mem_append.mp hc with hstem | hc
    · exact isPathChar_stem c hstem
    · exact (Percent.isPathChar_of_mem_encode escaped hcovers _ c hc).1
  · simp only [Request.reply, Request.response, Request.read_json, Request.answer, hfound]

/-- A name with a slash, a percent sign, a mark and a letter beyond ASCII in it. -/
theorem streams_of_paths_of_divided_name :
    ⟨"50%/é?", 2⟩ ∈ (Roster.empty.run
        [.seed [⟨"tm", 1⟩], .event ⟨.created, "50%/é?", 2⟩]).snapshot ∧
      streamPath Percent.isReserved "50%/é?" = "/api/streams/50%25%2F%C3%A9%3F".toList ∧
      Fetches (Roster.empty.run [.seed [⟨"tm", 1⟩], .event ⟨.created, "50%/é?", 2⟩]).snapshot
        "/api/streams/50%25%2F%C3%A9%3F".toList ⟨"50%/é?", 2⟩ := by
  have hlisted : ⟨"50%/é?", 2⟩ ∈ (Roster.empty.run
      [.seed [⟨"tm", 1⟩], .event ⟨.created, "50%/é?", 2⟩]).snapshot :=
    (mem_snapshot_iff _ (Roster.consistent_run _ _ Roster.consistent_empty) _).mpr rfl
  have hpath : streamPath Percent.isReserved "50%/é?" =
      "/api/streams/50%25%2F%C3%A9%3F".toList := by
    decide +kernel
  refine ⟨hlisted, hpath, ?_⟩
  rw [← hpath]
  exact (streams_of_paths _ _ hlisted _ Percent.covers_isReserved).1.mpr (by decide)

/-- A stream without a name is listed and answered over WebSocket, but its path
    has no route. -/
theorem streams_of_paths_without_name :
    ⟨"", 3⟩ ∈ (Roster.empty.run [.event ⟨.created, "", 3⟩]).snapshot ∧
      streamPath Percent.isReserved "" = "/api/streams/".toList ∧
      ofPath? "/api/streams/".toList = none ∧
      respond (Roster.empty.run [.event ⟨.created, "", 3⟩]).snapshot "GET"
        "/api/streams/".toList = .bare 404 ∧
      Request.response (Roster.empty.run [.event ⟨.created, "", 3⟩]).snapshot
        "\x7b\"type\":\"GetStream\",\"name\":\"\"\x7d" = (Response.ok ⟨"", 3⟩).map Item.tree := by
  have hconsistent := Roster.consistent_run Roster.empty [.event ⟨.created, "", 3⟩]
    Roster.consistent_empty
  have hlisted : ⟨"", 3⟩ ∈ (Roster.empty.run [.event ⟨.created, "", 3⟩]).snapshot :=
    (mem_snapshot_iff _ hconsistent _).mpr rfl
  refine ⟨hlisted, rfl, by decide, rfl, ?_⟩
  have hfound : Views.find (Roster.empty.run [.event ⟨.created, "", 3⟩]).snapshot "" =
      .ok ⟨"", 3⟩ :=
    ((findsEntries_of_consistent _ hconsistent).found _ _).mpr rfl
  have hasked : readAll Request.read "\x7b\"type\":\"GetStream\",\"name\":\"\"\x7d" =
      .ok (.getStream "") := rfl
  simp only [Request.response, hasked, Request.answer, hfound]

end Route

end StreamRoster
