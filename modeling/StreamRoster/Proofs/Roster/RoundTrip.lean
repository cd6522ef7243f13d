import StreamRoster.Proofs.Json.Records
import StreamRoster.Proofs.Json.Written

/-!
# What the Roster Exchanges, Read Back

Items, events, parameters and the answers to list requests are read back as they
were written. For the types without a choice of spelling that is one chain of
filled places each; what there is to say about strings and naturals is said in
`Proofs.Json.Rereading`.

The kind of an event is different. A tag is kept as it is if it is not known, so
a kind can be built that no tag stands for: an unknown tag that is `CREATED`. It
would be read back as another kind. `EventKind.Plain` excludes it, and every kind
that was read is plain (`Event.plain_of_read`). Hence an event that was read may
be written and read again. Its tag comes through unchanged, which is said about
the two texts: `Event.TagIn` is the string that stands in a text where an event
has its kind.

## Main definitions

* `EventKind.Plain`: A kind that some tag stands for.
* `Event.TagIn`: The tag in the text of an event.

## Theorems

* `Item.read_json`, `Response.read_json`, `Parameter.read_json`,
  `Event.read_json`: What is written is read back.
* `Event.tagIn_iff`: The tag in a text is the one that is written.
* `Event.plain_of_read`: A kind that was read is plain.
* `streams_read_back`: All of this together.
-/

namespace StreamRoster

open Json

/-! ### Counts -/

theorem Count.ofTree_toNat (count : UInt64) :
    Count.ofTree (.number (.integer count.toNat)) = .ok count :=
  congrArg Except.ok UInt64.ofNat_toNat

theorem Count.read_written (room : Nat) (count : UInt64) :
    Count.read room (writeNat count.toNat) = .ok (count, []) := by
  have hnumber : (Tree.number (.integer count.toNat)).json = writeNat count.toNat :=
    json_integer count.toNat
  rw [← hnumber, Count.read, tree_json room _ (Plain.number room _ (UInt64.toNat_lt count)),
    ok_bind]
  simp only [Count.ofTree_toNat]

/-! ### Items -/

namespace Item

theorem read_json (room : Nat) (item : Item) : read (room + 1) item.json = .ok (item, []) := by
  refine Record.read_filled record lawful.oneValue room _ ⟨some item.name, some item.count⟩ item
    ?_ rfl
  refine Record.Filled.set slots room _ _ nameSlot item.name _ _ rfl rfl (anyText_written _) ?_
  refine Record.Filled.set slots room _ _ countSlot item.count _ _ rfl rfl
    (Count.read_written room _) ?_
  exact Record.Filled.nil _

theorem opens_json (item : Item) : Opens item.json :=
  ⟨'\x7b', _, rfl, rfl, by decide⟩

end Item

/-- The answer to a list request is read back. -/
theorem Response.read_json (room : Nat) (r : Response (List Item)) :
    read (room + 3) (r.json Item.listJson) = .ok (r, []) := by
  have hitems : ∀ items ∈ r.data, NotNull (Item.listJson items) ∧
      list Item.read (room + 2) (Item.listJson items) = .ok (items, []) := by
    refine fun items _ => ⟨⟨'[', _, rfl, rfl, by decide⟩, ?_⟩
    exact list_written Item.read (room + 1) (Item.oneValue _) Item.json items
      fun item _ => ⟨item.opens_json, Item.read_json room item⟩
  refine Record.read_filled record lawful.oneValue _ _ ⟨some r.success, some r.data, some r.error⟩ r
    ?_ rfl
  refine Record.Filled.set slots _ _ _ successSlot r.success _ _ rfl rfl (boolean_written _) ?_
  refine Record.Filled.set slots _ _ _ dataSlot r.data _ _ rfl rfl
    (nullable_written _ Item.listJson r.data hitems) ?_
  refine Record.Filled.set slots _ _ _ errorSlot r.error _ _ rfl rfl (nullableText_written _) ?_
  exact Record.Filled.nil _

theorem Parameter.read_json (room : Nat) (p : Parameter) :
    read (room + 1) p.json = .ok (p, []) := by
  refine Record.read_filled record lawful.oneValue room _
    ⟨some p.qualifiedName, some p.shortDescription, some p.units⟩ p ?_ rfl
  refine Record.Filled.set slots _ _ _ nameSlot p.qualifiedName _ _ rfl rfl (anyText_written _) ?_
  refine Record.Filled.set slots _ _ _ descriptionSlot p.shortDescription _ _ rfl rfl
    (nullableText_written _) ?_
  refine Record.Filled.set slots _ _ _ unitsSlot p.units _ _ rfl rfl (nullableText_written _) ?_
  exact Record.Filled.nil _

/-! ### Events -/

/-- The tags with a kind of their own. -/
def EventKind.knownTags : List String := ["CREATED", "UPDATED", "DELETED"]

/-- A kind that some tag stands for, which is any but the one of an unknown tag
    with a known tag in it. -/
def EventKind.Plain (kind : EventKind) : Prop := ∀ tag, kind = .other tag → tag ∉ knownTags

theorem EventKind.ofTag_tag (kind : EventKind) (h : kind.Plain) : ofTag kind.tag = kind := by
  cases kind with
  | created | updated | deleted => rfl
  | other tag =>
      have hknown := h tag rfl
      simp only [knownTags, List.mem_cons, List.not_mem_nil, or_false, not_or] at hknown
      rw [EventKind.tag, ofTag, if_neg hknown.1, if_neg hknown.2.1, if_neg hknown.2.2]

theorem EventKind.tag_ofTag (tag : String) : (ofTag tag).tag = tag := by
  unfold ofTag
  split_ifs with hcreated hupdated hdeleted
  · exact hcreated.symm
  · exact hupdated.symm
  · exact hdeleted.symm
  · rfl

/-- What a tag stands for holds no known tag. -/
theorem EventKind.plain_ofTag (tag : String) : (ofTag tag).Plain := by
  intro other h
  unfold ofTag at h
  split_ifs at h with hcreated hupdated hdeleted
  rcases EventKind.other.inj h with rfl
  simp only [knownTags, List.mem_cons, List.not_mem_nil, or_false, not_or]
  exact ⟨hcreated, hupdated, hdeleted⟩

theorem EventKind.read_json (kind : EventKind) (h : kind.Plain) :
    read kind.json = .ok (kind, []) := by
  rw [read, json, anyText_written, ok_bind]
  simp only [ofTag_tag kind h]

namespace Event

theorem read_json (room : Nat) (e : Event) (h : e.kind.Plain) :
    read (room + 1) e.json = .ok (e, []) := by
  refine Record.read_filled record lawful.oneValue room _
    ⟨some e.kind, some e.name, some e.count⟩ e ?_ rfl
  refine Record.Filled.set slots _ _ _ kindSlot e.kind _ _ rfl rfl (e.kind.read_json h) ?_
  refine Record.Filled.set slots _ _ _ nameSlot e.name _ _ rfl rfl (anyText_written _) ?_
  refine Record.Filled.set slots _ _ _ countSlot e.count _ _ rfl rfl (Count.read_written _ _) ?_
  exact Record.Filled.nil _

/-- Where an event has its kind: in the value under the key `type`, or in the
    first element of a list. -/
def KindAt : Block → List Char → Prop
  | .object ms, value => ∃ m ∈ ms, m.key = some "type" ∧ m.value = value
  | .sequence values, value => values.head? = some value

/-- The string that stands for the kind in the text of an event. -/
def TagIn (text tag : String) : Prop :=
  ∃ b value, BlockText text b ∧ KindAt b value ∧ take? anyText value = some tag

theorem take?_kind (value : List Char) (kind : EventKind) :
    take? EventKind.read value = some kind ↔
      ∃ tag, take? anyText value = some tag ∧ EventKind.ofTag tag = kind := by
  simp only [take?_eq_some_iff]
  refine ⟨fun h => ?_, fun h => ?_⟩
  · rcases (bind_eq_ok _ _ _).mp h with ⟨⟨tag, rest⟩, htag, h⟩
    rcases Prod.mk.inj (Except.ok.inj h) with ⟨hkind, rfl⟩
    exact ⟨tag, htag, hkind⟩
  · rcases h with ⟨tag, htag, rfl⟩
    rw [EventKind.read, htag]
    rfl

theorem kind_of_finish (d : Draft) (e : Event) (h : (record.finish d).toOption = some e) :
    d.kind = some e.kind := by
  have hfinish := (toOption_eq_some_iff _ _).mp h
  rcases (bind_eq_ok _ _ _).mp hfinish with ⟨kind, hkind, hfinish⟩
  rcases (bind_eq_ok _ _ _).mp hfinish with ⟨name, _, hfinish⟩
  rcases Except.ok.inj hfinish with rfl
  cases hd : d.kind with
  | none =>
      rw [hd] at hkind
      cases hkind
  | some kind =>
      rw [hd] at hkind
      exact congrArg some (Except.ok.inj hkind)

/-- The kind of an event is read where an event has it, and nowhere else. -/
theorem kind_of_block (room : Nat) (b : Block) (e : Event)
    (h : record.ofBlock? (room + 1) b = some e) :
    (∃ value, KindAt b value) ∧
      ∀ value, KindAt b value → take? EventKind.read value = some e.kind := by
  cases b with
  | object ms =>
      rcases Option.bind_eq_some_iff.mp h with ⟨d, hd, hfinish⟩
      have hkind := kind_of_finish d e hfinish
      refine ⟨?_, ?_⟩
      · have hset : kindSlot.get d ≠ none := fun hnone => absurd (hnone.symm.trans hkind) nofun
        rcases Record.exists_member_of_gather slots places room _ d ms hd kindSlot
          List.mem_cons_self rfl hset with ⟨m, hm, hkey⟩
        exact ⟨m.value, m, hm, hkey, rfl⟩
      · rintro value ⟨m, hm, hkey, rfl⟩
        rcases Record.get_of_gather slots places room _ d ms hd kindSlot List.mem_cons_self m hm
          hkey with ⟨kind, htake, hset⟩
        rcases Option.some.inj (hset.symm.trans hkind) with rfl
        exact htake
  | sequence values =>
      -- In the list form the kind is what the first element says.
      rcases Option.bind_eq_some_iff.mp h with ⟨d, hd, hfinish⟩
      have hkind := kind_of_finish d e hfinish
      rcases Record.get_of_arrange kindSlot _ places rfl room _ d values hd with
        ⟨first, others, kind, rfl, htake, hset⟩
      rcases Option.some.inj (hset.symm.trans hkind) with rfl
      refine ⟨⟨first, rfl⟩, fun value hvalue => ?_⟩
      rcases Option.some.inj hvalue with rfl
      exact htake

/-- The tag in the text of an event is the one its kind is written as. -/
theorem tagIn_iff (text : String) (e : Event) (hread : readAll (read topRoom) text = .ok e)
    (tag : String) : TagIn text tag ↔ tag = e.kind.tag := by
  have hblock := record.readsBlock lawful.oneValue topRoom
  rcases exists_blockText _ _ hblock text e hread with ⟨b, hb⟩
  rcases kind_of_block _ b e ((readAll_of_block _ _ hblock text b hb e).mp hread) with
    ⟨⟨first, hfirst⟩, hkind⟩
  refine ⟨fun h => ?_, fun h => ?_⟩
  · -- Whichever value stands for the kind, the kind is the one that was read.
    rcases h with ⟨c, value, hc, hvalue, htag⟩
    rcases blockText_unique text b c hb hc with rfl
    rcases (take?_kind value e.kind).mp (hkind value hvalue) with ⟨other, hother, hsame⟩
    rcases Option.some.inj (htag.symm.trans hother) with rfl
    rw [← hsame, EventKind.tag_ofTag]
  · rcases (take?_kind first e.kind).mp (hkind first hfirst) with ⟨other, hother, hsame⟩
    rw [h, ← hsame, EventKind.tag_ofTag]
    exact ⟨b, first, hb, hfirst, hother⟩

/-- The kind of an event that is read is not an unknown tag with a known tag in it. -/
theorem plain_of_read (text : String) (e : Event) (hread : readAll (read topRoom) text = .ok e) :
    e.kind.Plain := by
  have hblock := record.readsBlock lawful.oneValue topRoom
  rcases exists_blockText _ _ hblock text e hread with ⟨b, hb⟩
  rcases kind_of_block _ b e ((readAll_of_block _ _ hblock text b hb e).mp hread) with
    ⟨⟨first, hfirst⟩, hkind⟩
  rcases (take?_kind first e.kind).mp (hkind first hfirst) with ⟨tag, _, hsame⟩
  rw [← hsame]
  exact EventKind.plain_ofTag tag

end Event

/-- What the roster exchanges is read back as it was written, and an event that
    was read is written with the tag that was read. -/
theorem streams_read_back :
    (∀ item : Item, readAll (Item.read topRoom) (String.ofList item.json) = .ok item) ∧
    (∀ p : Parameter, readAll (Parameter.read topRoom) (String.ofList p.json) = .ok p) ∧
    (∀ r : Response (List Item),
      readAll (Response.read topRoom) (String.ofList (r.json Item.listJson)) = .ok r) ∧
    (∀ e : Event, e.kind.Plain →
      readAll (Event.read topRoom) (String.ofList e.json) = .ok e) ∧
    ∀ text e, readAll (Event.read topRoom) text = .ok e →
      e.kind.Plain ∧ readAll (Event.read topRoom) (String.ofList e.json) = .ok e ∧
      Event.TagIn text e.kind.tag ∧ Event.TagIn (String.ofList e.json) e.kind.tag ∧
      ∀ tag, Event.TagIn text tag ↔ Event.TagIn (String.ofList e.json) tag := by
  have hevent := fun (e : Event) (h : e.kind.Plain) => readAll_of_read _ _ _ (e.read_json 126 h)
  refine ⟨fun item => readAll_of_read _ _ _ (item.read_json 126),
    fun p => readAll_of_read _ _ _ (p.read_json 126),
    fun r => readAll_of_read _ _ _ (r.read_json 124), hevent, fun text e hread => ?_⟩
  have hplain := Event.plain_of_read text e hread
  have hback := hevent e hplain
  have htag := Event.tagIn_iff text e hread
  have hwritten := Event.tagIn_iff _ e hback
  exact ⟨hplain, hback, (htag _).mpr rfl, (hwritten _).mpr rfl,
    fun tag => (htag tag).trans (hwritten tag).symm⟩

/-- An event with an unknown tag, read from a list. -/
theorem streams_read_back_of_unknown_tag :
    (EventKind.other "RENAMED").Plain ∧ Event.TagIn "[\"RENAMED\",\"x\"]" "RENAMED" ∧
      readAll (Event.read topRoom) (String.ofList (Event.json ⟨.other "RENAMED", "x", 0⟩)) =
        .ok ⟨.other "RENAMED", "x", 0⟩ := by
  have hplain : (EventKind.other "RENAMED").Plain := EventKind.plain_ofTag "RENAMED"
  have hread : readAll (Event.read topRoom) "[\"RENAMED\",\"x\"]" =
      .ok ⟨.other "RENAMED", "x", 0⟩ := rfl
  rcases streams_read_back with ⟨_, _, _, hback, hagain⟩
  exact ⟨hplain, (hagain _ _ hread).2.2.1, hback _ hplain⟩

end StreamRoster
