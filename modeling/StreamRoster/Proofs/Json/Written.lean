import StreamRoster.Proofs.Json.Gathering

/-!
# Records Read Back

What is left of a record when it is written is a row of members, and reading it
back fills a draft with them one by one. `Filled` is that row: each member is
the text of a value that the reader of its place reads back, and the place was
free. From it the record is read back (`Record.read_filled`). What is particular
to a type of records is then only which members it writes.

The other direction is about texts that nobody here wrote. If the members of any
object were put into a draft, then what a place holds is what the member with its
key says, and no other member has that key (`get_of_gather`). In the list form
the first element takes the part of the member (`get_of_arrange`).

## Main definitions

* `Record.Filled`: Members that fill a draft.

## Theorems

* `anyText_written`, `boolean_written`, `variant_written`, `nullable_written`,
  `list_written`: Written values are read back.
* `Record.read_filled`: A written record is read back.
* `Record.get_of_gather`, `Record.get_of_arrange`: What a place holds.
-/

namespace StreamRoster

namespace Json

variable {α β σ : Type}

/-! ### Values -/

/-- A text that is a value and nothing else is read whole. -/
theorem readAll_of_read (read : Reader α) (s : List Char) (a : α) (h : read s = .ok (a, [])) :
    readAll read (String.ofList s) = .ok a :=
  (readAll_eq_ok_iff read _ a).mpr ⟨[], by rw [String.toList_ofList, h], rfl⟩

theorem text_written (expected : String) (s : String) :
    text expected (writeText s) = .ok (s, []) := by
  have hstring := string_takes s [] trivial
  rw [List.append_nil] at hstring
  exact hstring

theorem anyText_written (s : String) : anyText (writeText s) = .ok (s, []) :=
  text_written _ s

theorem boolean_written (b : Bool) : boolean (writeBool b) = .ok (b, []) := by
  cases b <;> rfl

theorem variant_written (variants : List (String × α)) (room : Nat) (name : String) (a : α)
    (h : pickVariant variants name = .ok a) :
    variant variants room (writeText name) = .ok (a, []) := by
  have hname : variant variants room (writeText name) = variantName variants (writeText name) := rfl
  rw [hname, variantName, text_written, ok_bind]
  simp only [h]

/-- A text that starts with a value other than `null`. -/
def NotNull (s : List Char) : Prop := ∃ c u, s = c :: u ∧ isSpace c = false ∧ c ≠ 'n'

theorem nullable_of_notNull (read : Reader α) (s : List Char) (hs : NotNull s) :
    nullable read s = read s >>= fun x => .ok (some x.1, x.2) := by
  rcases hs with ⟨c, u, rfl, hspace, hc⟩
  have hcons := skipSpace_cons c u hspace
  rw [nullable_of_ne read _ fun v hv => hc (List.cons.inj (hcons.symm.trans hv)).1, hcons]

theorem nullable_written (read : Reader α) (write : α → List Char) (o : Option α)
    (h : ∀ a ∈ o, NotNull (write a) ∧ read (write a) = .ok (a, [])) :
    nullable read (writeNullable write o) = .ok (o, []) := by
  cases o with
  | none => rfl
  | some a =>
      rcases h a rfl with ⟨hopens, hread⟩
      rw [writeNullable, nullable_of_notNull read _ hopens, hread]
      rfl

theorem notNull_writeText (s : String) : NotNull (writeText s) :=
  ⟨'"', _, rfl, rfl, by decide⟩

theorem nullableText_written (o : Option String) :
    nullable anyText (writeNullable writeText o) = .ok (o, []) :=
  nullable_written anyText writeText o fun s _ => ⟨notNull_writeText s, anyText_written s⟩

/-- A written list is read back if its elements are. -/
theorem list_written (read : Nat → Reader α) (room : Nat) (hread : OneValue (read room))
    (write : α → List Char) (items : List α)
    (h : ∀ a ∈ items, Opens (write a) ∧ read room (write a) = .ok (a, [])) :
    list read (room + 1) (writeArray (items.map write)) = .ok (items, []) := by
  have helements := elements_written (read room) write items
    (fun a ha => ⟨(h a ha).1, takes_of_local _ hread.cuts _ a (h a ha).2⟩) []
  rw [writeArray, List.cons_append, list_of_bracket read room _ _ (skipSpace_cons '[' _ rfl),
    helements]
  rfl

/-! ### Records -/

namespace Record

/-- Members that are put into a draft one by one, each of them into a place that
    was free, and the draft that comes of it. -/
inductive Filled (fields : List (Field σ)) (room : Nat) :
    σ → List (String × List Char) → σ → Prop where
  | nil (draft : σ) : Filled fields room draft [] draft
  | put (draft : σ) (field : Field σ) (put : σ → σ) (value : List Char)
      (ms : List (String × List Char)) (last : σ)
      (hfield : (fields.find? fun f => f.key = field.key) = some field)
      (hfree : field.isSet draft = false) (hread : field.read room value = .ok (put, []))
      (hms : Filled fields room (put draft) ms last) :
      Filled fields room draft ((field.key, value) :: ms) last

theorem Filled.append (fields : List (Field σ)) (room : Nat) (draft next last : σ)
    (ms others : List (String × List Char)) (h : Filled fields room draft ms next)
    (hothers : Filled fields room next others last) :
    Filled fields room draft (ms ++ others) last := by
  induction h with
  | nil draft => exact hothers
  | put draft field put value ms next hfield hfree hread hms ih =>
      exact Filled.put draft field put value _ last hfield hfree hread (ih hothers)

theorem Filled.gather (fields : List (Field σ)) (room : Nat) (draft last : σ)
    (ms : List (String × List Char)) (h : Filled fields room draft ms last) :
    gather fields room draft (ms.map fun m => ⟨some m.1, m.2⟩) = some last := by
  induction h with
  | nil draft => rfl
  | put draft field put value ms last hfield hfree hread hms ih =>
      rw [List.map_cons, Record.gather, put?, Option.bind_some, hfield]
      simp only [(putField?_eq_some_iff field room draft value _).mpr ⟨hfree, put, hread, rfl⟩]
      exact ih

theorem Filled.skip (fields : List (Field σ)) (room : Nat)
    (hfields : ∀ f ∈ fields, OneValue (f.read room)) (draft last : σ)
    (ms : List (String × List Char)) (h : Filled fields room draft ms last) :
    ∀ m ∈ ms, Json.skip m.2 = .ok ((), []) := by
  induction h with
  | nil draft => nofun
  | put draft field put value ms last hfield hfree hread hms ih =>
      have hone := hfields field (List.mem_of_find?_eq_some hfield)
      exact List.forall_mem_cons.mpr ⟨hone.passes value put [] hread, ih⟩

/-- A record is read back from the members that fill its draft. -/
theorem read_filled (r : Record σ α) (h : ∀ room, ∀ f ∈ r.fields, OneValue (f.read room))
    (room : Nat) (ms : List (String × List Char)) (draft : σ) (a : α)
    (hms : Filled r.fields room r.start ms draft) (hfinish : r.finish draft = .ok a) :
    r.read (room + 1) (writeObject ms) = .ok (a, []) := by
  have hobject := object_written ms (hms.skip r.fields room (h room) _ _ ms)
  rw [← take?_eq_some_iff, take?_of_block _ _ (r.readsBlock h (room + 1)) _ (.object _) hobject,
    ofBlock?, hms.gather r.fields room _ _ ms, Option.bind_some, hfinish]
  rfl

/-- A place is filled with a value that is read back. -/
theorem Filled.set (slots : List (Slot σ)) (room : Nat) (draft last : σ) (x : Slot σ)
    (a : x.content) (value : List Char) (ms : List (String × List Char))
    (hx : ((slots.map Slot.field).find? fun f => f.key = x.key) = some x.field)
    (hfree : x.get draft = none) (hread : x.read room value = .ok (a, []))
    (hms : Filled (slots.map Slot.field) room (x.set a draft) ms last) :
    Filled (slots.map Slot.field) room draft ((x.key, value) :: ms) last := by
  refine Filled.put draft x.field (x.set a) value ms last hx ?_ ?_ hms
  · exact congrArg Option.isSome hfree
  · have hbind : x.field.read room value =
        x.read room value >>= fun y => .ok (x.set y.1, y.2) := rfl
    rw [hbind, hread]
    rfl

/-! ### What a place holds -/

/-- The field with the key of a place is that of the place. -/
theorem find?_slot (slots : List (Slot σ)) (hplaces : Places slots) (x : Slot σ) (hx : x ∈ slots) :
    ((slots.map Slot.field).find? fun f => f.key = x.key) = some x.field := by
  cases hfind : (slots.map Slot.field).find? fun f => f.key = x.key with
  | none =>
      exact absurd (decide_eq_true rfl)
        (List.find?_eq_none.mp hfind x.field (List.mem_map_of_mem hx))
  | some field =>
      rcases List.mem_map.mp (List.mem_of_find?_eq_some hfind) with ⟨y, hy, rfl⟩
      have hfound := List.find?_some hfind
      rw [hplaces.eq_of_key slots y x hy hx (of_decide_eq_true hfound)]

/-- What a member does to a place: it fills it if it has its key, and leaves it
    alone otherwise. -/
theorem get_of_put? (slots : List (Slot σ)) (hplaces : Places slots) (room : Nat)
    (draft next : σ) (m : Member) (h : put? (slots.map Slot.field) room draft m = some next)
    (x : Slot σ) (hx : x ∈ slots) :
    (m.key = some x.key ∧ x.get draft = none ∧
      ∃ a, take? (x.read room) m.value = some a ∧ x.get next = some a) ∨
    (m.key ≠ some x.key ∧ x.get next = x.get draft) := by
  rcases Option.bind_eq_some_iff.mp h with ⟨key, hkey, h⟩
  split at h
  · rename_i hfind
    rcases Option.some.inj h with rfl
    refine Or.inr ⟨fun hsame => ?_, rfl⟩
    rcases Option.some.inj (hkey.symm.trans hsame) with rfl
    exact absurd ((find?_slot slots hplaces x hx).symm.trans hfind) nofun
  · rename_i field hfind
    rcases List.mem_map.mp (List.mem_of_find?_eq_some hfind) with ⟨y, hy, rfl⟩
    have hfound := List.find?_some hfind
    rcases of_decide_eq_true hfound with rfl
    rcases (putField?_eq_some_iff y.field room draft m.value next).mp h with ⟨hfree, put, hput, rfl⟩
    rcases (bind_eq_ok _ _ _).mp hput with ⟨⟨a, rest⟩, hread, hset⟩
    rcases Prod.mk.inj (Except.ok.inj hset) with ⟨rfl, rfl⟩
    have htake := (take?_eq_some_iff (y.read room) m.value a).mpr hread
    -- The member goes to a place `y`, which is this one if the keys are the same.
    by_cases hsame : y.key = x.key
    · rcases hplaces.eq_of_key slots y x hy hx hsame with rfl
      refine Or.inl ⟨hkey, ?_, a, htake, (hplaces.fits y hy).get_set a draft⟩
      exact Option.isNone_iff_eq_none.mp (Option.isSome_eq_false_iff.mp hfree)
    · have hyx := hplaces.apart_of_key slots y x hy hx hsame
      refine Or.inr ⟨fun hkey' => hsame ?_, hyx.keeps a draft⟩
      exact Option.some.inj (hkey.symm.trans hkey')

/-- A place that is filled stays as it is. -/
theorem get_of_gather_of_set (slots : List (Slot σ)) (hplaces : Places slots) (room : Nat)
    (draft last : σ) (ms : List Member)
    (h : gather (slots.map Slot.field) room draft ms = some last) (x : Slot σ) (hx : x ∈ slots)
    (a : x.content) (hset : x.get draft = some a) :
    x.get last = some a ∧ ∀ m ∈ ms, m.key ≠ some x.key := by
  induction ms generalizing draft with
  | nil =>
      rcases Option.some.inj h with rfl
      exact ⟨hset, nofun⟩
  | cons m ms ih =>
      rcases Option.bind_eq_some_iff.mp h with ⟨next, hnext, h⟩
      rcases get_of_put? slots hplaces room draft next m hnext x hx with
        ⟨_, hfree, _⟩ | ⟨hkey, hsame⟩
      · exact absurd (hfree.symm.trans hset) nofun
      · rcases ih next h (hsame.trans hset) with ⟨hlast, hms⟩
        exact ⟨hlast, List.forall_mem_cons.mpr ⟨hkey, hms⟩⟩

/-- Every member with the key of a place says what the place holds in the end. -/
theorem get_of_gather (slots : List (Slot σ)) (hplaces : Places slots) (room : Nat)
    (draft last : σ) (ms : List Member)
    (h : gather (slots.map Slot.field) room draft ms = some last) (x : Slot σ) (hx : x ∈ slots)
    (m : Member) (hm : m ∈ ms) (hkey : m.key = some x.key) :
    ∃ a, take? (x.read room) m.value = some a ∧ x.get last = some a := by
  induction ms generalizing draft with
  | nil => exact absurd hm List.not_mem_nil
  | cons n ms ih =>
      rcases Option.bind_eq_some_iff.mp h with ⟨next, hnext, hrest⟩
      rcases List.mem_cons.mp hm with rfl | hm
      · rcases get_of_put? slots hplaces room draft next m hnext x hx with
          ⟨_, _, a, ha, hset⟩ | ⟨hne, _⟩
        · -- It is filled by this member, and stays as it is behind it.
          exact ⟨a, ha, (get_of_gather_of_set slots hplaces room next last ms hrest x hx
            a hset).1⟩
        · exact absurd hkey hne
      · exact ih next hrest hm

/-- A place that was filled has a member with its key. -/
theorem exists_member_of_gather (slots : List (Slot σ)) (hplaces : Places slots) (room : Nat)
    (draft last : σ) (ms : List Member)
    (h : gather (slots.map Slot.field) room draft ms = some last) (x : Slot σ) (hx : x ∈ slots)
    (hfree : x.get draft = none) (hset : x.get last ≠ none) : ∃ m ∈ ms, m.key = some x.key := by
  induction ms generalizing draft with
  | nil =>
      rcases Option.some.inj h with rfl
      exact absurd hfree hset
  | cons m ms ih =>
      rcases Option.bind_eq_some_iff.mp h with ⟨next, hnext, h⟩
      rcases get_of_put? slots hplaces room draft next m hnext x hx with
        ⟨hkey, _⟩ | ⟨_, hsame⟩
      · exact ⟨m, List.mem_cons_self, hkey⟩
      · rcases ih next h (hsame.trans hfree) with ⟨n, hn, hkey⟩
        exact ⟨n, List.mem_cons_of_mem m hn, hkey⟩

/-- A record is not read if one of its members cannot be read for its place. -/
theorem take?_eq_none (r : Record σ α) (slots : List (Slot σ)) (hplaces : Places slots)
    (hfields : r.fields = slots.map Slot.field) (room : Nat) (ms : List (String × List Char))
    (hms : ∀ m ∈ ms, Json.skip m.2 = .ok ((), [])) (x : Slot σ) (hx : x ∈ slots) (value : List Char)
    (hm : (x.key, value) ∈ ms) (hvalue : take? (x.read room) value = none) :
    take? (r.read (room + 1)) (writeObject ms) = none := by
  have hone : ∀ room, ∀ f ∈ r.fields, OneValue (f.read room) := hfields ▸ hplaces.lawful.oneValue
  rw [take?_of_block _ _ (r.readsBlock hone (room + 1)) _ (.object _) (object_written ms hms),
    ofBlock?, hfields]
  refine Option.bind_eq_none_iff.mpr fun draft hdraft => ?_
  rcases get_of_gather slots hplaces room _ draft _ hdraft x hx ⟨some x.key, value⟩
    (List.mem_map.mpr ⟨_, hm, rfl⟩) rfl with ⟨a, ha, _⟩
  exact absurd (ha.symm.trans hvalue) (Option.some_ne_none a)

/-- The elements for other places leave a place alone. -/
theorem get_of_arrange_others (slots : List (Slot σ)) (room : Nat) (x : Slot σ)
    (hapart : ∀ y ∈ slots, Slot.Apart x y) (draft last : σ) (values : List (List Char))
    (h : arrange room (slots.map Slot.field) draft values = some last) :
    x.get last = x.get draft := by
  induction slots generalizing draft values with
  | nil =>
      cases values with
      | nil =>
          rcases Option.some.inj h with rfl
          rfl
      | cons value values => cases h
  | cons y slots ih =>
      have htail := fun z hz => hapart z (List.mem_cons_of_mem y hz)
      cases values with
      | nil =>
          rw [List.map_cons, arrange] at h
          split_ifs at h
          exact ih htail draft [] h
      | cons value values =>
          rcases Option.bind_eq_some_iff.mp h with ⟨put, hput, h⟩
          rcases y.exists_set room value put [] ((take?_eq_some_iff _ _ _).mp hput) with ⟨a, rfl⟩
          exact (ih htail _ values h).trans ((hapart y List.mem_cons_self).kept a draft)

/-- The first element of a list says what the first place holds in the end. -/
theorem get_of_arrange (x : Slot σ) (slots : List (Slot σ))
    (hplaces : Places (x :: slots)) (hlist : x.inList = true) (room : Nat) (draft last : σ)
    (values : List (List Char))
    (h : arrange room ((x :: slots).map Slot.field) draft values = some last) :
    ∃ value others a, values = value :: others ∧ take? (x.read room) value = some a ∧
      x.get last = some a := by
  cases values with
  | nil =>
      rw [List.map_cons, arrange] at h
      cases (if_pos hlist).symm.trans h
  | cons value values =>
      rcases Option.bind_eq_some_iff.mp h with ⟨put, hput, h⟩
      rcases (bind_eq_ok _ _ _).mp ((take?_eq_some_iff _ _ _).mp hput) with ⟨⟨a, rest⟩, hread, hset⟩
      rcases Prod.mk.inj (Except.ok.inj hset) with ⟨rfl, rfl⟩
      refine ⟨value, values, a, rfl, (take?_eq_some_iff _ _ _).mpr hread, ?_⟩
      have hkept := get_of_arrange_others slots room x (List.pairwise_cons.mp hplaces.apart).1 _
        last values h
      exact hkept.trans ((hplaces.fits x List.mem_cons_self).get_set a draft)

end Record

end Json

end StreamRoster
