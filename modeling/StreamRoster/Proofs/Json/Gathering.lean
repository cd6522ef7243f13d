import Mathlib.Data.List.Nodup
import Mathlib.Data.List.Pairwise
import StreamRoster.Proofs.Json.OneValue

/-!
# What Gathers in a Draft

A record is read member by member. With every key another piece of the reader
runs, and the first fault ends the reading, so what is run depends on the order
of the members. What comes out does not.

The reading is first brought down to the members. If the fields are read by
readers of one value, then the draft is that of `gather`, a fold over the
members, each of which is put into the draft or refused (`readsBlock`). From
there on no text is left. Two members can be exchanged if the fields write to
places of their own and mark what they wrote, which is `Lawful`: either they
belong to different fields, and the writes commute, or they belong to the same
one, and the second is refused in either order (`put?_comm`). A member of an
unknown key puts nothing into a draft.

Faults are not told apart by this. Which of two faults is reported does depend
on the order.

## Main definitions

* `Record.put?`: What a member puts into a draft.
* `Record.gather`, `Record.arrange`: The draft of members, and of elements.
* `Record.ofBlock?`: The record in a block.
* `Record.Lawful`: Fields that write to places of their own.
* `Record.Slot`, `Record.Places`: The places of a draft.

## Theorems

* `Record.readMembers_of_row`, `Record.readElements_of_items`: The two forms of
  a record.
* `Record.readsBlock`: A record is read from the block that stands there.
* `Record.gather_perm`, `Record.gather_unknown`: The order of members and
  unknown ones do not matter.
* `Record.gather_insert`: Both at once.
* `Record.Places.lawful`: Places of a draft make lawful fields.
-/

namespace StreamRoster

namespace Json

variable {α β σ : Type}

/-- A member has at least the characters of its braces and commas. -/
theorem length_of_row (rest : List Char) (first : Bool) (s : List Char) (ms : List Member)
    (h : Row rest first s ms) : ms.length ≤ s.length := by
  induction h with
  | close first s hs => exact Nat.zero_le _
  | member first s key colon behind m ms hkey hname hm hcolon hvalue hms ih =>
      have hvalued := length_lt_of_local skip skip_local (fun _ => nofun) _ () behind hvalue
      have hsigned := length_le_of_local memberColon memberColon_local colon () _ hcolon
      have hkeyed := length_le_of_local skipString skipString_local key () colon hname
      rcases hasMember_takes first s true key hkey with ⟨front, rfl, _⟩
      rw [List.length_cons, List.length_append]
      omega

/-- A list can be closed where it has no elements left. -/
theorem closeList_of_items (rest : List Char) (first : Bool) (s : List Char)
    (values : List (List Char)) (h : Items rest first s values) :
    (closeList s).toOption = if values.isEmpty then some ((), rest) else none := by
  cases h with
  | close _ _ hs =>
      rw [(Record.closeList_eq_ok_iff s () rest).mpr hs]
      rfl
  | item _ _ value behind values hgoes =>
      cases hread : closeList s with
      | error e => rfl
      | ok x =>
          have hend := (Record.closeList_eq_ok_iff s x.1 x.2).mp hread
          exact absurd (goesOn_unique first s _ _ _ _ hgoes (GoesOn.close x.2 hend)).1 nofun

namespace Record

/-- What the text of a value puts into a draft as a field. -/
def putField? (field : Field σ) (room : Nat) (draft : σ) (value : List Char) : Option σ :=
  if field.isSet draft then none else (take? (field.read room) value).map fun put => put draft

/-- What a member puts into a draft. -/
def put? (fields : List (Field σ)) (room : Nat) (draft : σ) (m : Member) : Option σ :=
  m.key.bind fun key =>
    match fields.find? fun f => f.key = key with
    | none => some draft
    | some field => putField? field room draft m.value

/-- The draft of the members of an object. -/
def gather (fields : List (Field σ)) (room : Nat) : σ → List Member → Option σ
  | draft, [] => some draft
  | draft, m :: ms => (put? fields room draft m).bind fun next => gather fields room next ms

/-- The draft of the elements of a list. -/
def arrange (room : Nat) : List (Field σ) → σ → List (List Char) → Option σ
  | [], draft, [] => some draft
  | [], _, _ :: _ => none
  | field :: fields, draft, value :: values =>
    (take? (field.read room) value).bind fun put => arrange room fields (put draft) values
  | field :: fields, draft, [] => if field.inList then none else arrange room fields draft []

/-- The record in a block. -/
def ofBlock? (r : Record σ α) : Nat → Block → Option α
  | 0, _ => none
  | room + 1, .object ms =>
    (gather r.fields room r.start ms).bind fun draft => (r.finish draft).toOption
  | room + 1, .sequence values =>
    (arrange room r.fields r.start values).bind fun draft => (r.finish draft).toOption

/-! ### The object form -/

/-- The members of a row are put into the draft one by one, by induction on the
    row. -/
theorem readMembers_of_row (fields : List (Field σ)) (room : Nat)
    (hfields : ∀ f ∈ fields, OneValue (f.read room)) (rest : List Char) (first : Bool)
    (s : List Char) (ms : List Member) (h : Row rest first s ms) (draft : σ) (fuel : Nat)
    (hfuel : ms.length < fuel) :
    (readMembers fields room fuel first draft s).toOption =
      (gather fields room draft ms).map fun d => (d, '\x7d' :: rest) := by
  induction h generalizing draft fuel with
  | close first s hs =>
      cases fuel with
      | zero => exact absurd hfuel (Nat.not_lt_zero _)
      | succ fuel =>
          rw [readMembers, (hasMember_eq_ok_iff _ _ _ _).mpr (HasKey.close rest hs)]
          rfl
  | member first s key colon behind m ms hkey hname hm hcolon hvalue hms ih =>
      cases fuel with
      | zero => exact absurd hfuel (Nat.not_lt_zero _)
      | succ fuel =>
          have hnext := fun d => ih d fuel (Nat.lt_of_succ_lt_succ hfuel)
          have hends := ends_of_row rest behind ms hms
          rw [readMembers, (hasMember_eq_ok_iff _ _ _ _).mpr hkey, gather, put?, hm]
          simp only [ok_bind]
          cases hname' : keyOf key with
          | none =>
              -- A key that is no text ends the reading, and puts nothing into a draft.
              have hfails : (string key).toOption = none :=
                Option.map_eq_none_iff.mp hname'
              rw [toOption_bind, hfails]
              rfl
          | some name =>
              rw [(keyOf_eq_some_iff key colon hname name).mp hname']
              simp only [ok_bind, Option.bind_some]
              cases hfind : fields.find? fun f => f.key = name with
              | none =>
                  simp only [hcolon, hvalue, ok_bind, Option.bind_some]
                  exact hnext draft
              | some field =>
                  simp only [putField?]
                  split_ifs with hset
                  · rfl
                  · have hone := hfields field (List.mem_of_find?_eq_some hfind)
                    simp only [hcolon, ok_bind]
                    rw [toOption_bind, toOption_append _ hone m.value behind hvalue hends]
                    cases take? (field.read room) m.value with
                    | none => rfl
                    | some put => exact hnext (put draft)

/-- The members that are read are members of the text. -/
theorem row_of_readMembers (fields : List (Field σ)) (room : Nat)
    (hfields : ∀ f ∈ fields, OneValue (f.read room)) (fuel : Nat) (first : Bool) (draft : σ)
    (s : List Char) (d : σ) (t : List Char)
    (h : readMembers fields room fuel first draft s = .ok (d, t)) :
    ∃ rest ms, t = '\x7d' :: rest ∧ Row rest first s ms := by
  induction fuel generalizing first draft s with
  | zero => cases h
  | succ fuel ih =>
      rcases (bind_eq_ok _ _ _).mp h with ⟨⟨goes, key⟩, hgoes, h⟩
      rw [hasMember_eq_ok_iff] at hgoes
      cases goes with
      | false =>
          rcases Prod.mk.inj (Except.ok.inj h) with ⟨_, rfl⟩
          cases hgoes with
          | close rest hs => exact ⟨rest, [], rfl, Row.close first s hs⟩
      | true =>
          rcases (bind_eq_ok _ _ _).mp h with ⟨⟨name, colon⟩, hname, h⟩
          have hquoted := skipString_of_string key name colon hname
          -- Whether the key is known or not, a value behind a colon is passed over.
          have hmember : ∃ v behind next, memberColon colon = .ok ((), v) ∧
              skip v = .ok ((), behind) ∧
              readMembers fields room fuel false next behind = .ok (d, t) := by
            dsimp only at h
            split at h
            · rcases (bind_eq_ok _ _ _).mp h with ⟨⟨_, v⟩, hcolon, h⟩
              rcases (bind_eq_ok _ _ _).mp h with ⟨⟨_, behind⟩, hskip, h⟩
              exact ⟨v, behind, draft, hcolon, hskip, h⟩
            · rename_i field hfind
              split_ifs at h
              · cases h
              · rcases (bind_eq_ok _ _ _).mp h with ⟨⟨_, v⟩, hcolon, h⟩
                rcases (bind_eq_ok _ _ _).mp h with ⟨⟨put, behind⟩, hread, h⟩
                have hone := hfields field (List.mem_of_find?_eq_some hfind)
                exact ⟨v, behind, put draft, hcolon, hone.passes v put behind hread, h⟩
          rcases hmember with ⟨v, behind, next, hcolon, hskip, hnext⟩
          rcases ih false next behind hnext with ⟨rest, ms, rfl, hms⟩
          rcases row_cons rest first s key colon v behind ms hgoes hquoted hcolon hskip hms with
            ⟨m, hrow⟩
          exact ⟨rest, m :: ms, rfl, hrow⟩

/-! ### The list form -/

/-- The elements of a list are put into the draft field by field. What is made
    of the draft and the closing bracket come in between, so the rest of the
    reading is part of the statement. -/
theorem readElements_of_items (form : String) (room : Nat) (finish : σ → Option β)
    (fields : List (Field σ)) (hfields : ∀ f ∈ fields, OneValue (f.read room))
    (rest : List Char) (index : Nat) (first : Bool) (draft : σ) (s : List Char)
    (values : List (List Char)) (h : Items rest first s values) :
    ((readElements form room fields index first draft s).toOption.bind fun x =>
        (finish x.1).bind fun b => (closeList x.2).toOption.bind fun y => some (b, y.2)) =
      (arrange room fields draft values).bind fun d => (finish d).map fun b => (b, rest) := by
  induction fields generalizing index first draft s values with
  | nil =>
      have hread : (readElements form room [] index first draft s).toOption = some (draft, s) := rfl
      rw [hread, Option.bind_some, closeList_of_items rest first s values h]
      cases values with
      | nil =>
          rw [arrange, Option.bind_some]
          cases finish draft <;> rfl
      | cons value values =>
          rw [arrange]
          cases finish draft <;> rfl
  | cons field fields ih =>
      have htail := fun f hf => hfields f (List.mem_cons_of_mem field hf)
      cases h with
      | close _ _ hs =>
          rw [readElements, (hasElement_eq_ok_iff _ _ _ _).mpr (GoesOn.close rest hs), arrange]
          simp only [ok_bind]
          split_ifs with hlist
          · rfl
          · -- The list has ended already, so its end is what all later fields see.
            exact ih htail (index + 1) first draft _ []
              (Items.close first _ (skipSpace_cons ']' rest rfl))
      | item _ _ value behind values hgoes hvalue hvalues =>
          have hone := hfields field List.mem_cons_self
          have hends := ends_of_items rest behind values hvalues
          rw [readElements, (hasElement_eq_ok_iff _ _ _ _).mpr hgoes, arrange]
          simp only [ok_bind]
          rw [toOption_bind, toOption_append _ hone value behind hvalue hends]
          cases take? (field.read room) value with
          | none => rfl
          | some put => exact ih htail (index + 1) false (put draft) behind values hvalues

/-- The elements that are read are elements of the text, if it is closed behind
    them. -/
theorem items_of_readElements (form : String) (room : Nat) (fields : List (Field σ))
    (hfields : ∀ f ∈ fields, OneValue (f.read room)) (index : Nat) (first : Bool) (draft : σ)
    (s : List Char) (d : σ) (t rest : List Char)
    (h : readElements form room fields index first draft s = .ok (d, t))
    (hclose : skipSpace t = ']' :: rest) : ∃ values, Items rest first s values := by
  induction fields generalizing index first draft s with
  | nil =>
      rcases Prod.mk.inj (Except.ok.inj h) with ⟨_, rfl⟩
      exact ⟨[], Items.close first s hclose⟩
  | cons field fields ih =>
      have htail := fun f hf => hfields f (List.mem_cons_of_mem field hf)
      rcases (bind_eq_ok _ _ _).mp h with ⟨⟨goes, u⟩, hgoes, h⟩
      rw [hasElement_eq_ok_iff] at hgoes
      cases goes with
      | true =>
          rcases (bind_eq_ok _ _ _).mp h with ⟨⟨put, behind⟩, hread, h⟩
          have hskip := (hfields field List.mem_cons_self).passes u put behind hread
          rcases ih htail _ _ _ _ h with ⟨values, hvalues⟩
          rcases exists_value_of_skip u behind hskip with ⟨value, rfl⟩
          exact ⟨value :: values, Items.item first s value behind values hgoes hskip hvalues⟩
      | false =>
          dsimp only at h
          split_ifs at h
          · cases h
          · cases hgoes with
            | close v hs =>
                -- The list has ended here, so no later field has found an element.
                rcases ih htail _ _ _ _ h with ⟨values, hvalues⟩
                cases hvalues with
                | close _ _ hv => exact ⟨[], Items.close first s (hs.trans hv)⟩
                | item _ _ value behind values hgoes =>
                    have hend : GoesOn first (']' :: v) false (']' :: v) :=
                      GoesOn.close v (skipSpace_cons ']' v rfl)
                    exact absurd (goesOn_unique first _ _ _ _ _ hgoes hend).1 nofun

/-! ### Both forms -/

theorem read_sequence (r : Record σ α) (room : Nat) (s u : List Char)
    (hs : skipSpace s = '[' :: u) :
    r.read (room + 1) s =
      readElements (listForm r.name r.fields.length) room r.fields 0 true r.start u >>= fun x =>
        r.conclude x.1 x.2 >>= fun a => closeList x.2 >>= fun y => .ok (a, y.2) := by
  rw [read, hs]
  rfl

theorem read_object (r : Record σ α) (room : Nat) (s u : List Char)
    (hs : skipSpace s = '\x7b' :: u) :
    r.read (room + 1) s =
      readMembers r.fields room (u.length + 1) true r.start u >>= fun x =>
        r.conclude x.1 x.2 >>= fun a => closeObject x.2 >>= fun y => .ok (a, y.2) := by
  rw [read, hs]
  rfl

/-- A record is read from the block that stands at the front of a text. -/
theorem readsBlock (r : Record σ α) (hfields : ∀ room, ∀ f ∈ r.fields, OneValue (f.read room))
    (room : Nat) : ReadsBlock (r.read room) (r.ofBlock? room) where
  block s a rest h := by
    cases room with
    | zero =>
        rw [read] at h
        split at h
        · cases h
        · cases h
        · exact absurd h (wrongKind_ne_ok _ _ _)
    | succ room =>
        -- What is read as a record opens as a list or as an object.
        have hcases : (∃ u, skipSpace s = '[' :: u) ∨ (∃ u, skipSpace s = '\x7b' :: u) := by
          rw [read] at h
          split at h
          · exact Or.inl ⟨_, ‹_›⟩
          · exact Or.inr ⟨_, ‹_›⟩
          · exact absurd h (wrongKind_ne_ok _ _ _)
        rcases hcases with ⟨u, hs⟩ | ⟨u, hs⟩
        · -- Behind the values of a list only the bracket is left.
          rw [read_sequence r room s u hs] at h
          rcases (bind_eq_ok _ _ _).mp h with ⟨⟨d, t⟩, hread, h⟩
          rcases (bind_eq_ok _ _ _).mp h with ⟨b, _, h⟩
          rcases (bind_eq_ok _ _ _).mp h with ⟨⟨_, v⟩, hclose, h⟩
          rcases Prod.mk.inj (Except.ok.inj h) with ⟨_, rfl⟩
          rcases items_of_readElements _ room r.fields (hfields room) 0 true r.start u d t v hread
            ((closeList_eq_ok_iff t () v).mp hclose) with ⟨values, hvalues⟩
          exact ⟨.sequence values, u, hs, hvalues⟩
        · -- Members are read up to the brace, which is then passed.
          rw [read_object r room s u hs] at h
          rcases (bind_eq_ok _ _ _).mp h with ⟨⟨d, t⟩, hread, h⟩
          rcases (bind_eq_ok _ _ _).mp h with ⟨b, _, h⟩
          rcases (bind_eq_ok _ _ _).mp h with ⟨⟨_, v⟩, hclose, h⟩
          rcases Prod.mk.inj (Except.ok.inj h) with ⟨_, rfl⟩
          rcases row_of_readMembers r.fields room (hfields room) _ true r.start u d t hread with
            ⟨w, ms, rfl, hms⟩
          rcases Prod.mk.inj (Except.ok.inj hclose) with ⟨_, rfl⟩
          exact ⟨.object ms, u, hs, hms⟩
  toOption s rest b hb := by
    cases b with
    | sequence values =>
        rcases hb with ⟨u, hs, hitems⟩
        cases room with
        | zero =>
            simp only [read, hs]
            rfl
        | succ room =>
            rw [read_sequence r room s u hs, ofBlock?]
            simp only [toOption_bind, conclude_toOption]
            refine (readElements_of_items _ room (fun d => (r.finish d).toOption) r.fields
              (hfields room) rest 0 true r.start u values hitems).trans ?_
            cases arrange room r.fields r.start values <;> rfl
    | object ms =>
        rcases hb with ⟨u, hs, hrow⟩
        cases room with
        | zero =>
            simp only [read, hs]
            rfl
        | succ room =>
            -- There are fewer members than characters, so the fuel is enough.
            have hlength := length_of_row rest true u ms hrow
            rw [read_object r room s u hs, ofBlock?, toOption_bind,
              readMembers_of_row r.fields room (hfields room) rest true u ms hrow r.start _
                (by omega)]
            cases gather r.fields room r.start ms with
            | none => rfl
            | some draft =>
                simp only [Option.map_some, Option.bind_some, toOption_bind, conclude_toOption]
                cases r.finish draft <;> rfl

/-! ### The order of members -/

/-- Fields that are read by readers of one value, and write to places of their
    own, where they leave a mark. -/
structure Lawful (fields : List (Field σ)) : Prop where
  oneValue : ∀ room, ∀ f ∈ fields, OneValue (f.read room)
  marks : ∀ f ∈ fields, ∀ room s put rest, f.read room s = .ok (put, rest) →
    ∀ d, f.isSet (put d) = true
  apart : ∀ f ∈ fields, ∀ g ∈ fields, f.key ≠ g.key → ∀ room s put rest t next left,
    f.read room s = .ok (put, rest) → g.read room t = .ok (next, left) →
    ∀ d, g.isSet (put d) = g.isSet d ∧ next (put d) = put (next d)

theorem putField?_of_set (field : Field σ) (room : Nat) (draft : σ) (value : List Char)
    (h : field.isSet draft = true) : putField? field room draft value = none := by
  rw [putField?, if_pos h]

theorem putField?_eq_some_iff (field : Field σ) (room : Nat) (draft : σ) (value : List Char)
    (d : σ) : putField? field room draft value = some d ↔ field.isSet draft = false ∧
      ∃ put, field.read room value = .ok (put, []) ∧ put draft = d := by
  rw [putField?]
  split_ifs with hset
  · exact iff_of_false nofun fun h => absurd (hset.symm.trans h.1) nofun
  · simp only [Option.map_eq_some_iff, take?_eq_some_iff, eq_false_of_ne_true hset, true_and]

/-- A field is not put twice. -/
theorem putField?_twice (fields : List (Field σ)) (h : Lawful fields) (field : Field σ)
    (hfield : field ∈ fields) (room : Nat) (draft : σ) (value other : List Char) :
    ((putField? field room draft value).bind fun d => putField? field room d other) = none := by
  refine Option.bind_eq_none_iff.mpr fun d hd => ?_
  rcases (putField?_eq_some_iff field room draft value d).mp hd with ⟨_, put, hput, rfl⟩
  exact putField?_of_set field room _ other (h.marks field hfield room value put [] hput draft)

/-- If one field can be put and then another, then so in the other order. -/
theorem putField?_swap (fields : List (Field σ)) (h : Lawful fields) (f g : Field σ)
    (hf : f ∈ fields) (hg : g ∈ fields) (hne : f.key ≠ g.key) (room : Nat) (draft : σ)
    (value other : List Char) (d e : σ) (hd : putField? f room draft value = some d)
    (he : putField? g room d other = some e) :
    ((putField? g room draft other).bind fun d => putField? f room d value) = some e := by
  rcases (putField?_eq_some_iff f room draft value d).mp hd with ⟨hunset, put, hput, rfl⟩
  rcases (putField?_eq_some_iff g room _ other e).mp he with ⟨hfree, next, hnext, rfl⟩
  have hfirst := h.apart f hf g hg hne room value put [] other next [] hput hnext draft
  have hsecond := h.apart g hg f hf hne.symm room other next [] value put [] hnext hput draft
  rw [hfirst.1] at hfree
  refine Option.bind_eq_some_iff.mpr ⟨next draft, ?_, ?_⟩
  · exact (putField?_eq_some_iff g room draft other _).mpr ⟨hfree, next, hnext, rfl⟩
  · exact (putField?_eq_some_iff f room _ value _).mpr
      ⟨hsecond.1.trans hunset, put, hput, hsecond.2⟩

theorem putField?_comm (fields : List (Field σ)) (h : Lawful fields) (f g : Field σ)
    (hf : f ∈ fields) (hg : g ∈ fields) (hne : f.key ≠ g.key) (room : Nat) (draft : σ)
    (value other : List Char) :
    ((putField? f room draft value).bind fun d => putField? g room d other) =
      (putField? g room draft other).bind fun d => putField? f room d value := by
  refine Option.ext fun e => ⟨fun he => ?_, fun he => ?_⟩
  · rcases Option.bind_eq_some_iff.mp he with ⟨d, hd, he⟩
    exact putField?_swap fields h f g hf hg hne room draft value other d e hd he
  · rcases Option.bind_eq_some_iff.mp he with ⟨d, hd, he⟩
    exact putField?_swap fields h g f hg hf hne.symm room draft other value d e hd he

theorem put?_unknown (fields : List (Field σ)) (room : Nat) (draft : σ) (m : Member) (key : String)
    (hkey : m.key = some key) (hunknown : key ∉ fields.map Field.key) :
    put? fields room draft m = some draft := by
  have hfind : (fields.find? fun f => f.key = key) = none := by
    refine List.find?_eq_none.mpr fun field hfield hfound => hunknown ?_
    rw [← of_decide_eq_true hfound]
    exact List.mem_map_of_mem hfield
  rw [put?, hkey, Option.bind_some, hfind]

/-- What a member does to drafts: nothing ever comes of it, nothing is put, or a
    field is. -/
theorem put?_cases (fields : List (Field σ)) (room : Nat) (m : Member) :
    (∀ draft, put? fields room draft m = none) ∨ (∀ draft, put? fields room draft m = some draft) ∨
      ∃ field, (fields.find? fun f => f.key = field.key) = some field ∧
        ∀ draft, put? fields room draft m = putField? field room draft m.value := by
  cases hkey : m.key with
  | none =>
      refine Or.inl fun draft => ?_
      rw [put?, hkey, Option.bind_none]
  | some key =>
      cases hfind : fields.find? fun f => f.key = key with
      | none =>
          refine Or.inr (Or.inl fun draft => ?_)
          rw [put?, hkey, Option.bind_some, hfind]
      | some field =>
          have hfound := List.find?_some hfind
          rcases of_decide_eq_true hfound with rfl
          refine Or.inr (Or.inr ⟨field, hfind, fun draft => ?_⟩)
          rw [put?, hkey, Option.bind_some, hfind]

/-- Two members put the same in either order. -/
theorem put?_comm (fields : List (Field σ)) (h : Lawful fields) (room : Nat) (draft : σ)
    (m n : Member) :
    ((put? fields room draft m).bind fun d => put? fields room d n) =
      (put? fields room draft n).bind fun d => put? fields room d m := by
  rcases put?_cases fields room m with hm | hm | ⟨f, hf, hm⟩
  · simp only [hm, Option.bind_none, Option.bind_fun_none]
  · simp only [hm, Option.bind_some, Option.bind_fun_some]
  · rcases put?_cases fields room n with hn | hn | ⟨g, hg, hn⟩
    · simp only [hn, Option.bind_none, Option.bind_fun_none]
    · simp only [hn, Option.bind_some, Option.bind_fun_some]
    · simp only [hm, hn]
      have hfmem := List.mem_of_find?_eq_some hf
      have hgmem := List.mem_of_find?_eq_some hg
      -- Of two members with one key the second is refused, whichever that is.
      by_cases hsame : f.key = g.key
      · rw [hsame, hg] at hf
        rcases Option.some.inj hf with rfl
        rw [putField?_twice fields h g hgmem, putField?_twice fields h g hgmem]
      · exact putField?_comm fields h f g hfmem hgmem hsame room draft m.value n.value

/-- The order of the members does not matter to the draft. -/
theorem gather_perm (fields : List (Field σ)) (h : Lawful fields) (room : Nat)
    (ms others : List Member) (hperm : ms.Perm others) (draft : σ) :
    gather fields room draft ms = gather fields room draft others := by
  induction hperm generalizing draft with
  | nil => rfl
  | cons m hperm ih =>
      rw [gather, gather]
      exact Option.bind_congr fun next _ => ih next
  | swap m n ms =>
      have hcomm := put?_comm fields h room draft n m
      rw [gather, gather]
      simp only [gather, ← Option.bind_assoc, hcomm]
  | trans hfirst hsecond ihfirst ihsecond => exact (ihfirst draft).trans (ihsecond draft)

theorem gather_append (fields : List (Field σ)) (room : Nat) (draft : σ) (ms others : List Member) :
    gather fields room draft (ms ++ others) =
      (gather fields room draft ms).bind fun next => gather fields room next others := by
  induction ms generalizing draft with
  | nil => rfl
  | cons m ms ih =>
      rw [List.cons_append, gather, gather, Option.bind_assoc]
      exact Option.bind_congr fun next _ => ih next

theorem gather_unknown (fields : List (Field σ)) (room : Nat) (draft : σ) (ms : List Member)
    (h : ∀ m ∈ ms, Unknown (fields.map Field.key) m) :
    gather fields room draft ms = some draft := by
  induction ms with
  | nil => rfl
  | cons m ms ih =>
      rcases h m List.mem_cons_self with ⟨key, hkey, hunknown⟩
      rw [gather, put?_unknown fields room draft m key hkey hunknown, Option.bind_some]
      exact ih fun n hn => h n (List.mem_cons_of_mem m hn)

/-- Members may be exchanged and unknown ones put in anywhere. -/
theorem gather_insert (fields : List (Field σ)) (h : Lawful fields) (room : Nat) (draft : σ)
    (ms extra others : List Member) (hextra : ∀ m ∈ extra, Unknown (fields.map Field.key) m)
    (hperm : (ms ++ extra).Perm others) :
    gather fields room draft others = gather fields room draft ms := by
  rw [← gather_perm fields h room _ others hperm draft, gather_append]
  cases gather fields room draft ms with
  | none => rfl
  | some next => exact gather_unknown fields room next extra hextra

/-! ### Places in a draft -/

/-- A place in a draft, and how the value for it is read. -/
structure Slot (σ : Type) where
  content : Type
  key : String
  inList : Bool
  get : σ → Option content
  set : content → σ → σ
  read : Nat → Reader content

namespace Slot

/-- The field that puts a value into a place. -/
def field (x : Slot σ) : Field σ where
  key := x.key
  isSet := fun d => (x.get d).isSome
  inList := x.inList
  read := fun room s => x.read room s >>= fun y => .ok (x.set y.1, y.2)

/-- The value for a place is read by a reader of one value, and it gets there. -/
structure Fits (x : Slot σ) : Prop where
  oneValue : ∀ room, OneValue (x.read room)
  get_set : ∀ a d, x.get (x.set a d) = some a

/-- Two places have nothing to do with one another. -/
structure Apart (x y : Slot σ) : Prop where
  keeps : ∀ a d, y.get (x.set a d) = y.get d
  kept : ∀ b d, x.get (y.set b d) = x.get d
  commutes : ∀ a b d, y.set b (x.set a d) = x.set a (y.set b d)

theorem Apart.symm (x y : Slot σ) (h : Apart x y) : Apart y x :=
  ⟨h.kept, h.keeps, fun b a d => (h.commutes a b d).symm⟩

theorem exists_set (x : Slot σ) (room : Nat) (s : List Char) (put : σ → σ) (rest : List Char)
    (h : x.field.read room s = .ok (put, rest)) : ∃ a, put = x.set a := by
  rcases (bind_eq_ok _ _ _).mp h with ⟨y, _, h⟩
  exact ⟨y.1, (Prod.mk.inj (Except.ok.inj h)).1.symm⟩

end Slot

/-- The places of a draft: each has a key of its own and a reader of one value,
    and no two have anything to do with one another. -/
structure Places (slots : List (Slot σ)) : Prop where
  fits : ∀ x ∈ slots, x.Fits
  apart : slots.Pairwise Slot.Apart
  keys : (slots.map Slot.key).Nodup

theorem Places.eq_of_key (slots : List (Slot σ)) (h : Places slots) (x y : Slot σ) (hx : x ∈ slots)
    (hy : y ∈ slots) (hkey : x.key = y.key) : x = y :=
  List.inj_on_of_nodup_map h.keys hx hy hkey

theorem Places.apart_of_key (slots : List (Slot σ)) (h : Places slots) (x y : Slot σ)
    (hx : x ∈ slots) (hy : y ∈ slots) (hkey : x.key ≠ y.key) : Slot.Apart x y := by
  have hsymm : Std.Symm (@Slot.Apart σ) := ⟨Slot.Apart.symm⟩
  exact h.apart.forall hx hy fun heq => hkey (congrArg Slot.key heq)

/-- The fields of the places of a draft are lawful. -/
theorem Places.lawful (slots : List (Slot σ)) (h : Places slots) :
    Lawful (slots.map Slot.field) where
  oneValue room f hf := by
    rcases List.mem_map.mp hf with ⟨x, hx, rfl⟩
    exact oneValue_bind _ (fun a => some (x.set a)) _ ((h.fits x hx).oneValue room) fun _ _ => rfl
  marks f hf room s put rest hread d := by
    rcases List.mem_map.mp hf with ⟨x, hx, rfl⟩
    rcases x.exists_set room s put rest hread with ⟨a, rfl⟩
    exact congrArg Option.isSome ((h.fits x hx).get_set a d)
  apart f hf g hg hne room s put rest t next left hread hnext d := by
    rcases List.mem_map.mp hf with ⟨x, hx, rfl⟩
    rcases List.mem_map.mp hg with ⟨y, hy, rfl⟩
    rcases x.exists_set room s put rest hread with ⟨a, rfl⟩
    rcases y.exists_set room t next left hnext with ⟨b, rfl⟩
    have hxy := h.apart_of_key slots x y hx hy hne
    exact ⟨congrArg Option.isSome (hxy.keeps a d), hxy.commutes a b d⟩

end Record

end Json

end StreamRoster
