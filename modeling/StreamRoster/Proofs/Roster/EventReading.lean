import StreamRoster.Proofs.Json.Conversion
import StreamRoster.Roster.Event

/-!
# The Two Readings of an Event

An event is read straight from a text, and it is read from a tree. Each reading
has its own code: one gathers fields as their keys are met, the other looks the
keys up. They are shown to agree where no key of an event is repeated. A repeated
key is a fault of the text, but in a tree the last one counts.

The first reading is brought over to trees as a record of any kind is, and then
it is enough to compare two functions of a tree. In a list both take the first
elements. In an object, the draft is gathered member by member. What it holds in
the end is stated in terms of looking keys up, for a draft that may hold
something already, and that is the statement that goes through by induction.

## Main definitions

* `Tree.Last`: The last member with a key.
* `Event.field?`: What a field of an event makes of a tree.
* `Event.Unrepeated`: A tree that repeats no key of an event.
* `Event.become`, `Event.gathered`: What a field and a draft become.
* `Event.Holds`: How a tree holds an event.

## Theorems

* `Tree.lookup?_eq_some_iff`: What is looked up is the last member.
* `Event.converts_field?`: The fields read from a text what they make of a tree.
* `Event.gathered_type`, `Event.gathered_name`, `Event.gathered_count`: A
  member with a key of an event is gathered.
* `Event.ofMembers?_eq`: The draft in an object, by looking up its keys.
* `Event.ofElements?_eq`: The draft in a list, by its first elements.
* `Event.ofTree?_eq`, `Event.read_toOption`: The two readings agree.
* `Event.ofTree?_eq_some_iff`: The event in a tree is the one it holds.
* `Event.readAll_eq_ok_iff_ofTree?`: They agree on whole texts.
-/

namespace StreamRoster

namespace Json

namespace Tree

/-- The last member with a key. -/
def Last (key : String) (members : List (String × Tree)) (t : Tree) : Prop :=
  ∃ before after, members = before ++ (key, t) :: after ∧ key ∉ after.map Prod.fst

/-- What is looked up is the last member with the key. The search goes through the
    members from the back. -/
theorem lookup?_eq_some_iff (key : String) (members : List (String × Tree)) (t : Tree) :
    lookup? key members = some t ↔ Last key members t := by
  rw [lookup?, Option.map_eq_some_iff]
  refine ⟨fun h => ?_, fun h => ?_⟩
  · -- What is in front of the member in the reversed list is behind it here.
    rcases h with ⟨⟨other, u⟩, hfind, rfl⟩
    rcases List.find?_eq_some_iff_append.mp hfind with ⟨hkey, after, before, hmembers, hafter⟩
    rcases of_decide_eq_true hkey with rfl
    refine ⟨before.reverse, after.reverse, ?_, fun hmem => ?_⟩
    · rw [← List.reverse_reverse members, hmembers, List.reverse_append, List.reverse_cons,
        List.append_assoc]
      rfl
    · rcases List.mem_map.mp hmem with ⟨m, hm, hmkey⟩
      have hother := hafter m (List.mem_reverse.mp hm)
      rw [Bool.not_eq_true', decide_eq_false_iff_not] at hother
      exact hother hmkey
  · rcases h with ⟨before, after, rfl, hafter⟩
    refine ⟨(key, t), List.find?_eq_some_iff_append.mpr ⟨decide_eq_true rfl, after.reverse,
      before.reverse, ?_, fun m hm => ?_⟩, rfl⟩
    · rw [List.reverse_append, List.reverse_cons, List.append_assoc]
      rfl
    · rw [Bool.not_eq_true', decide_eq_false_iff_not]
      rintro rfl
      exact hafter (List.mem_map_of_mem (List.mem_reverse.mp hm))

/-- A first member with another key is not found. -/
theorem lookup?_cons_of_ne (key other : String) (t : Tree) (members : List (String × Tree))
    (h : other ≠ key) : lookup? key ((other, t) :: members) = lookup? key members := by
  rw [lookup?, lookup?, List.reverse_cons, List.find?_append,
    List.find?_cons_of_neg (by simpa using h), List.find?_nil, Option.or_none]

/-- Nothing is found under a key that no member has. -/
theorem lookup?_eq_none (key : String) (members : List (String × Tree))
    (h : key ∉ members.map Prod.fst) : lookup? key members = none := by
  rw [lookup?, Option.map_eq_none_iff, List.find?_eq_none]
  intro m hm hkey
  refine h (List.mem_map.mpr ⟨m, List.mem_reverse.mp hm, ?_⟩)
  exact of_decide_eq_true hkey

/-- A first member is found if no later one has its key. -/
theorem lookup?_cons_self (key : String) (t : Tree) (members : List (String × Tree))
    (h : key ∉ members.map Prod.fst) : lookup? key ((key, t) :: members) = some t :=
  (lookup?_eq_some_iff key _ t).mpr ⟨[], members, rfl, h⟩

end Tree

end Json

open Json

namespace Event

variable {β : Type}

/-- The count that a tree is. -/
def count? (t : Tree) : Option UInt64 := (Count.ofTree t).toOption

/-- What a field of an event makes of a tree. -/
def field? (key : String) (t : Tree) : Option (Draft → Draft) :=
  if key = "type" then t.text?.map fun tag d => { d with kind := some (.ofTag tag) }
  else if key = "name" then t.text?.map fun name d => { d with name := some name }
  else (count? t).map fun n d => { d with count := some n }

/-- The fields of an event read from a text what they make of the tree there. -/
theorem converts_field? : Converts record.fields field? := by
  intro field hfield room s t rest h
  simp only [record, List.mem_cons, List.not_mem_nil, or_false] at hfield
  rcases hfield with rfl | rfl | rfl
  · simp only [EventKind.read, toOption_bind, anyText_toOption room s t rest h, field?, if_true]
    cases t.text? <;> rfl
  · simp only [toOption_bind, anyText_toOption room s t rest h]
    rw [field?, if_neg (by decide), if_pos rfl]
    cases t.text? <;> rfl
  · simp only [Count.read, h, ok_bind]
    rw [field?, if_neg (by decide), if_neg (by decide), count?]
    cases hcount : Count.ofTree t <;> rfl

/-- The keys of an event. -/
def keys : List String := ["type", "name", "dataCount"]

/-- A tree that repeats no key of an event. -/
def Unrepeated : Tree → Prop
  | .object members => ∀ key ∈ keys, (members.map Prod.fst).count key ≤ 1
  | _ => True

/-- What a field of a draft becomes: what is found for it, if that is anything
    for it, and else what it was. -/
def become (old : Option β) (convert : Tree → Option β) : Option Tree → Option (Option β)
  | none => some old
  | some t => (convert t).map some

/-- What a draft becomes by the members of an object, by looking up its keys. -/
def gathered (draft : Draft) (members : List (String × Tree)) : Option Draft :=
  (become draft.kind (fun t => t.text?.map EventKind.ofTag)
      (Tree.lookup? "type" members)).bind fun kind =>
    (become draft.name Tree.text? (Tree.lookup? "name" members)).bind fun name =>
      (become draft.count count? (Tree.lookup? "dataCount" members)).map fun count =>
        ⟨kind, name, count⟩

/-- A first member with the tag sets the kind, if it is a text. Its key does not
    come again, so nothing else sets it. -/
theorem gathered_type (draft : Draft) (t : Tree) (members : List (String × Tree))
    (h : "type" ∉ members.map Prod.fst) :
    gathered draft (("type", t) :: members) =
      t.text?.bind fun tag => gathered { draft with kind := some (.ofTag tag) } members := by
  simp only [gathered, Tree.lookup?_cons_self _ _ _ h, Tree.lookup?_eq_none _ _ h,
    Tree.lookup?_cons_of_ne "name" _ _ _ (show "type" ≠ "name" by decide),
    Tree.lookup?_cons_of_ne "dataCount" _ _ _ (show "type" ≠ "dataCount" by decide)]
  rw [become]
  cases t.text? <;> rfl

theorem gathered_name (draft : Draft) (t : Tree) (members : List (String × Tree))
    (h : "name" ∉ members.map Prod.fst) :
    gathered draft (("name", t) :: members) =
      t.text?.bind fun name => gathered { draft with name := some name } members := by
  simp only [gathered, Tree.lookup?_cons_self _ _ _ h, Tree.lookup?_eq_none _ _ h,
    Tree.lookup?_cons_of_ne "type" _ _ _ (show "name" ≠ "type" by decide),
    Tree.lookup?_cons_of_ne "dataCount" _ _ _ (show "name" ≠ "dataCount" by decide)]
  -- The kind is looked up first, and it may be missing where the name is no text.
  generalize become draft.kind _ (Tree.lookup? "type" members) = kind?
  rw [become]
  cases t.text? with
  | none => cases kind? <;> rfl
  | some name => rfl

theorem gathered_count (draft : Draft) (t : Tree) (members : List (String × Tree))
    (h : "dataCount" ∉ members.map Prod.fst) :
    gathered draft (("dataCount", t) :: members) =
      (count? t).bind fun n => gathered { draft with count := some n } members := by
  simp only [gathered, Tree.lookup?_cons_self _ _ _ h, Tree.lookup?_eq_none _ _ h,
    Tree.lookup?_cons_of_ne "type" _ _ _ (show "dataCount" ≠ "type" by decide),
    Tree.lookup?_cons_of_ne "name" _ _ _ (show "dataCount" ≠ "name" by decide)]
  -- Here both of the others come first.
  generalize become draft.kind _ (Tree.lookup? "type" members) = kind?
  generalize become draft.name _ (Tree.lookup? "name" members) = name?
  rw [become]
  cases count? t with
  | none =>
      cases kind? with
      | none => rfl
      | some kind => cases name? <;> rfl
  | some n => rfl

/-- A first member with any other key sets nothing. -/
theorem gathered_other (draft : Draft) (key : String) (t : Tree) (members : List (String × Tree))
    (hkey : key ∉ keys) : gathered draft ((key, t) :: members) = gathered draft members := by
  have hne : ∀ k ∈ keys, key ≠ k := fun k hk heq => hkey (heq ▸ hk)
  simp only [gathered, Tree.lookup?_cons_of_ne _ _ _ _ (hne "type" (by decide)),
    Tree.lookup?_cons_of_ne _ _ _ _ (hne "name" (by decide)),
    Tree.lookup?_cons_of_ne _ _ _ _ (hne "dataCount" (by decide))]

/-- A draft whose fields are not met again becomes what is gathered for it. -/
theorem ofMembers?_eq (draft : Draft) (members : List (String × Tree))
    (hrepeat : Unrepeated (.object members))
    (hkind : draft.kind.isSome → "type" ∉ members.map Prod.fst)
    (hname : draft.name.isSome → "name" ∉ members.map Prod.fst)
    (hcount : draft.count.isSome → "dataCount" ∉ members.map Prod.fst) :
    Record.ofMembers? record.fields field? draft members = gathered draft members := by
  induction members generalizing draft with
  | nil => rfl
  | cons m members ih =>
      rcases m with ⟨key, t⟩
      -- What does not come twice does not come twice in less.
      have hmore : Unrepeated (.object members) :=
        fun k hk => Nat.le_trans List.count_le_count_cons (hrepeat k hk)
      -- A key of an event that comes now does not come again.
      have hlast : ∀ k ∈ keys, key = k → k ∉ members.map Prod.fst := by
        intro k hk hkey hmem
        have hone := hrepeat k hk
        rw [List.map_cons, hkey, List.count_cons_self] at hone
        exact absurd (List.count_pos_iff.mpr hmem) (by omega)
      have htail : ∀ k, k ∉ ((key, t) :: members).map Prod.fst → k ∉ members.map Prod.fst :=
        fun k hk hmem => hk (List.mem_cons_of_mem key hmem)
      by_cases hknown : key ∈ keys
      · simp only [keys, List.mem_cons, List.not_mem_nil, or_false] at hknown
        rcases hknown with rfl | rfl | rfl
        -- Each time one field is set, and its key is not among the other members.
        · have hnext := hlast "type" (by decide) rfl
          have hunset := eq_false_of_ne_true fun h => hkind h List.mem_cons_self
          have hfield : field? "type" t =
              t.text?.map fun tag d => { d with kind := some (.ofTag tag) } := rfl
          rw [Record.ofMembers?_known _ _ draft "type" t members _ rfl hunset, hfield,
            Option.bind_map, gathered_type draft t members hnext]
          exact Option.bind_congr fun tag _ => ih _ hmore (fun _ => hnext)
            (fun h => htail _ (hname h)) (fun h => htail _ (hcount h))
        · have hnext := hlast "name" (by decide) rfl
          have hunset := eq_false_of_ne_true fun h => hname h List.mem_cons_self
          have hfield : field? "name" t =
              t.text?.map fun name d => { d with name := some name } := rfl
          rw [Record.ofMembers?_known _ _ draft "name" t members _ rfl hunset, hfield,
            Option.bind_map, gathered_name draft t members hnext]
          exact Option.bind_congr fun name _ => ih _ hmore (fun h => htail _ (hkind h))
            (fun _ => hnext) (fun h => htail _ (hcount h))
        · have hnext := hlast "dataCount" (by decide) rfl
          have hunset := eq_false_of_ne_true fun h => hcount h List.mem_cons_self
          have hfield : field? "dataCount" t =
              (count? t).map fun n d => { d with count := some n } := rfl
          rw [Record.ofMembers?_known _ _ draft "dataCount" t members _ rfl hunset, hfield,
            Option.bind_map, gathered_count draft t members hnext]
          exact Option.bind_congr fun n _ => ih _ hmore (fun h => htail _ (hkind h))
            (fun h => htail _ (hname h)) (fun _ => hnext)
      · -- An unknown key leaves the draft as it is on both sides.
        rw [Record.ofMembers?_unknown record.fields field? draft key t members hknown,
          gathered_other draft key t members hknown]
        exact ih draft hmore (fun h => htail _ (hkind h)) (fun h => htail _ (hname h))
          (fun h => htail _ (hcount h))

/-- What the other reading makes of the three parts of an event. -/
theorem ofFields?_eq (kind name : Tree) (count : Option Tree) :
    ofFields? kind name count = kind.text?.bind fun tag => name.text?.bind fun text =>
      (become none count? count).map fun n => ⟨.ofTag tag, text, n.getD 0⟩ := by
  cases kind with
  | text tag =>
      cases name with
      | text text =>
          cases count with
          | none => rfl
          | some t =>
              simp only [ofFields?, become, Tree.text?, count?, Option.bind_some]
              cases (Count.ofTree t).toOption <;> rfl
      | null | boolean b | number n | array items | object members => rfl
  | null | boolean b | number n | array items | object members => rfl

/-- The first element of a list is the tag. -/
theorem ofElements?_cons (kind : Tree) (items : List Tree) :
    Record.ofElements? field? record.fields record.start (kind :: items) =
      kind.text?.bind fun tag =>
        Record.ofElements? field? (record.fields.drop 1) ⟨some (.ofTag tag), none, none⟩
          items := by
  have hfield : field? "type" kind =
      kind.text?.map fun tag d => { d with kind := some (.ofTag tag) } := rfl
  rw [record, Record.ofElements?, hfield, Option.bind_map]
  rfl

theorem ofElements?_cons_cons (kind name : Tree) (items : List Tree) :
    Record.ofElements? field? record.fields record.start (kind :: name :: items) =
      kind.text?.bind fun tag => name.text?.bind fun text =>
        (become none count? items.head?).map fun count =>
          (⟨some (.ofTag tag), some text, count⟩, items.tail) := by
  have hname : field? "name" name = name.text?.map fun text d => { d with name := some text } := rfl
  rw [ofElements?_cons]
  refine Option.bind_congr fun tag _ => ?_
  rw [record, List.drop_one, List.tail_cons, Record.ofElements?, hname, Option.bind_map]
  refine Option.bind_congr fun text _ => ?_
  cases items with
  | nil => rfl
  | cons t items =>
      have hcount : field? "dataCount" t = (count? t).map fun n d => { d with count := some n } :=
        rfl
      rw [Function.comp_apply, Record.ofElements?, hcount, Option.bind_map, List.head?_cons, become]
      cases count? t <;> rfl

/-- The event in a list, by its first elements. -/
theorem ofElements?_eq (items : List Tree) :
    record.ofTree? field? (.array items) = ofTree? (.array items) := by
  rcases items with _ | ⟨kind, _ | ⟨name, items⟩⟩
  · rfl
  · rw [Record.ofTree?, ofElements?_cons]
    cases kind.text? <;> rfl
  · have hshort : record.ofTree? field? (.array (kind :: name :: items)) =
        if items.tail.isEmpty then ofFields? kind name items.head? else none := by
      rw [Record.ofTree?, ofElements?_cons_cons, ofFields?_eq]
      cases kind.text? with
      | none => exact (ite_self none).symm
      | some tag =>
          cases name.text? with
          | none => exact (ite_self none).symm
          | some text =>
              cases become none count? items.head? with
              | none => exact (ite_self none).symm
              | some count => rfl
    rw [hshort]
    -- A fourth element is one too many for either reading.
    rcases items with _ | ⟨count, _ | ⟨more, items⟩⟩ <;> rfl

/-- What is gathered comes to an event if a kind and a name were found. -/
theorem finish_gathered (members : List (String × Tree)) :
    ((gathered record.start members).bind fun draft => (record.finish draft).toOption) =
      ofTree? (.object members) := by
  rw [gathered, ofTree?]
  generalize Tree.lookup? "type" members = kind?
  generalize Tree.lookup? "name" members = name?
  generalize hnumber : become record.start.count count? (Tree.lookup? "dataCount" members) = number?
  -- A missing tag or name ends the right side at once, and the left side only when
  -- the draft is finished.
  cases kind? with
  | none =>
      cases become record.start.name Tree.text? name? with
      | none => rfl
      | some name => cases number? <;> rfl
  | some kind =>
      rw [become]
      cases name? with
      | none =>
          cases kind.text? with
          | none => rfl
          | some tag => cases number? <;> rfl
      | some name =>
          have hcount : become none count? (Tree.lookup? "dataCount" members) = number? := hnumber
          refine Eq.trans ?_ (ofFields?_eq kind name (Tree.lookup? "dataCount" members)).symm
          rw [become, hcount]
          cases kind.text? with
          | none => rfl
          | some tag =>
              cases name.text? with
              | none => rfl
              | some text => cases number? <;> rfl

/-- A tree that repeats no key of an event holds the same event for both
    readings. -/
theorem ofTree?_eq (t : Tree) (h : Unrepeated t) : record.ofTree? field? t = ofTree? t := by
  cases t with
  | null | boolean b | number n | text a => rfl
  | array items => exact ofElements?_eq items
  | object members =>
      -- At the start nothing is set, so nothing has to be kept from coming again.
      have hunset : ∀ {γ : Type} (p : Prop), (none : Option γ).isSome = true → p :=
        fun p h => absurd h Bool.false_ne_true
      rw [Record.ofTree?, ofMembers?_eq record.start members h (hunset _) (hunset _) (hunset _)]
      exact finish_gathered members

/-- Reading an event from a text is reading a tree and taking the event out of
    it, if that tree repeats no key. -/
theorem read_toOption (room : Nat) (s : List Char) (t : Tree) (rest : List Char)
    (h : tree room s = .ok (t, rest)) (hrepeat : Unrepeated t) :
    (read room s).toOption = (ofTree? t).map fun e => (e, rest) := by
  rw [← ofTree?_eq t hrepeat]
  exact record.read_toOption field? converts_field? room s t rest h

/-! ### What an event looks like -/

/-- The count among the members of an object. Without one it is zero. -/
def CountIn (members : List (String × Tree)) (n : UInt64) : Prop :=
  (∃ t, Tree.Last "dataCount" members t ∧ Count.ofTree t = .ok n) ∨
    (∀ t, ¬Tree.Last "dataCount" members t) ∧ n = 0

/-- How a tree holds an event: under the last members with its keys, or in a
    list of two or three. A tag may be any text. -/
inductive Holds : Tree → Event → Prop where
  | object (members : List (String × Tree)) (tag name : String) (n : UInt64)
      (htag : Tree.Last "type" members (.text tag))
      (hname : Tree.Last "name" members (.text name)) (hcount : CountIn members n) :
      Holds (.object members) ⟨.ofTag tag, name, n⟩
  | pair (tag name : String) : Holds (.array [.text tag, .text name]) ⟨.ofTag tag, name, 0⟩
  | triple (tag name : String) (count : Tree) (n : UInt64) (hcount : Count.ofTree count = .ok n) :
      Holds (.array [.text tag, .text name, count]) ⟨.ofTag tag, name, n⟩

theorem text?_eq_some_iff (t : Tree) (a : String) : t.text? = some a ↔ t = .text a := by
  cases t with
  | text b => exact ⟨fun h => congrArg Tree.text (Option.some.inj h), fun h => by cases h; rfl⟩
  | null | boolean b | number n | array items | object members => exact iff_of_false nofun nofun

/-- Three parts are an event if the first two are texts and the third is a count or
    missing. -/
theorem ofFields?_eq_some_iff (kind name : Tree) (count : Option Tree) (e : Event) :
    ofFields? kind name count = some e ↔ ∃ tag text n, kind = .text tag ∧ name = .text text ∧
      ((∃ t, count = some t ∧ Count.ofTree t = .ok n) ∨ count = none ∧ n = 0) ∧
      e = ⟨.ofTag tag, text, n⟩ := by
  refine ⟨fun h => ?_, fun h => ?_⟩
  · rw [ofFields?_eq] at h
    rcases Option.bind_eq_some_iff.mp h with ⟨tag, htag, h⟩
    rcases Option.bind_eq_some_iff.mp h with ⟨text, htext, h⟩
    rcases Option.map_eq_some_iff.mp h with ⟨found, hfound, rfl⟩
    refine ⟨tag, text, found.getD 0, (text?_eq_some_iff kind tag).mp htag,
      (text?_eq_some_iff name text).mp htext, ?_, rfl⟩
    cases count with
    | none =>
        rcases Option.some.inj hfound with rfl
        exact Or.inr ⟨rfl, rfl⟩
    | some t =>
        rcases Option.map_eq_some_iff.mp hfound with ⟨n, hn, rfl⟩
        exact Or.inl ⟨t, rfl, (toOption_eq_some_iff _ n).mp hn⟩
  · rcases h with ⟨tag, text, n, rfl, rfl, ⟨t, rfl, hn⟩ | ⟨rfl, rfl⟩, rfl⟩
    · rw [ofFields?, hn]
      rfl
    · rfl

/-- A list holds an event if it has two or three elements that are one. -/
theorem ofArray?_eq_some_iff (items : List Tree) (e : Event) :
    ofTree? (.array items) = some e ↔ Holds (.array items) e := by
  rcases items with _ | ⟨kind, _ | ⟨name, _ | ⟨count, _ | ⟨more, items⟩⟩⟩⟩
  · exact iff_of_false nofun fun h => by cases h
  · exact iff_of_false nofun fun h => by cases h
  · rw [ofTree?, ofFields?_eq_some_iff]
    refine ⟨fun h => ?_, fun h => ?_⟩
    · rcases h with ⟨tag, text, n, rfl, rfl, ⟨t, ht, _⟩ | ⟨_, rfl⟩, rfl⟩
      · cases ht
      · exact Holds.pair tag text
    · cases h with
      | pair tag text => exact ⟨tag, text, 0, rfl, rfl, Or.inr ⟨rfl, rfl⟩, rfl⟩
  · rw [ofTree?, ofFields?_eq_some_iff]
    refine ⟨fun h => ?_, fun h => ?_⟩
    · rcases h with ⟨tag, text, n, rfl, rfl, ⟨t, ht, hn⟩ | ⟨ht, _⟩, rfl⟩
      · rcases Option.some.inj ht with rfl
        exact Holds.triple tag text count n hn
      · cases ht
    · cases h with
      | triple tag text t n hn => exact ⟨tag, text, n, rfl, rfl, Or.inl ⟨count, rfl, hn⟩, rfl⟩
  · exact iff_of_false nofun fun h => by cases h

/-- An object holds an event if the last members with its keys are one. -/
theorem ofObject?_eq_some_iff (members : List (String × Tree)) (e : Event) :
    ofTree? (.object members) = some e ↔ Holds (.object members) e := by
  -- A count is missing exactly if nothing is looked up for it.
  have hcount : ∀ n, CountIn members n ↔
      (∃ t, Tree.lookup? "dataCount" members = some t ∧ Count.ofTree t = .ok n) ∨
        Tree.lookup? "dataCount" members = none ∧ n = 0 := by
    intro n
    simp only [CountIn, ← Tree.lookup?_eq_some_iff, Option.eq_none_iff_forall_ne_some, ne_eq]
  refine ⟨fun h => ?_, fun h => ?_⟩
  · rcases Option.bind_eq_some_iff.mp h with ⟨kind, hkind, h⟩
    rcases Option.bind_eq_some_iff.mp h with ⟨name, hname, h⟩
    rcases (ofFields?_eq_some_iff _ _ _ e).mp h with ⟨tag, text, n, rfl, rfl, hn, rfl⟩
    exact Holds.object members tag text n ((Tree.lookup?_eq_some_iff _ _ _).mp hkind)
      ((Tree.lookup?_eq_some_iff _ _ _).mp hname) ((hcount n).mpr hn)
  · cases h with
    | object members tag text n htag hname hn =>
        rw [ofTree?, (Tree.lookup?_eq_some_iff _ _ _).mpr htag,
          (Tree.lookup?_eq_some_iff _ _ _).mpr hname]
        exact (ofFields?_eq_some_iff _ _ _ _).mpr ⟨tag, text, n, rfl, rfl, (hcount n).mp hn, rfl⟩

/-- A tree holds the event that is taken out of it, and no other. -/
theorem ofTree?_eq_some_iff (t : Tree) (e : Event) : ofTree? t = some e ↔ Holds t e := by
  cases t with
  | null | boolean b | number n | text a => exact iff_of_false nofun fun h => by cases h
  | array items => exact ofArray?_eq_some_iff items e
  | object members => exact ofObject?_eq_some_iff members e

theorem readAll_eq_ok_iff_ofTree? (room : Nat) (text : String) (t : Tree)
    (h : readAll (tree room) text = .ok t) (hrepeat : Unrepeated t) (e : Event) :
    readAll (read room) text = .ok e ↔ ofTree? t = some e := by
  rcases (readAll_eq_ok_iff _ text t).mp h with ⟨rest, htree, hrest⟩
  have hread := read_toOption room _ t rest htree hrepeat
  rw [readAll_eq_ok_iff]
  refine ⟨fun he => ?_, fun he => ⟨rest, ?_, hrest⟩⟩
  · rcases he with ⟨left, he, _⟩
    rw [he] at hread
    rcases Option.map_eq_some_iff.mp hread.symm with ⟨f, hf, heq⟩
    rw [hf, (Prod.mk.inj heq).1]
  · rw [he] at hread
    exact (toOption_eq_some_iff _ _).mp hread

end Event

end StreamRoster
