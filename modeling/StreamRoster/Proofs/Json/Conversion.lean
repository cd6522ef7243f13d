import StreamRoster.Json.Record
import StreamRoster.Proofs.Json.Leniency

/-!
# Records Out of Trees

A record is read straight from the text, field by field as the keys are met, and
what does not belong to it is passed over unread. The same value can be had by
way of a tree: read the value whole, whatever it is, and then look for the
fields in it.

`Record.ofTree?` is that second way for any record, given what each field makes
of a tree. It has the rules of the first one: a field that is met twice is an
error, unknown members do not count, and a list holds the fields in order.
`read_toOption` says that the two ways come to the same value, or to none, if
they do so field by field. It only speaks of values that can be read as trees,
since an unknown member is passed over with less care than it is read.

## Main definitions

* `Converts`: What the fields of a record make of a tree.
* `Record.ofMembers?`, `Record.ofElements?`: The draft in an object or a list.
* `Record.ofTree?`: A record in a tree.
* `Tree.text?`, `Tree.number?`, `Tree.integer?`: The text, the number or the
  integer that a tree is.
* `Tree.orNull?`: What is made of a tree that may be `null`.

## Theorems

* `ofMembers?_known`, `ofMembers?_unknown`: A member that is a field, and one
  that is none.
* `ofMembers?_eq_none`: A member that is a field of the wrong kind.
* `readMembers_toOption`, `readElements_toOption`: The two forms of a record.
* `read_toOption`: Reading a record is reading a tree and looking into it.
* `text_toOption`, `anyNumber_toOption`, `integer_toOption`,
  `nullable_toOption`: So is reading a string, a number, an integer of a range,
  or a value that may be `null`.
-/

namespace StreamRoster

namespace Json

variable {α β σ : Type}

theorem toOption_bind {ε : Type} (x : Except ε α) (f : α → Except ε β) :
    (x >>= f).toOption = x.toOption.bind fun a => (f a).toOption := by
  cases x <;> rfl

theorem ok_bind {ε : Type} (a : α) (f : α → Except ε β) : (Except.ok a >>= f) = f a :=
  rfl

theorem toOption_eq_some_iff {ε : Type} (x : Except ε α) (a : α) :
    x.toOption = some a ↔ x = .ok a := by
  cases x with
  | error e => exact iff_of_false nofun nofun
  | ok b =>
      exact ⟨fun h => congrArg Except.ok (Option.some.inj h),
        fun h => congrArg some (Except.ok.inj h)⟩

theorem wrongKind_ne_ok (expected : String) (s : List Char) (x : α) :
    wrongKind expected s ≠ .ok x := by
  intro h
  rw [wrongKind] at h
  split at h
  · cases h
  iterate 5
    · rcases (bind_eq_ok _ _ _).mp h with ⟨y, _, h⟩
      cases h
  · cases h
  · cases h
  · split_ifs at h
    · rcases (bind_eq_ok _ _ _).mp h with ⟨y, _, h⟩
      cases h
    · cases h

theorem wrongKind_toOption (expected : String) (s : List Char) :
    (wrongKind expected s : Except Failure α).toOption = none := by
  cases hwrong : (wrongKind expected s : Except Failure α) with
  | error e => rfl
  | ok x => exact absurd hwrong (wrongKind_ne_ok _ _ _)

/-- Fields that make of a tree what they read from its text. -/
def Converts (fields : List (Field σ)) (convert : String → Tree → Option (σ → σ)) : Prop :=
  ∀ field ∈ fields, ∀ room s t rest, tree room s = .ok (t, rest) →
    (field.read room s).toOption = (convert field.key t).map fun put => (put, rest)

namespace Record

/-- The draft in the members of an object. -/
def ofMembers? (fields : List (Field σ)) (convert : String → Tree → Option (σ → σ)) :
    σ → List (String × Tree) → Option σ
  | draft, [] => some draft
  | draft, (key, t) :: members =>
    match fields.find? fun f => f.key = key with
    | none => ofMembers? fields convert draft members
    | some field =>
      if field.isSet draft then none
      else (convert key t).bind fun put => ofMembers? fields convert (put draft) members

theorem ofMembers?_known (fields : List (Field σ)) (convert : String → Tree → Option (σ → σ))
    (draft : σ) (key : String) (t : Tree) (members : List (String × Tree)) (field : Field σ)
    (hfind : (fields.find? fun f => f.key = key) = some field)
    (hset : field.isSet draft = false) :
    ofMembers? fields convert draft ((key, t) :: members) =
      (convert key t).bind fun put => ofMembers? fields convert (put draft) members := by
  simp only [ofMembers?, hfind, hset, Bool.false_eq_true, if_false]

theorem ofMembers?_unknown (fields : List (Field σ)) (convert : String → Tree → Option (σ → σ))
    (draft : σ) (key : String) (t : Tree) (members : List (String × Tree))
    (hkey : key ∉ fields.map Field.key) :
    ofMembers? fields convert draft ((key, t) :: members) =
      ofMembers? fields convert draft members := by
  have hfind : (fields.find? fun f => f.key = key) = none := by
    refine List.find?_eq_none.mpr fun field hfield hfound => hkey ?_
    rw [← of_decide_eq_true hfound]
    exact List.mem_map_of_mem hfield
  rw [ofMembers?, hfind]

/-- A member that is a field but of the wrong kind makes a record of nothing,
    wherever it stands. -/
theorem ofMembers?_eq_none (fields : List (Field σ)) (convert : String → Tree → Option (σ → σ))
    (draft : σ) (members : List (String × Tree)) (key : String) (t : Tree) (field : Field σ)
    (hmem : (key, t) ∈ members) (hfind : (fields.find? fun f => f.key = key) = some field)
    (hnone : convert key t = none) : ofMembers? fields convert draft members = none := by
  induction members generalizing draft with
  | nil => exact absurd hmem List.not_mem_nil
  | cons m members ih =>
      rcases List.mem_cons.mp hmem with rfl | hmem
      · simp only [ofMembers?, hfind, hnone, Option.bind_none, ite_self]
      · simp only [ofMembers?]
        split
        · exact ih draft hmem
        · split_ifs
          · rfl
          · exact Option.bind_eq_none_iff.mpr fun put _ => ih (put draft) hmem

/-- The draft in the elements of a list, and the elements that are left over. -/
def ofElements? (convert : String → Tree → Option (σ → σ)) :
    List (Field σ) → σ → List Tree → Option (σ × List Tree)
  | [], draft, items => some (draft, items)
  | field :: fields, draft, t :: items =>
    (convert field.key t).bind fun put => ofElements? convert fields (put draft) items
  | field :: fields, draft, [] =>
    if field.inList then none else ofElements? convert fields draft []

/-- The record in a tree. -/
def ofTree? (r : Record σ α) (convert : String → Tree → Option (σ → σ)) : Tree → Option α
  | .object members =>
    (ofMembers? r.fields convert r.start members).bind fun draft => (r.finish draft).toOption
  | .array items =>
    (ofElements? convert r.fields r.start items).bind fun x =>
      if x.2.isEmpty then (r.finish x.1).toOption else none
  | _ => none

/-- The members of a record gather in the draft as they do in a tree. -/
theorem readMembers_toOption (fields : List (Field σ))
    (convert : String → Tree → Option (σ → σ)) (hconvert : Converts fields convert) (room : Nat)
    (fuel : Nat) (first : Bool) (draft : σ) (s : List Char) (ms : List (String × Tree))
    (rest : List Char) (h : members (tree room) fuel first s = .ok (ms, rest)) :
    (readMembers fields room fuel first draft s).toOption =
      (ofMembers? fields convert draft ms).map fun d => (d, rest) := by
  induction fuel generalizing first draft s ms with
  | zero => cases h
  | succ fuel ih =>
      rcases (bind_eq_ok _ _ _).mp h with ⟨⟨goes, t⟩, hgoes, h⟩
      cases goes with
      | false =>
          rcases Prod.mk.inj (Except.ok.inj h) with ⟨rfl, rfl⟩
          rw [readMembers, hgoes]
          rfl
      | true =>
          rcases (bind_eq_ok _ _ _).mp h with ⟨⟨key, u⟩, hkey, h⟩
          rcases (bind_eq_ok _ _ _).mp h with ⟨⟨_, v⟩, hcolon, h⟩
          rcases (bind_eq_ok _ _ _).mp h with ⟨⟨a, w⟩, ha, h⟩
          rcases (bind_eq_ok _ _ _).mp h with ⟨⟨as, x⟩, has, h⟩
          rcases Prod.mk.inj (Except.ok.inj h) with ⟨rfl, rfl⟩
          rw [readMembers, ofMembers?]
          simp only [hgoes, hkey, ok_bind]
          cases hfind : fields.find? fun f => f.key = key with
          | none =>
              simp only [hcolon, skip_of_tree room v a w ha, ok_bind]
              exact ih false draft w as has
          | some field =>
              -- A key that was met before is refused by both.
              by_cases hset : field.isSet draft = true
              · simp only [if_pos hset]
                rfl
              have hkeyed : field.key = key := by
                have hfound := List.find?_some hfind
                exact of_decide_eq_true hfound
              have hfield := hconvert field (List.mem_of_find?_eq_some hfind) room v a w ha
              rw [hkeyed] at hfield
              simp only [if_neg hset, hcolon, ok_bind]
              rw [toOption_bind, hfield]
              cases convert key a with
              | none => rfl
              | some put => exact ih false (put draft) w as has

theorem closeList_eq_ok_iff (s : List Char) (u : Unit) (rest : List Char) :
    closeList s = .ok (u, rest) ↔ skipSpace s = ']' :: rest := by
  rw [closeList]
  split
  · rename_i hs
    rw [hs]
    exact iff_of_false nofun nofun
  · rename_i t hs
    rw [hs, List.cons.injEq]
    exact ⟨fun h => ⟨rfl, (Prod.mk.inj (Except.ok.inj h)).2⟩, fun h => by rw [h.2]⟩
  · rename_i t hs
    rw [hs]
    refine iff_of_false ?_ nofun
    split <;> exact nofun
  · rename_i hempty hclose hcomma
    exact iff_of_false nofun fun h => hclose rest h

/-- A list can be closed where it has no elements left. -/
theorem closeList_toOption (read : Reader α) (fuel : Nat) (first : Bool) (s : List Char)
    (as : List α) (rest : List Char) (h : elements read fuel first s = .ok (as, ']' :: rest)) :
    (closeList s).toOption = if as.isEmpty then some ((), rest) else none := by
  cases fuel with
  | zero => cases h
  | succ fuel =>
      rcases (bind_eq_ok _ _ _).mp h with ⟨⟨goes, t⟩, hgoes, h⟩
      rw [hasElement_eq_ok_iff] at hgoes
      -- An element or a comma is no closing bracket.
      have hnone : ∀ c u, skipSpace s = c :: u → c ≠ ']' → (closeList s).toOption = none := by
        intro c u hs hc
        cases hclose : closeList s with
        | error e => rfl
        | ok x =>
            rw [(closeList_eq_ok_iff s x.1 x.2).mp hclose] at hs
            exact absurd (List.cons.inj hs).1.symm hc
      cases hgoes with
      | close t hs =>
          rcases Prod.mk.inj (Except.ok.inj h) with ⟨rfl, hrest⟩
          rcases List.cons.inj hrest with ⟨_, rfl⟩
          rw [(closeList_eq_ok_iff s () t).mpr hs]
          rfl
      | start c t hs hc =>
          rcases (bind_eq_ok _ _ _).mp h with ⟨⟨a, u⟩, ha, h⟩
          rcases (bind_eq_ok _ _ _).mp h with ⟨⟨bs, v⟩, hbs, h⟩
          rcases Prod.mk.inj (Except.ok.inj h) with ⟨rfl, _⟩
          exact hnone c t hs hc
      | next w c t hs =>
          rcases (bind_eq_ok _ _ _).mp h with ⟨⟨a, u⟩, ha, h⟩
          rcases (bind_eq_ok _ _ _).mp h with ⟨⟨bs, v⟩, hbs, h⟩
          rcases Prod.mk.inj (Except.ok.inj h) with ⟨rfl, _⟩
          exact hnone ',' w hs (by decide)

/-- The elements of a record gather in the draft as they do in a tree. What is
    made of the draft and the closing bracket come in between, so the rest of
    the reading is part of the statement. -/
theorem readElements_toOption (convert : String → Tree → Option (σ → σ)) (form : String)
    (room : Nat) (finish : σ → Option β) (rest : List Char) (fields : List (Field σ))
    (hconvert : Converts fields convert) (index fuel : Nat) (first : Bool) (draft : σ)
    (s : List Char) (items : List Tree)
    (h : elements (tree room) fuel first s = .ok (items, ']' :: rest)) :
    ((readElements form room fields index first draft s).toOption.bind fun x =>
        (finish x.1).bind fun b => (closeList x.2).toOption.bind fun y => some (b, y.2)) =
      (ofElements? convert fields draft items).bind fun x =>
        if x.2.isEmpty then (finish x.1).map fun b => (b, rest) else none := by
  induction fields generalizing index fuel first draft s items with
  | nil =>
      have hclose := closeList_toOption _ _ _ _ _ _ h
      show ((finish draft).bind fun b => (closeList s).toOption.bind fun y => some (b, y.2)) =
        if items.isEmpty then (finish draft).map fun b => (b, rest) else none
      rw [hclose]
      cases items with
      | nil => cases finish draft <;> rfl
      | cons t items => cases finish draft <;> rfl
  | cons field fields ih =>
      have htail : Converts fields convert :=
        fun other hother => hconvert other (List.mem_cons_of_mem field hother)
      cases fuel with
      | zero => cases h
      | succ fuel =>
          have helements := h
          rcases (bind_eq_ok _ _ _).mp h with ⟨⟨goes, t⟩, hgoes, h⟩
          cases goes with
          | false =>
              rcases Prod.mk.inj (Except.ok.inj h) with ⟨rfl, rfl⟩
              rw [readElements, ofElements?]
              simp only [hgoes, ok_bind]
              by_cases hlist : field.inList = true
              · simp only [if_pos hlist]
                rfl
              · -- The list has ended already, so its end is what all later fields see.
                simp only [if_neg hlist]
                exact ih htail (index + 1) (fuel + 1) first draft _ [] rfl
          | true =>
              rcases (bind_eq_ok _ _ _).mp h with ⟨⟨a, u⟩, ha, h⟩
              rcases (bind_eq_ok _ _ _).mp h with ⟨⟨bs, v⟩, hbs, h⟩
              rcases Prod.mk.inj (Except.ok.inj h) with ⟨rfl, rfl⟩
              have hfield := hconvert field List.mem_cons_self room t a u ha
              rw [readElements, ofElements?]
              simp only [hgoes, ok_bind]
              rw [toOption_bind, hfield]
              cases convert field.key a with
              | none => rfl
              | some put => exact ih htail (index + 1) fuel false (put draft) u bs hbs

theorem conclude_toOption (r : Record σ α) (draft : σ) (s : List Char) :
    (r.conclude draft s).toOption = (r.finish draft).toOption := by
  rw [conclude]
  cases r.finish draft <;> rfl

theorem read_list_toOption (r : Record σ α) (convert : String → Tree → Option (σ → σ))
    (hconvert : Converts r.fields convert) (room : Nat) (s : List Char) (t : Tree)
    (rest : List Char) (h : tree (room + 1) ('[' :: s) = .ok (t, rest)) :
    (r.read (room + 1) ('[' :: s)).toOption = (r.ofTree? convert t).map fun a => (a, rest) := by
  rcases (bind_eq_ok _ _ _).mp h with ⟨⟨items, u⟩, hitems, h⟩
  rcases (bind_eq_ok _ _ _).mp h with ⟨⟨_, v⟩, hclose, h⟩
  rcases Prod.mk.inj (Except.ok.inj h) with ⟨rfl, rfl⟩
  rcases elements_takes _ (tree_local room) (tree_nil room) _ _ _ _ _ hitems with
    ⟨_, w, _, rfl, _⟩
  rcases Prod.mk.inj (Except.ok.inj hclose) with ⟨_, rfl⟩
  -- The record goes through the same items, as many as it has fields.
  have hread : r.read (room + 1) ('[' :: s) =
      readElements (listForm r.name r.fields.length) room r.fields 0 true r.start s >>= fun x =>
        r.conclude x.1 x.2 >>= fun a => closeList x.2 >>= fun y => .ok (a, y.2) := rfl
  have helements := readElements_toOption convert (listForm r.name r.fields.length) room
    (fun draft => (r.finish draft).toOption) w r.fields hconvert 0 _ true r.start s items hitems
  rw [hread, ofTree?]
  simp only [toOption_bind, conclude_toOption]
  refine helements.trans ?_
  cases ofElements? convert r.fields r.start items with
  | none => rfl
  | some x =>
      simp only [Option.bind_some]
      split <;> rfl

theorem read_object_toOption (r : Record σ α) (convert : String → Tree → Option (σ → σ))
    (hconvert : Converts r.fields convert) (room : Nat) (s : List Char) (t : Tree)
    (rest : List Char) (h : tree (room + 1) ('\x7b' :: s) = .ok (t, rest)) :
    (r.read (room + 1) ('\x7b' :: s)).toOption =
      (r.ofTree? convert t).map fun a => (a, rest) := by
  rcases (bind_eq_ok _ _ _).mp h with ⟨⟨ms, u⟩, hms, h⟩
  rcases (bind_eq_ok _ _ _).mp h with ⟨⟨_, v⟩, hclose, h⟩
  rcases Prod.mk.inj (Except.ok.inj h) with ⟨rfl, rfl⟩
  have hread : r.read (room + 1) ('\x7b' :: s) =
      readMembers r.fields room (s.length + 1) true r.start s >>= fun x =>
        r.conclude x.1 x.2 >>= fun a => closeObject x.2 >>= fun y => .ok (a, y.2) := rfl
  rw [hread, ofTree?]
  simp only [toOption_bind, conclude_toOption]
  rw [readMembers_toOption r.fields convert hconvert room _ true r.start s ms u hms]
  cases ofMembers? r.fields convert r.start ms with
  | none => rfl
  | some draft =>
      simp only [Option.map_some, Option.bind_some, hclose]
      cases r.finish draft <;> rfl

/-- Reading a record is reading a tree and looking into it. -/
theorem read_toOption (r : Record σ α) (convert : String → Tree → Option (σ → σ))
    (hconvert : Converts r.fields convert) (room : Nat) (s : List Char) (t : Tree)
    (rest : List Char) (h : tree room s = .ok (t, rest)) :
    (r.read room s).toOption = (r.ofTree? convert t).map fun a => (a, rest) := by
  have hskip : r.read room (skipSpace s) = r.read room s := by
    rw [read, read, skipSpace_skipSpace]
  rw [← hskip]
  rcases tree_ok_cases room s t rest h with ⟨below, u, rfl, hs, hlist⟩ |
    ⟨below, u, rfl, hs, hobject⟩ | ⟨c, u, hs, hopen, hbrace, hscalar⟩
  · rw [hs]
    exact read_list_toOption r convert hconvert below u t rest hlist
  · rw [hs]
    exact read_object_toOption r convert hconvert below u t rest hobject
  -- Neither a list nor an object: both readings refuse it.
  · have hnone : r.ofTree? convert t = none := by
      rcases scalar_ok_cases _ t rest hscalar with ⟨v, text, _, _, rfl⟩ |
        ⟨_, rfl | ⟨b, rfl⟩ | ⟨n, rfl⟩⟩ <;> rfl
    rw [hs, hnone, read, skipSpace_cons c u (isSpace_of_skipSpace s c u hs)]
    split
    · rename_i heq
      exact absurd (List.cons.inj heq).1 hopen
    · rename_i heq
      exact absurd (List.cons.inj heq).1 hbrace
    · exact wrongKind_toOption _ _

end Record

/-! ### Fields of one kind -/

/-- The text that a tree is. -/
def Tree.text? : Tree → Option String
  | .text a => some a
  | _ => none

/-- The number that a tree is. -/
def Tree.number? : Tree → Option Number
  | .number n => some n
  | _ => none

/-- The integer of a range that a tree is. -/
def Tree.integer? (low high : Int) : Tree → Option Int
  | .number (.integer n) => if low ≤ n ∧ n ≤ high then some n else none
  | _ => none

/-- The natural of 32 bits that a tree is. -/
def Tree.unsigned32? (t : Tree) : Option Nat := (t.integer? 0 (0x100000000 - 1)).map Int.toNat

/-- What is made of a tree where `null` stands for nothing. -/
def Tree.orNull? (convert : Tree → Option β) : Tree → Option (Option β)
  | .null => some none
  | t => (convert t).map some

theorem Tree.orNull?_of_ne (convert : Tree → Option β) (t : Tree) (h : t ≠ .null) :
    t.orNull? convert = (convert t).map some := by
  cases t with
  | null => exact absurd rfl h
  | boolean | number | text | array | object => rfl

/-- What is read is a list, an object or a scalar. -/
theorem tree_shapes (room : Nat) (s : List Char) (t : Tree) (rest : List Char)
    (h : tree room s = .ok (t, rest)) :
    (∃ items u, skipSpace s = '[' :: u ∧ t = .array items) ∨
      (∃ members u, skipSpace s = '\x7b' :: u ∧ t = .object members) ∨
      ∃ c u, skipSpace s = c :: u ∧ isSpace c = false ∧ scalar (c :: u) = .ok (t, rest) := by
  rcases tree_ok_cases room s t rest h with ⟨below, u, rfl, hs, hlist⟩ |
    ⟨below, u, rfl, hs, hobject⟩ | ⟨c, u, hs, hopen, hbrace, hscalar⟩
  · rcases (bind_eq_ok _ _ _).mp hlist with ⟨x, _, hlist⟩
    rcases (bind_eq_ok _ _ _).mp hlist with ⟨_, _, hlist⟩
    exact Or.inl ⟨x.1, u, hs, (Prod.mk.inj (Except.ok.inj hlist)).1.symm⟩
  · rcases (bind_eq_ok _ _ _).mp hobject with ⟨x, _, hobject⟩
    rcases (bind_eq_ok _ _ _).mp hobject with ⟨_, _, hobject⟩
    exact Or.inr (Or.inl ⟨x.1, u, hs, (Prod.mk.inj (Except.ok.inj hobject)).1.symm⟩)
  · exact Or.inr (Or.inr ⟨c, u, hs, isSpace_of_skipSpace s c u hs, hscalar⟩)

theorem text_of_not_quote (expected : String) (s : List Char) (h : ∀ u, skipSpace s ≠ '"' :: u) :
    (text expected s).toOption = none := by
  rw [text]
  split
  · rename_i u hs
    exact absurd hs (h u)
  · exact wrongKind_toOption _ _

/-- Reading a string is reading a tree and looking whether it is a text. -/
theorem text_toOption (expected : String) (room : Nat) (s : List Char) (t : Tree)
    (rest : List Char) (h : tree room s = .ok (t, rest)) :
    (text expected s).toOption = t.text?.map fun a => (a, rest) := by
  rcases tree_shapes room s t rest h with ⟨items, u, hs, rfl⟩ | ⟨members, u, hs, rfl⟩ |
    ⟨c, u, hs, hc, hscalar⟩
  · exact text_of_not_quote expected s fun v hv =>
      absurd (List.cons.inj (hs.symm.trans hv)).1 (by decide)
  · exact text_of_not_quote expected s fun v hv =>
      absurd (List.cons.inj (hs.symm.trans hv)).1 (by decide)
  · have hskip : skipSpace (c :: u) = skipSpace s := by rw [← hs, skipSpace_skipSpace]
    rcases scalar_ok_cases _ t rest hscalar with ⟨v, a, hv, ha, rfl⟩ | ⟨hquote, hflat⟩
    · rw [hskip] at hv
      rw [text, hv]
      simp only [ha]
      rfl
    · rw [hskip] at hquote
      rw [text_of_not_quote expected s hquote]
      rcases hflat with rfl | ⟨b, rfl⟩ | ⟨n, rfl⟩ <;> rfl

theorem anyText_toOption (room : Nat) (s : List Char) (t : Tree) (rest : List Char)
    (h : tree room s = .ok (t, rest)) :
    (anyText s).toOption = t.text?.map fun a => (a, rest) :=
  text_toOption "a string" room s t rest h

theorem anyNumber_of_other (expected : String) (c : Char) (u : List Char) (s : List Char)
    (hs : skipSpace s = c :: u) (hminus : c ≠ '-') (hdigit : c.isDigit = false) :
    (anyNumber expected s).toOption = none := by
  rw [anyNumber, hs]
  split
  · rename_i heq
    exact absurd (List.cons.inj heq).1 hminus
  · rename_i heq
    rcases List.cons.inj heq with ⟨rfl, rfl⟩
    rw [if_neg (ne_true_of_eq_false hdigit)]
    exact wrongKind_toOption _ _
  · rfl

/-- A scalar is a number behind a sign or from a digit on, and else it is none. -/
theorem scalar_number_cases (c : Char) (u : List Char) (t : Tree) (rest : List Char)
    (hc : isSpace c = false) (h : scalar (c :: u) = .ok (t, rest)) :
    (∃ n, c = '-' ∧ number true u = .ok (n, rest) ∧ t = .number n) ∨
      (∃ n, c.isDigit = true ∧ number false (c :: u) = .ok (n, rest) ∧ t = .number n) ∨
      c ≠ '-' ∧ c.isDigit = false ∧ t.number? = none := by
  rw [scalar, skipSpace_cons c u hc] at h
  split at h
  · cases h
  -- The three words are no numbers, and neither is a string below.
  iterate 3
    · rename_i heq
      rcases List.cons.inj heq with ⟨rfl, rfl⟩
      rcases (bind_eq_ok _ _ _).mp h with ⟨_, _, h⟩
      rcases Prod.mk.inj (Except.ok.inj h) with ⟨rfl, _⟩
      exact Or.inr (Or.inr ⟨by decide, rfl, rfl⟩)
  · rename_i heq
    rcases List.cons.inj heq with ⟨rfl, rfl⟩
    rcases (bind_eq_ok _ _ _).mp h with ⟨⟨n, v⟩, hn, h⟩
    rcases Prod.mk.inj (Except.ok.inj h) with ⟨rfl, rfl⟩
    exact Or.inl ⟨n, rfl, hn, rfl⟩
  · rename_i heq
    rcases List.cons.inj heq with ⟨rfl, rfl⟩
    rcases (bind_eq_ok _ _ _).mp h with ⟨_, _, h⟩
    rcases Prod.mk.inj (Except.ok.inj h) with ⟨rfl, _⟩
    exact Or.inr (Or.inr ⟨by decide, rfl, rfl⟩)
  · rename_i heq
    rcases List.cons.inj heq with ⟨rfl, rfl⟩
    split_ifs at h with hdigit
    · rcases (bind_eq_ok _ _ _).mp h with ⟨⟨n, v⟩, hn, h⟩
      rcases Prod.mk.inj (Except.ok.inj h) with ⟨rfl, rfl⟩
      exact Or.inr (Or.inl ⟨n, hdigit, hn, rfl⟩)
    · cases h

/-- Reading a number is reading a tree and looking whether it is one. -/
theorem anyNumber_toOption (expected : String) (room : Nat) (s : List Char) (t : Tree)
    (rest : List Char) (h : tree room s = .ok (t, rest)) :
    (anyNumber expected s).toOption = t.number?.map fun n => (n, rest) := by
  rcases tree_shapes room s t rest h with ⟨items, u, hs, rfl⟩ | ⟨members, u, hs, rfl⟩ |
    ⟨c, u, hs, hc, hscalar⟩
  · exact anyNumber_of_other expected '[' u s hs (by decide) rfl
  · exact anyNumber_of_other expected '\x7b' u s hs (by decide) rfl
  · rcases scalar_number_cases c u t rest hc hscalar with
      ⟨n, rfl, hn, rfl⟩ | ⟨n, hdigit, hn, rfl⟩ | ⟨hminus, hdigit, hnone⟩
    · simp only [anyNumber, hs, hn]
      rfl
    · have hminus : c ≠ '-' := by
        rintro rfl
        exact absurd hdigit nofun
      rw [anyNumber, hs]
      simp only [if_pos hdigit, hn]
      rfl
    · rw [hnone]
      exact anyNumber_of_other expected c u s hs hminus hdigit

/-- Reading an integer of a range is reading a tree and looking whether it is
    one. -/
theorem integer_toOption (low high : Int) (expected : String) (room : Nat) (s : List Char)
    (t : Tree) (rest : List Char) (h : tree room s = .ok (t, rest)) :
    (integer low high expected s).toOption = (t.integer? low high).map fun n => (n, rest) := by
  rw [integer, toOption_bind, anyNumber_toOption expected room s t rest h]
  cases t with
  | null | boolean | text | array | object => rfl
  | number n =>
      cases n with
      | float x => rfl
      | integer n =>
          simp only [Tree.number?, Option.map_some, Option.bind_some, Number.within, Tree.integer?]
          split_ifs <;> rfl

theorem unsigned32_toOption (room : Nat) (s : List Char) (t : Tree) (rest : List Char)
    (h : tree room s = .ok (t, rest)) :
    (unsigned32 s).toOption = t.unsigned32?.map fun n => (n, rest) := by
  rw [unsigned32, toOption_bind, integer_toOption _ _ _ room s t rest h, Tree.unsigned32?]
  cases t.integer? 0 (0x100000000 - 1) <;> rfl

/-- Only a word in `n` is read as `null`. -/
theorem scalar_null_cases (c : Char) (u : List Char) (t : Tree) (rest : List Char)
    (hc : isSpace c = false) (h : scalar (c :: u) = .ok (t, rest)) :
    (c = 'n' ∧ word "ull".toList u = .ok ((), rest) ∧ t = .null) ∨ c ≠ 'n' ∧ t ≠ .null := by
  rw [scalar, skipSpace_cons c u hc] at h
  split at h
  · cases h
  · rename_i heq
    rcases List.cons.inj heq with ⟨rfl, rfl⟩
    rcases (bind_eq_ok _ _ _).mp h with ⟨⟨_, v⟩, hword, h⟩
    rcases Prod.mk.inj (Except.ok.inj h) with ⟨rfl, rfl⟩
    exact Or.inl ⟨rfl, hword, rfl⟩
  -- The other two words, a negative number and a string.
  iterate 4
    · rename_i heq
      rcases List.cons.inj heq with ⟨rfl, rfl⟩
      rcases (bind_eq_ok _ _ _).mp h with ⟨_, _, h⟩
      rcases Prod.mk.inj (Except.ok.inj h) with ⟨rfl, _⟩
      exact Or.inr ⟨by decide, fun ht => Tree.noConfusion ht⟩
  · rename_i hnull _ _ _ _ heq
    rcases List.cons.inj heq with ⟨rfl, rfl⟩
    split_ifs at h
    · rcases (bind_eq_ok _ _ _).mp h with ⟨_, _, h⟩
      rcases Prod.mk.inj (Except.ok.inj h) with ⟨rfl, _⟩
      exact Or.inr ⟨fun hn => hnull (by rw [hn]), fun ht => Tree.noConfusion ht⟩
    · cases h

theorem nullable_of_ne (read : Reader β) (s : List Char) (h : ∀ u, skipSpace s ≠ 'n' :: u) :
    nullable read s = read (skipSpace s) >>= fun x => .ok (some x.1, x.2) := by
  rw [nullable]
  split
  · rename_i u hs
    exact absurd hs (h u)
  · rfl

/-- A value that may be `null` is nothing where the tree is `null`, and is read
    as ever otherwise. -/
theorem nullable_toOption (read : Reader β) (convert : Tree → Option β) (room : Nat)
    (s : List Char) (t : Tree) (rest : List Char)
    (hread : ∀ s, tree room s = .ok (t, rest) →
      (read s).toOption = (convert t).map fun b => (b, rest))
    (h : tree room s = .ok (t, rest)) :
    (nullable read s).toOption = (t.orNull? convert).map fun o => (o, rest) := by
  have hother : (∀ u, skipSpace s ≠ 'n' :: u) → t ≠ .null →
      (nullable read s).toOption = (t.orNull? convert).map fun o => (o, rest) := by
    intro hs ht
    rw [nullable_of_ne read s hs, toOption_bind, hread _ ((tree_skipSpace room s).trans h),
      Tree.orNull?_of_ne convert t ht]
    cases convert t <;> rfl
  rcases tree_shapes room s t rest h with ⟨items, u, hs, rfl⟩ | ⟨members, u, hs, rfl⟩ |
    ⟨c, u, hs, hc, hscalar⟩
  · exact hother (fun v hv => absurd (List.cons.inj (hs.symm.trans hv)).1 (by decide)) nofun
  · exact hother (fun v hv => absurd (List.cons.inj (hs.symm.trans hv)).1 (by decide)) nofun
  · rcases scalar_null_cases c u t rest hc hscalar with ⟨rfl, hword, rfl⟩ | ⟨hne, ht⟩
    · simp only [nullable, hs, hword]
      rfl
    · exact hother (fun v hv => hne (List.cons.inj (hs.symm.trans hv)).1) ht

end Json

end StreamRoster
