import StreamRoster.Json.Variant
import StreamRoster.Proofs.Json.Members

/-!
# Readers of One Value

A reader of a field is handed the text behind a colon and decides for itself
where the value ends. What makes members independent of one another is that all
readers decide alike: they stop where passing over the value stops, and do not
look further. That is `OneValue`, and its consequence is `toOption_append`: such a
reader does with a value in the middle of a text what it does with the value
alone, which is `take?`.

The property is shown in two ways. A reader that could have been one of trees
has it from the reader of trees (`ReadsTree`). A reader of lists and objects has
it if what it makes of a text is a function of the block that stands there
(`ReadsBlock`), since blocks end where passing over them does. Records, which are
such readers, have a module of their own.

## Main definitions

* `OneValue`: A reader that takes one value and no more.
* `take?`: What is made of the text of a value.
* `ReadsTree`: A reader that reads what could be read as a tree.
* `ReadsBlock`: A reader of lists and objects.

## Theorems

* `toOption_append`: A value in the middle of a text.
* `oneValue_bind`, `oneValue_nullable`, `oneValue_list`, `oneValue_variant`:
  Readers that are made of others.
* `ReadsTree.oneValue`, `ReadsBlock.oneValue`: The two ways to show it.
-/

namespace StreamRoster

namespace Json

variable {α β : Type}

/-- A reader that takes the value at the front of a text and no more: it stops
    where passing over the value stops, and what stands there does not count. -/
structure OneValue (read : Reader α) : Prop where
  cuts : Local Ends read
  passes : ∀ s a rest, read s = .ok (a, rest) → skip s = .ok ((), rest)

/-- What a reader makes of the text of a value, if that is a value for it. -/
def take? (read : Reader α) (value : List Char) : Option α :=
  match read value with
  | .ok (a, []) => some a
  | _ => none

/-- What is made of a value is what the reader gives where it leaves nothing. -/
theorem take?_eq_some_iff (read : Reader α) (value : List Char) (a : α) :
    take? read value = some a ↔ read value = .ok (a, []) := by
  rw [take?]
  split
  · rename_i b hread
    rw [hread]
    exact ⟨fun h => by rw [Option.some.inj h], fun h => by rw [(Prod.mk.inj (Except.ok.inj h)).1]⟩
  · rename_i hread
    exact iff_of_false nofun fun h => hread a h

/-- In the middle of a text, a value is read as it is read alone. -/
theorem toOption_append (read : Reader α) (h : OneValue read) (value behind : List Char)
    (hvalue : skip (value ++ behind) = .ok ((), behind)) (hends : Ends behind) :
    (read (value ++ behind)).toOption = (take? read value).map fun a => (a, behind) := by
  refine Option.ext fun ⟨a, rest⟩ => ?_
  rw [toOption_eq_some_iff, Option.map_eq_some_iff]
  refine ⟨fun hread => ?_, fun hread => ?_⟩
  · -- The reader stops where passing over the value stops, which is here.
    have hskip := (h.passes _ a rest hread).symm.trans hvalue
    rcases Prod.mk.inj (Except.ok.inj hskip) with ⟨_, rfl⟩
    have halone := takes_of_append read h.cuts value a rest hread [] nofun
    rw [List.append_nil] at halone
    exact ⟨a, (take?_eq_some_iff read value a).mpr halone, rfl⟩
  · rcases hread with ⟨b, hb, heq⟩
    rcases Prod.mk.inj heq with ⟨rfl, rfl⟩
    -- What is read alone is read in front of what may stand behind a value.
    have halone := (take?_eq_some_iff read value b).mp hb
    exact takes_of_local read h.cuts value b halone behind hends

/-- A reader that goes on with what another one made of a value. -/
theorem oneValue_bind (read : Reader α) (f : α → Option β)
    (next : α × List Char → Except Failure (β × List Char)) (h : OneValue read)
    (hnext : ∀ a s, (next (a, s)).toOption = (f a).map fun b => (b, s)) :
    OneValue fun s => read s >>= next := by
  -- What goes on neither takes a character nor looks at one.
  have hstays : ∀ a s b t, next (a, s) = .ok (b, t) → t = s ∧ ∀ u, next (a, u) = .ok (b, u) := by
    intro a s b t hb
    have hsome := hnext a s
    rw [hb] at hsome
    rcases Option.map_eq_some_iff.mp hsome.symm with ⟨c, hc, heq⟩
    rcases Prod.mk.inj heq with ⟨rfl, rfl⟩
    refine ⟨rfl, fun u => (toOption_eq_some_iff _ _).mp ?_⟩
    rw [hnext a u, hc]
    rfl
  refine ⟨fun s b rest hread => ?_, fun s b rest hread => ?_⟩
  · rcases (bind_eq_ok _ _ _).mp hread with ⟨⟨a, t⟩, ha, hb⟩
    rcases hstays a t b rest hb with ⟨rfl, hall⟩
    rcases h.cuts s a rest ha with ⟨used, hs, htakes⟩
    refine ⟨used, hs, fun rest' hrest => ?_⟩
    simp only [htakes rest' hrest]
    exact hall rest'
  · rcases (bind_eq_ok _ _ _).mp hread with ⟨⟨a, t⟩, ha, hb⟩
    rcases (hstays a t b rest hb).1 with rfl
    exact h.passes s a rest ha

/-! ### Readers of what could be a tree -/

/-- A reader that reads only what can be read as a tree, and makes something of
    the tree. -/
structure ReadsTree (room : Nat) (read : Reader α) (convert : Tree → Option α) : Prop where
  tree : ∀ s a rest, read s = .ok (a, rest) → ∃ t, tree room s = .ok (t, rest)
  toOption : ∀ s t rest, Json.tree room s = .ok (t, rest) →
    (read s).toOption = (convert t).map fun a => (a, rest)

/-- The first way: a reader of what could be a tree stops where the reader of trees
    stops, and that one reads a value. -/
theorem ReadsTree.oneValue (room : Nat) (read : Reader α) (convert : Tree → Option α)
    (h : ReadsTree room read convert) : OneValue read where
  cuts s a rest hread := by
    -- The value is what is made of a tree, and that is the same wherever the tree stands.
    rcases h.tree s a rest hread with ⟨t, ht⟩
    have hconvert := h.toOption s t rest ht
    rw [hread] at hconvert
    rcases Option.map_eq_some_iff.mp hconvert.symm with ⟨b, hb, heq⟩
    rcases (Prod.mk.inj heq).1 with rfl
    rcases tree_local room s t rest ht with ⟨used, hs, htakes⟩
    refine ⟨used, hs, fun rest' hrest => (toOption_eq_some_iff _ _).mp ?_⟩
    rw [h.toOption _ t rest' (htakes rest' hrest), hb]
    rfl
  passes s a rest hread := by
    rcases h.tree s a rest hread with ⟨t, ht⟩
    exact skip_of_tree room s t rest ht

/-- A reader of what could be a tree, and what is made of its value behind it. -/
theorem readsTree_bind (room : Nat) (read : Reader α) (convert : Tree → Option α)
    (f : α → Option β) (next : α × List Char → Except Failure (β × List Char))
    (h : ReadsTree room read convert)
    (hnext : ∀ a s, (next (a, s)).toOption = (f a).map fun b => (b, s)) :
    ReadsTree room (fun s => read s >>= next) fun t => (convert t).bind f where
  tree s b rest hread := by
    rcases (bind_eq_ok _ _ _).mp hread with ⟨⟨a, t⟩, ha, hb⟩
    have hsome := hnext a t
    rw [hb] at hsome
    rcases Option.map_eq_some_iff.mp hsome.symm with ⟨c, _, heq⟩
    rcases (Prod.mk.inj heq).2 with rfl
    exact h.tree s a t ha
  toOption s t rest ht := by
    rw [toOption_bind, h.toOption s t rest ht]
    cases convert t with
    | none => rfl
    | some a => exact hnext a rest

theorem readsTree_tree (room : Nat) : ReadsTree room (tree room) some where
  tree s t rest h := ⟨t, h⟩
  toOption s t rest h := by
    rw [h]
    rfl

/-- What opens neither a list nor an object is a scalar, behind blanks too. -/
theorem tree_of_scalar (room : Nat) (s : List Char) (c : Char) (u : List Char)
    (hs : skipSpace s = c :: u) (hlist : c ≠ '[') (hobject : c ≠ '\x7b') :
    tree room s = scalar (c :: u) := by
  rw [← tree_skipSpace, hs, tree_eq_scalar room c u (isSpace_of_skipSpace s c u hs) hlist hobject]

/-- A reader of strings reads the trees that are strings. -/
theorem readsTree_text (expected : String) (room : Nat) :
    ReadsTree room (text expected) Tree.text? where
  tree s a rest h := by
    rw [text] at h
    split at h
    · rename_i u hs
      refine ⟨.text a, ?_⟩
      rw [tree_of_scalar room s '"' u hs (by decide) (by decide)]
      exact congrArg (· >>= fun x => Except.ok (Tree.text x.1, x.2)) h
    · exact absurd h (wrongKind_ne_ok _ _ _)
  toOption s t rest h := text_toOption expected room s t rest h

/-- A reader of numbers reads the trees that are numbers. -/
theorem readsTree_anyNumber (expected : String) (room : Nat) :
    ReadsTree room (anyNumber expected) Tree.number? where
  tree s n rest h := by
    refine ⟨.number n, ?_⟩
    rw [anyNumber] at h
    split at h
    · rename_i u hs
      rw [tree_of_scalar room s '-' u hs (by decide) (by decide)]
      exact congrArg (· >>= fun x => Except.ok (Tree.number x.1, x.2)) h
    · -- Without a sign, a number opens with a digit.
      rename_i c u _ hs
      split_ifs at h with hc
      · rw [tree_of_scalar room s c u hs (ne_of_isDigit c '[' hc rfl)
          (ne_of_isDigit c '\x7b' hc rfl), scalar_digit c u hc, h]
        rfl
      · exact absurd h (wrongKind_ne_ok _ _ _)
    · cases h
  toOption s t rest h := anyNumber_toOption expected room s t rest h

/-- The truth value that a tree is. -/
def Tree.boolean? : Tree → Option Bool
  | .boolean b => some b
  | _ => none

theorem tree_of_boolean (room : Nat) (s : List Char) (b : Bool) (rest : List Char)
    (h : boolean s = .ok (b, rest)) : tree room s = .ok (.boolean b, rest) := by
  rw [boolean] at h
  split at h
  · rename_i u hs
    rcases (bind_eq_ok _ _ _).mp h with ⟨⟨_, v⟩, hword, h⟩
    rcases Prod.mk.inj (Except.ok.inj h) with ⟨rfl, rfl⟩
    rw [tree_of_scalar room s 't' u hs (by decide) (by decide)]
    exact congrArg (· >>= fun x => Except.ok (Tree.boolean true, x.2)) hword
  · rename_i u hs
    rcases (bind_eq_ok _ _ _).mp h with ⟨⟨_, v⟩, hword, h⟩
    rcases Prod.mk.inj (Except.ok.inj h) with ⟨rfl, rfl⟩
    rw [tree_of_scalar room s 'f' u hs (by decide) (by decide)]
    exact congrArg (· >>= fun x => Except.ok (Tree.boolean false, x.2)) hword
  · exact absurd h (wrongKind_ne_ok _ _ _)

/-- The reader of scalars looks at the same first letters as the reader of truth
    values, so a scalar that is one was read by the same word. -/
theorem boolean_of_scalar (c : Char) (u : List Char) (b : Bool) (rest : List Char)
    (hc : isSpace c = false) (h : scalar (c :: u) = .ok (.boolean b, rest)) :
    boolean (c :: u) = .ok (b, rest) := by
  rw [scalar, skipSpace_cons c u hc] at h
  rw [boolean, skipSpace_cons c u hc]
  split at h
  · cases h
  · rcases (bind_eq_ok _ _ _).mp h with ⟨_, _, h⟩
    cases h
  · rename_i heq
    rcases List.cons.inj heq with ⟨rfl, rfl⟩
    rcases (bind_eq_ok _ _ _).mp h with ⟨⟨_, v⟩, hword, h⟩
    rcases Prod.mk.inj (Except.ok.inj h) with ⟨htrue, rfl⟩
    rcases Tree.boolean.inj htrue with rfl
    exact congrArg (· >>= fun x => Except.ok (true, x.2)) hword
  · rename_i heq
    rcases List.cons.inj heq with ⟨rfl, rfl⟩
    rcases (bind_eq_ok _ _ _).mp h with ⟨⟨_, v⟩, hword, h⟩
    rcases Prod.mk.inj (Except.ok.inj h) with ⟨hfalse, rfl⟩
    rcases Tree.boolean.inj hfalse with rfl
    exact congrArg (· >>= fun x => Except.ok (false, x.2)) hword
  -- A negative number and a string are no booleans, and neither is what opens with
  -- a digit.
  iterate 2
    · rcases (bind_eq_ok _ _ _).mp h with ⟨_, _, h⟩
      cases h
  · split_ifs at h
    · rcases (bind_eq_ok _ _ _).mp h with ⟨_, _, h⟩
      cases h
    · cases h

theorem boolean_of_tree (room : Nat) (s : List Char) (b : Bool) (rest : List Char)
    (h : tree room s = .ok (.boolean b, rest)) : boolean s = .ok (b, rest) := by
  rcases tree_shapes room s _ rest h with ⟨_, _, _, ht⟩ | ⟨_, _, _, ht⟩ | ⟨c, u, hs, hc, hscalar⟩
  · exact Tree.noConfusion ht
  · exact Tree.noConfusion ht
  · have hblank : boolean (skipSpace s) = boolean s := by rw [boolean, boolean, skipSpace_skipSpace]
    rw [← hblank, hs]
    exact boolean_of_scalar c u b rest hc hscalar

theorem readsTree_boolean (room : Nat) : ReadsTree room boolean Tree.boolean? where
  tree s b rest h := ⟨.boolean b, tree_of_boolean room s b rest h⟩
  toOption s t rest h := by
    refine Option.ext fun ⟨b, left⟩ => ?_
    rw [toOption_eq_some_iff, Option.map_eq_some_iff]
    refine ⟨fun hread => ?_, fun hread => ?_⟩
    · -- There is one tree in front of a text, so the tree is this truth value.
      have hsame := (tree_of_boolean room s b left hread).symm.trans h
      rcases Prod.mk.inj (Except.ok.inj hsame) with ⟨rfl, rfl⟩
      exact ⟨b, rfl, rfl⟩
    · rcases hread with ⟨c, hc, heq⟩
      rcases Prod.mk.inj heq with ⟨rfl, rfl⟩
      cases t with
      | null | number | text | array | object => cases hc
      | boolean b =>
          rcases Option.some.inj hc with rfl
          exact boolean_of_tree room s b rest h

/-! ### Values that may be null -/

theorem nullable_skipSpace (read : Reader α) (s : List Char) :
    nullable read (skipSpace s) = nullable read s := by
  rw [nullable, nullable, skipSpace_skipSpace]

/-- A reader of values that may be `null` is one of `null` or the other one. -/
theorem oneValue_nullable (read : Reader α) (h : OneValue read) : OneValue (nullable read) := by
  have hempty : ∀ x, read [] ≠ .ok x := fun x hread => absurd (h.passes [] x.1 x.2 hread) nofun
  refine ⟨fun s o rest hread => ?_, fun s o rest hread => ?_⟩
  · refine cuts_of_skipSpace _ (nullable_skipSpace read) s o rest ?_
    rw [← nullable_skipSpace] at hread
    cases hs : skipSpace s with
    | nil =>
        rw [hs] at hread
        rcases (bind_eq_ok _ _ _).mp hread with ⟨x, hx, _⟩
        exact absurd hx (hempty x)
    | cons c u =>
        rw [hs] at hread
        -- Behind an `n` only `null` can be read, behind anything else only a value.
        by_cases hc : c = 'n'
        · rcases hc with rfl
          exact local_extend (nullable read) _ ['n'] u o rest
            (local_map (fun _ => none) _ (word_local _)) (fun _ => rfl) hread
        · have hspace := isSpace_of_skipSpace s c u hs
          have heq : ∀ t, nullable read (c :: t) =
              read (c :: t) >>= fun x => .ok (some x.1, x.2) := by
            intro t
            have hcons := skipSpace_cons c t hspace
            rw [nullable_of_ne read (c :: t) fun v hv => hc (List.cons.inj (hcons.symm.trans hv)).1,
              hcons]
          refine local_of_cons _ _ c u o rest (local_map some read h.cuts) (fun x hx => ?_) heq
            hread
          rcases (bind_eq_ok _ _ _).mp hx with ⟨y, hy, _⟩
          exact hempty y hy
  · refine skip_of_skipSpace s rest ?_
    rw [nullable] at hread
    split at hread
    · rename_i u hs
      rcases (bind_eq_ok _ _ _).mp hread with ⟨⟨_, v⟩, hword, hread⟩
      rcases Prod.mk.inj (Except.ok.inj hread) with ⟨_, rfl⟩
      rw [hs]
      exact hword
    · rcases (bind_eq_ok _ _ _).mp hread with ⟨⟨a, v⟩, ha, hread⟩
      rcases Prod.mk.inj (Except.ok.inj hread) with ⟨_, rfl⟩
      exact h.passes _ a v ha

/-! ### Readers of lists and objects -/

/-- A reader of lists and objects, which makes of a text what it makes of the
    block at its front. -/
structure ReadsBlock (read : Reader α) (value : Block → Option α) : Prop where
  block : ∀ s a rest, read s = .ok (a, rest) → ∃ b : Block, b.At s rest
  toOption : ∀ s rest (b : Block), b.At s rest →
    (read s).toOption = (value b).map fun a => (a, rest)

/-- The second way: a block ends where passing over it ends, and what stands behind
    it does not change it. -/
theorem ReadsBlock.oneValue (read : Reader α) (value : Block → Option α)
    (h : ReadsBlock read value) : OneValue read where
  cuts s a rest hread := by
    -- What is made of the block is made of it wherever it stands.
    rcases h.block s a rest hread with ⟨b, hb⟩
    have hvalue := h.toOption s rest b hb
    rw [hread] at hvalue
    rcases Option.map_eq_some_iff.mp hvalue.symm with ⟨c, hc, heq⟩
    rcases (Prod.mk.inj heq).1 with rfl
    rcases b.takes s rest hb with ⟨used, hs, htakes⟩
    refine ⟨used, hs, fun rest' _ => (toOption_eq_some_iff _ _).mp ?_⟩
    rw [h.toOption _ rest' b (htakes rest'), hc]
    rfl
  passes s a rest hread := by
    rcases h.block s a rest hread with ⟨b, hb⟩
    exact b.skip s rest hb

/-- The text of a block is read as what is made of the block. -/
theorem take?_of_block (read : Reader α) (value : Block → Option α) (h : ReadsBlock read value)
    (s : List Char) (b : Block) (hb : b.At s []) : take? read s = value b := by
  refine Option.ext fun a => ?_
  rw [take?_eq_some_iff, ← toOption_eq_some_iff, h.toOption s [] b hb, Option.map_eq_some_iff]
  refine ⟨fun hread => ?_, fun ha => ⟨a, ha, rfl⟩⟩
  rcases hread with ⟨c, hc, heq⟩
  rw [hc, (Prod.mk.inj heq).1]

/-- A reader that makes something of a block reads a text that is that block. -/
theorem readAll_of_block (read : Reader α) (value : Block → Option α) (h : ReadsBlock read value)
    (text : String) (b : Block) (hb : BlockText text b) (a : α) :
    readAll read text = .ok a ↔ value b = some a := by
  rcases hb with ⟨rest, hb, hrest⟩
  have hread := h.toOption _ rest b hb
  rw [readAll_eq_ok_iff]
  refine ⟨fun ha => ?_, fun ha => ⟨rest, (toOption_eq_some_iff _ _).mp ?_, hrest⟩⟩
  · rcases ha with ⟨left, ha, _⟩
    rw [ha] at hread
    rcases Option.map_eq_some_iff.mp hread.symm with ⟨c, hc, heq⟩
    rw [hc, (Prod.mk.inj heq).1]
  · rw [hread, ha]
    rfl

/-- A text that such a reader reads is a block, with nothing but blanks behind it.
    -/
theorem exists_blockText (read : Reader α) (value : Block → Option α) (h : ReadsBlock read value)
    (text : String) (a : α) (hread : readAll read text = .ok a) : ∃ b, BlockText text b := by
  rcases (readAll_eq_ok_iff _ _ _).mp hread with ⟨rest, hread, hrest⟩
  rcases h.block _ a rest hread with ⟨b, hb⟩
  exact ⟨b, rest, hb, hrest⟩

/-- The elements that are read are elements of the text. -/
theorem items_of_elements (read : Reader α) (h : OneValue read) (fuel : Nat) (first : Bool)
    (s : List Char) (as : List α) (t : List Char)
    (hread : elements read fuel first s = .ok (as, t)) :
    ∃ rest values, t = ']' :: rest ∧ Items rest first s values := by
  induction fuel generalizing first s as with
  | zero => cases hread
  | succ fuel ih =>
      rcases (bind_eq_ok _ _ _).mp hread with ⟨⟨goes, u⟩, hgoes, hread⟩
      rw [hasElement_eq_ok_iff] at hgoes
      cases goes with
      | false =>
          rcases Prod.mk.inj (Except.ok.inj hread) with ⟨_, rfl⟩
          cases hgoes with
          | close v hs => exact ⟨v, [], rfl, Items.close first s hs⟩
      | true =>
          rcases (bind_eq_ok _ _ _).mp hread with ⟨⟨a, behind⟩, ha, hread⟩
          rcases (bind_eq_ok _ _ _).mp hread with ⟨⟨bs, v⟩, hbs, hread⟩
          rcases Prod.mk.inj (Except.ok.inj hread) with ⟨_, rfl⟩
          rcases ih false behind bs hbs with ⟨rest, values, rfl, hvalues⟩
          -- The element is what passing over it takes.
          have hskip := h.passes u a behind ha
          rcases exists_value_of_skip u behind hskip with ⟨value, rfl⟩
          exact ⟨rest, value :: values, rfl,
            Items.item first s value behind values hgoes hskip hvalues⟩

/-- A list has at least the characters of its elements, and none of them is empty.
    -/
theorem length_of_items (rest : List Char) (first : Bool) (s : List Char)
    (values : List (List Char)) (h : Items rest first s values) : values.length ≤ s.length := by
  induction h with
  | close first s hs => exact Nat.zero_le _
  | item first s value behind values hgoes hvalue hvalues ih =>
      have hlength := length_lt_of_local skip skip_local (fun _ => nofun) _ () behind hvalue
      rcases hasElement_takes first s true _ hgoes with ⟨front, c, t, rfl, ht, _⟩
      rw [ht] at hlength
      rw [List.length_cons, List.length_append]
      omega

/-- The elements of a list are read one by one. -/
theorem elements_toOption (read : Reader α) (h : OneValue read) (rest : List Char) (first : Bool)
    (s : List Char) (values : List (List Char)) (hitems : Items rest first s values) (fuel : Nat)
    (hfuel : values.length < fuel) :
    (elements read fuel first s).toOption =
      (values.mapM (take? read)).map fun as => (as, ']' :: rest) := by
  induction hitems generalizing fuel with
  | close first s hs =>
      cases fuel with
      | zero => exact absurd hfuel (Nat.not_lt_zero _)
      | succ fuel =>
          rw [elements, (hasElement_eq_ok_iff _ _ _ _).mpr (GoesOn.close rest hs)]
          rfl
  | item first s value behind values hgoes hvalue hvalues ih =>
      cases fuel with
      | zero => exact absurd hfuel (Nat.not_lt_zero _)
      | succ fuel =>
          -- The reader stops at the end of the first value, and the rest is a row again.
          have hread := toOption_append read h value behind hvalue (ends_of_items rest _ _ hvalues)
          have hrest := ih fuel (Nat.lt_of_succ_lt_succ hfuel)
          rw [elements, (hasElement_eq_ok_iff _ _ _ _).mpr hgoes]
          simp only [ok_bind, toOption_bind, hread, List.mapM_cons]
          cases take? read value with
          | none => rfl
          | some a =>
              simp only [Option.map_some, Option.bind_some, hrest]
              cases values.mapM (take? read) <;> rfl

/-- What a list of values makes of a block. -/
def listOf? (read : Nat → Reader α) : Nat → Block → Option (List α)
  | room + 1, .sequence values => values.mapM (take? (read room))
  | _, _ => none

/-- A list that is read behind its bracket. -/
theorem list_of_bracket (read : Nat → Reader α) (room : Nat) (s u : List Char)
    (hs : skipSpace s = '[' :: u) :
    list read (room + 1) s = elements (read room) (u.length + 1) true u >>= fun x =>
      closeList x.2 >>= fun y => .ok (x.1, y.2) := by
  rw [list, hs]
  rfl

/-- A reader of lists makes of a block what the reader of its elements makes of them
    one by one, and nothing of an object. -/
theorem readsBlock_list (read : Nat → Reader α) (h : ∀ room, OneValue (read room)) (room : Nat) :
    ReadsBlock (list read room) (listOf? read room) where
  block s as rest hread := by
    rw [list] at hread
    split at hread
    · rename_i u hs
      cases room with
      | zero => cases hread
      | succ room =>
          rcases (bind_eq_ok _ _ _).mp hread with ⟨⟨bs, v⟩, hbs, hread⟩
          rcases (bind_eq_ok _ _ _).mp hread with ⟨⟨_, w⟩, hclose, hread⟩
          rcases Prod.mk.inj (Except.ok.inj hread) with ⟨_, rfl⟩
          rcases items_of_elements (read room) (h room) _ true u bs v hbs with
            ⟨t, values, rfl, hvalues⟩
          rcases Prod.mk.inj (Except.ok.inj hclose) with ⟨_, rfl⟩
          exact ⟨.sequence values, u, hs, hvalues⟩
    · exact absurd hread (wrongKind_ne_ok _ _ _)
  toOption s rest b hb := by
    cases b with
    | object ms =>
        rcases hb with ⟨u, hs, _⟩
        rw [list]
        split
        · rename_i v hv
          exact absurd (List.cons.inj (hs.symm.trans hv)).1 (by decide)
        · cases room <;> exact wrongKind_toOption _ _
    | sequence values =>
        rcases hb with ⟨u, hs, hitems⟩
        cases room with
        | zero =>
            simp only [list, hs]
            rfl
        | succ room =>
            -- There are fewer elements than characters, so the fuel is enough.
            have hfuel := length_of_items rest true u values hitems
            rw [list_of_bracket read room s u hs, toOption_bind,
              elements_toOption (read room) (h room) rest true u values hitems _ (by omega),
              listOf?]
            cases values.mapM (take? (read room)) <;> rfl

theorem oneValue_list (read : Nat → Reader α) (h : ∀ room, OneValue (read room)) (room : Nat) :
    OneValue (list read room) :=
  (readsBlock_list read h room).oneValue

/-! ### Variants -/

/-- The name of a variant is a string that is one of a few. -/
theorem oneValue_variantName (variants : List (String × α)) : OneValue (variantName variants) := by
  refine oneValue_bind _ (fun name => (pickVariant variants name).toOption) _
    (readsTree_text "variant identifier" 0).oneValue fun name s => ?_
  cases hpick : pickVariant variants name <;> simp only [hpick] <;> rfl

/-- Reading a string behind blanks is local, since it has a last character. -/
theorem text_local (expected : String) : Local Any (text expected) := by
  intro s a rest hread
  refine cuts_of_skipSpace _ (fun t => by rw [text, text, skipSpace_skipSpace]) s a rest ?_
  have h := hread
  rw [text] at h
  split at h
  · rename_i u hs
    rw [hs]
    exact local_extend (text expected) string ['"'] u a rest string_local (fun _ => rfl) h
  · exact absurd h (wrongKind_ne_ok _ _ _)

theorem variantName_local (variants : List (String × α)) : Local Any (variantName variants) := by
  refine local_bind _ _ (text_local _) fun name => ?_
  cases hpick : pickVariant variants name with
  | ok a =>
      simp only [hpick]
      exact local_ok a
  | error cause =>
      simp only [hpick]
      exact local_failHere cause

theorem null_local : Local Any null := by
  intro s a rest hread
  refine cuts_of_skipSpace _ (fun t => by rw [null, null, skipSpace_skipSpace]) s a rest ?_
  have h := hread
  rw [null] at h
  split at h
  · rename_i u hs
    rw [hs]
    exact local_extend null _ ['n'] u a rest (word_local _) (fun _ => rfl) h
  · exact absurd h (wrongKind_ne_ok _ _ _)

theorem skip_of_null (s rest : List Char) (h : null s = .ok ((), rest)) :
    skip s = .ok ((), rest) := by
  refine skip_of_skipSpace s rest ?_
  rw [null] at h
  split at h
  · rename_i u hs
    rw [hs]
    exact h
  · exact absurd h (wrongKind_ne_ok _ _ _)

/-- The closing brace behind the value of a variant. -/
def closeVariant (a : α) : Reader α := fun s =>
  match skipSpace s with
  | [] => failHere .endOfObject []
  | '\x7d' :: s => .ok (a, s)
  | s => failHere .expectedValue s

/-- A variant is closed exactly where a brace stands behind blanks. -/
theorem closeVariant_eq_ok_iff (a b : α) (s rest : List Char) :
    closeVariant a s = .ok (b, rest) ↔ a = b ∧ skipSpace s = '\x7d' :: rest := by
  rw [closeVariant]
  split
  · rename_i hs
    rw [hs]
    exact iff_of_false nofun nofun
  · rename_i t hs
    rw [hs, List.cons.injEq]
    refine ⟨fun h => ?_, fun h => by rw [h.1, h.2.2]⟩
    rcases Prod.mk.inj (Except.ok.inj h) with ⟨rfl, rfl⟩
    exact ⟨rfl, rfl, rfl⟩
  · rename_i hempty hclose
    exact iff_of_false nofun fun h => hclose rest h.2

/-- The closing brace is taken along with the blanks in front of it. -/
theorem closeVariant_local {after : List Char → Prop} (a : α) : Local after (closeVariant a) := by
  intro s b rest h
  rcases (closeVariant_eq_ok_iff a b s rest).mp h with ⟨rfl, hs⟩
  rcases exists_blanks_cons s _ _ hs with ⟨blanks, rfl, hblanks⟩
  refine ⟨blanks ++ ['\x7d'], by rw [List.append_assoc]; rfl, fun rest _ => ?_⟩
  rw [List.append_assoc]
  exact (closeVariant_eq_ok_iff a a _ rest).mpr ⟨rfl, hblanks rest⟩

/-- The object form of a variant behind its brace. -/
def variantObject (variants : List (String × α)) : Reader α := fun s =>
  variantName variants s >>= fun x => memberColon x.2 >>= fun y => null y.2 >>= fun z =>
    closeVariant x.1 z.2

/-- The object form has a brace at its end, so nothing has to be known of what
    stands behind it. -/
theorem variantObject_local {after : List Char → Prop} (variants : List (String × α)) :
    Local after (variantObject variants) := by
  refine local_bind _ _ (variantName_local variants) fun a => ?_
  refine local_bind _ (fun y => null y.2 >>= fun z => closeVariant a z.2) memberColon_local
    fun _ => ?_
  exact local_bind _ (fun z => closeVariant a z.2) null_local fun _ => closeVariant_local a

/-- The object form of a variant has one member. -/
theorem skip_of_variantObject (variants : List (String × α)) (s : List Char) (a : α)
    (rest : List Char) (h : variantObject variants s = .ok (a, rest)) :
    skip ('\x7b' :: s) = .ok ((), rest) := by
  rcases (bind_eq_ok _ _ _).mp h with ⟨⟨b, t⟩, hname, h⟩
  rcases (bind_eq_ok _ _ _).mp h with ⟨⟨_, u⟩, hcolon, h⟩
  rcases (bind_eq_ok _ _ _).mp h with ⟨⟨_, v⟩, hnull, h⟩
  rcases (closeVariant_eq_ok_iff b a v rest).mp h with ⟨_, hclose⟩
  rcases (bind_eq_ok _ _ _).mp hname with ⟨⟨name, t'⟩, htext, hpick⟩
  -- The name is a string, which opens with a quote like the key of a member.
  have hquote : ∃ key, skipSpace s = '"' :: key ∧ string key = .ok (name, t') := by
    rw [text] at htext
    split at htext
    · exact ⟨_, ‹_›, htext⟩
    · exact absurd htext (wrongKind_ne_ok _ _ _)
  rcases hquote with ⟨key, hkey, hstring⟩
  -- Picking the variant takes no character.
  have hsame : t' = t := by
    dsimp only at hpick
    split at hpick
    · exact (Prod.mk.inj (Except.ok.inj hpick)).2
    · cases hpick
  rw [hsame] at hstring
  have hquoted := skipString_of_string key name t hstring
  -- The object is a row of one member, whose value is null.
  rcases row_cons rest true s key t u v [] (HasKey.start key hkey rfl) hquoted hcolon
    (skip_of_null u v hnull) (Row.close false v hclose) with ⟨m, hrow⟩
  exact skip_of_object _ [m] rest ⟨s, skipSpace_cons '\x7b' s rfl, hrow⟩

/-- A reader of variants reads one value, in either form. -/
theorem oneValue_variant (variants : List (String × α)) (room : Nat) :
    OneValue (variant variants room) := by
  have hblank : ∀ s, variant variants room (skipSpace s) = variant variants room s := by
    intro s
    rw [variant, variant, skipSpace_skipSpace]
  have hplain := oneValue_variantName variants
  -- A variant is a name alone, or an object around it with a value of null.
  refine ⟨fun s a rest hread => ?_, fun s a rest hread => ?_⟩
  · refine cuts_of_skipSpace _ hblank s a rest ?_
    have h := hread
    rw [variant] at h
    rw [← hblank] at hread
    split at h
    · cases h
    · rename_i u hs
      rw [hs] at hread ⊢
      refine local_of_cons _ _ '"' u a rest hplain.cuts (fun x hx => ?_) (fun _ => rfl) hread
      exact absurd (hplain.passes [] x.1 x.2 hx) nofun
    · rename_i u hs
      cases room with
      | zero => cases h
      | succ room =>
          rw [hs] at hread ⊢
          exact local_extend _ _ ['\x7b'] u a rest (variantObject_local variants) (fun _ => rfl)
            hread
    · cases h
  · refine skip_of_skipSpace s rest ?_
    rw [variant] at hread
    split at hread
    · cases hread
    · rename_i u hs
      rw [hs]
      exact hplain.passes _ a rest hread
    · rename_i u hs
      cases room with
      | zero => cases hread
      | succ room =>
          rw [hs]
          exact skip_of_variantObject variants u a rest hread
    · cases hread

end Json

end StreamRoster
