import StreamRoster.Proofs.Json.Passing
import StreamRoster.Proofs.Json.Rereading

/-!
# The Members of a Text

An object in a text is a row of members. What a member is can be said without
reading its value as anything: a key, and the piece of text between the colon
and the place where passing over the value stops. `Row` says that of what stands
behind an opening brace, and `Object` of the brace as well. Both are relations on
texts, so no reader has a part in them but the ones that pass over a value.

This is what a reader of objects is compared with. The members of a text are
determined by it (`row_unique`), every object that can be passed over has some
(`exists_object_of_skip`), and what stands behind the closing brace does not
count (`object_takes`). The same is said of lists, whose elements are pieces of
text as well.

A key that is no Unicode text is not a fault here. It can be passed over, and
only who wants to know the key is in trouble. It is `none` in a member.

## Main definitions

* `Member`: A key and the text of a value.
* `Unknown`: A member of none of the given keys.
* `Row`, `Object`: The members of an object.
* `Items`, `Sequence`: The elements of a list.
* `Block`, `Block.At`: Either of the two at the front of a text.
* `BlockText`, `ObjectText`: A text that is one block.

## Theorems

* `row_takes`, `items_takes`: What stands behind the bracket does not count.
* `row_unique`, `items_unique`: Members and elements are determined.
* `skip_of_object`, `skip_of_sequence`: Objects and lists are passed over.
* `exists_object_of_skip`, `exists_objectText`: What is passed over from a brace
  on is an object.
* `object_written`, `objectText_written`: The members of a written object.
-/

namespace StreamRoster

namespace Json

variable {α : Type} {after : List Char → Prop}

/-! ### What was taken -/

/-- What a reader took in front of one text, it takes in front of others. -/
theorem takes_of_append (read : Reader α) (hread : Local after read) (used : List Char) (a : α)
    (rest : List Char) (h : read (used ++ rest) = .ok (a, rest)) : Takes after read used a := by
  rcases hread _ a rest h with ⟨front, hfront, htakes⟩
  rw [List.append_cancel_right hfront]
  exact htakes

theorem skip_takes (value behind : List Char) (h : skip (value ++ behind) = .ok ((), behind)) :
    Takes Ends skip value () :=
  takes_of_append skip skip_local value () behind h

/-- A value takes a character at least. -/
theorem ne_nil_of_skip_takes (value : List Char) (h : Takes Ends skip value ()) : value ≠ [] := by
  rintro rfl
  exact absurd (h [] nofun) nofun

theorem skip_of_skipSpace (s rest : List Char) (h : skip (skipSpace s) = .ok ((), rest)) :
    skip s = .ok ((), rest) := by
  rw [skip, skipValue_skipSpace] at h
  exact skipValue_mono _ _ (Nat.succ_le_succ (length_skipSpace_le s)) s _ h

/-! ### Keys -/

/-- The key behind an opening quote, if it is a Unicode text. -/
def keyOf (s : List Char) : Option String := (string s).toOption.map Prod.fst

theorem keyOf_eq_some_iff (s colon : List Char) (h : skipString s = .ok ((), colon))
    (key : String) : keyOf s = some key ↔ string s = .ok (key, colon) := by
  refine ⟨fun hkey => ?_, fun hkey => by rw [keyOf, hkey]; rfl⟩
  rcases Option.map_eq_some_iff.mp hkey with ⟨⟨a, t⟩, ha, rfl⟩
  have hread := (toOption_eq_some_iff _ _).mp ha
  have hskip := (skipString_of_string s a t hread).symm.trans h
  rcases Prod.mk.inj (Except.ok.inj hskip) with ⟨_, rfl⟩
  exact hread

/-- A key is the same whatever stands behind it, and so is its failure. -/
theorem keyOf_append (name s t : List Char) (h : Takes Any skipString name ()) :
    keyOf (name ++ s) = keyOf (name ++ t) := by
  refine Option.ext fun key => ?_
  rw [keyOf_eq_some_iff _ s (h s trivial), keyOf_eq_some_iff _ t (h t trivial)]
  exact ⟨fun hkey => takes_of_append string string_local name key s hkey t trivial,
    fun hkey => takes_of_append string string_local name key t hkey s trivial⟩

/-! ### Members -/

/-- A member of an object in a text: its key, if that is a Unicode text, and the
    text of its value, blanks in front included. -/
structure Member where
  key : Option String
  value : List Char

/-- A member whose key is a text, and none of the given ones. -/
def Unknown (keys : List String) (m : Member) : Prop := ∃ key, m.key = some key ∧ key ∉ keys

/-- The members of an object behind its opening brace or behind a member, up to
    its closing brace and the rest of the text. -/
inductive Row (rest : List Char) : Bool → List Char → List Member → Prop where
  | close (first : Bool) (s : List Char) (hs : skipSpace s = '\x7d' :: rest) : Row rest first s []
  | member (first : Bool) (s key colon behind : List Char) (m : Member) (ms : List Member)
      (hkey : HasKey first s true key) (hname : skipString key = .ok ((), colon))
      (hm : m.key = keyOf key) (hcolon : memberColon colon = .ok ((), m.value ++ behind))
      (hvalue : skip (m.value ++ behind) = .ok ((), behind)) (hms : Row rest false behind ms) :
      Row rest first s (m :: ms)

/-- An object at the front of a text, its members, and the rest of the text. -/
def Object (s : List Char) (ms : List Member) (rest : List Char) : Prop :=
  ∃ t, skipSpace s = '\x7b' :: t ∧ Row rest true t ms

theorem ends_of_row (rest s : List Char) (ms : List Member) (h : Row rest false s ms) : Ends s := by
  cases h with
  | close _ _ hs => exact ends_of_skipSpace s _ _ hs rfl
  | member _ _ key _ _ _ _ hkey => exact ends_of_hasKey s true key hkey

/-- What stands behind the closing brace does not count, by induction on the
    members. -/
theorem row_takes (rest : List Char) (first : Bool) (s : List Char) (ms : List Member)
    (h : Row rest first s ms) :
    ∃ used, s = used ++ rest ∧ ∀ other, Row other first (used ++ other) ms := by
  induction h with
  | close first s hs =>
      rcases exists_blanks_cons s _ _ hs with ⟨blanks, rfl, hblanks⟩
      refine ⟨blanks ++ ['\x7d'], by rw [List.append_assoc]; rfl, fun other => ?_⟩
      rw [List.append_assoc]
      exact Row.close first _ (hblanks other)
  | member first s key colon behind m ms hkey hname hm hcolon hvalue hms ih =>
      have htakes := skip_takes m.value behind hvalue
      rcases ih with ⟨used, rfl, hused⟩
      rcases memberColon_local _ _ _ hcolon with ⟨sign, rfl, hsign⟩
      rcases skipString_local _ _ _ hname with ⟨name, rfl, hquoted⟩
      rcases hasMember_takes first s true _ hkey with ⟨front, rfl, hfront⟩
      refine ⟨front ++ (name ++ (sign ++ (m.value ++ used))),
        by simp only [List.append_assoc], fun other => ?_⟩
      simp only [List.append_assoc]
      refine Row.member first _ (name ++ (sign ++ (m.value ++ (used ++ other))))
        (sign ++ (m.value ++ (used ++ other))) (used ++ other) m ms ?_ (hquoted _ trivial) ?_
        (hsign _ trivial) ?_ (hused other)
      · exact (hasMember_eq_ok_iff _ _ _ _).mp (hfront _ (Or.inl rfl))
      · -- A key that is no text does not become one in front of another rest.
        rw [hm]
        exact keyOf_append name _ _ hquoted
      · exact htakes _ (ends_of_row other _ ms (hused other))

theorem object_takes (s : List Char) (ms : List Member) (rest : List Char)
    (h : Object s ms rest) :
    ∃ used, s = used ++ rest ∧ ∀ other, Object (used ++ other) ms other := by
  rcases h with ⟨t, hs, hrow⟩
  rcases exists_blanks_cons s _ _ hs with ⟨blanks, rfl, hblanks⟩
  rcases row_takes rest true t ms hrow with ⟨used, rfl, hused⟩
  refine ⟨blanks ++ '\x7b' :: used, by rw [List.append_assoc, List.cons_append],
    fun other => ⟨used ++ other, ?_, hused other⟩⟩
  rw [List.append_assoc, List.cons_append]
  exact hblanks _

theorem hasKey_unique (first : Bool) (s : List Char) (more other : Bool) (t u : List Char)
    (h : HasKey first s more t) (hother : HasKey first s other u) : more = other ∧ t = u := by
  have hread := (hasMember_eq_ok_iff first s more t).mpr h
  rw [(hasMember_eq_ok_iff first s other u).mpr hother] at hread
  rcases Prod.mk.inj (Except.ok.inj hread) with ⟨rfl, rfl⟩
  exact ⟨rfl, rfl⟩

/-- A text has one row of members, and one place where it ends. -/
theorem row_unique (rest : List Char) (first : Bool) (s : List Char) (ms : List Member)
    (h : Row rest first s ms) (left : List Char) (others : List Member)
    (hother : Row left first s others) : ms = others ∧ rest = left := by
  induction h generalizing others with
  | close first s hs =>
      cases hother with
      | close _ _ ht => exact ⟨rfl, (List.cons.inj (hs.symm.trans ht)).2⟩
      | member _ _ key _ _ _ _ hkey =>
          exact absurd (hasKey_unique first s _ _ _ _ (HasKey.close rest hs) hkey).1 nofun
  | member first s key colon behind m ms hkey hname hm hcolon hvalue hms ih =>
      cases hother with
      | close _ _ ht =>
          exact absurd (hasKey_unique first s _ _ _ _ hkey (HasKey.close left ht)).1 nofun
      | member _ _ key' colon' behind' n ns hkey' hname' hn hcolon' hvalue' hns =>
          -- Key, colon and value end where passing over them stops, which is one place.
          rcases (hasKey_unique first s _ _ _ _ hkey hkey').2 with rfl
          rcases Prod.mk.inj (Except.ok.inj (hname.symm.trans hname')) with ⟨_, rfl⟩
          rcases Prod.mk.inj (Except.ok.inj (hcolon.symm.trans hcolon')) with ⟨_, htext⟩
          rw [← htext, hvalue] at hvalue'
          rcases Prod.mk.inj (Except.ok.inj hvalue') with ⟨_, rfl⟩
          rcases ih ns hns with ⟨rfl, rfl⟩
          have hsame : m = n := by
            rcases m with ⟨mkey, mvalue⟩
            rcases n with ⟨nkey, nvalue⟩
            rw [Member.mk.injEq]
            exact ⟨hm.trans hn.symm, List.append_cancel_right htext⟩
          rw [hsame]
          exact ⟨rfl, rfl⟩

theorem object_unique (s : List Char) (ms others : List Member) (rest left : List Char)
    (h : Object s ms rest) (hother : Object s others left) : ms = others ∧ rest = left := by
  rcases h with ⟨t, hs, hrow⟩
  rcases hother with ⟨u, hu, hothers⟩
  rcases (List.cons.inj (hs.symm.trans hu)).2 with rfl
  exact row_unique rest true t ms hrow left others hothers

/-! ### Passing over members -/

/-- Behind the quote of its key, a member and what follows it are passed over. -/
theorem skipMembers_of_member (rest s key colon value behind : List Char)
    (hs : skipSpace s = '"' :: key) (hname : skipString key = .ok ((), colon))
    (hcolon : memberColon colon = .ok ((), value)) (hvalue : skip value = .ok ((), behind))
    (fuel : Nat) (hbehind : behind.length < s.length →
      Behind '\x7d' (skipMembers (skipValue fuel)) behind rest)
    (hfuel : s.length < fuel) (steps : Nat) (hsteps : s.length < steps) :
    skipMembers (skipValue fuel) steps s = .ok ((), rest) := by
  have hquote := length_skipSpace_le s
  have hkeyed := length_le_of_local skipString skipString_local key () colon hname
  have hsigned := length_le_of_local memberColon memberColon_local colon () value hcolon
  have hpassed := length_le_of_local skip skip_local value () behind hvalue
  rw [hs, List.length_cons] at hquote
  have hpass := skipValue_mono _ fuel (by omega) value _ hvalue
  exact skipMembers_of_behind _ s key colon value behind rest hs hname hcolon hpass (by omega)
    (hbehind (by omega)) steps hsteps

theorem behind_of_row (rest : List Char) (first : Bool) (s : List Char) (ms : List Member)
    (h : Row rest first s ms) (hfirst : first = false) (fuel : Nat) (hfuel : s.length < fuel) :
    Behind '\x7d' (skipMembers (skipValue fuel)) s rest := by
  induction h with
  | close first s hs => exact Or.inl hs
  | member first s key colon behind m ms hkey hname hm hcolon hvalue hms ih =>
      cases hkey with
      | start t hs hstart => exact absurd (hstart.symm.trans hfirst) nofun
      | next u t hs hu =>
          have hle := length_skipSpace_le s
          rw [hs, List.length_cons] at hle
          refine Or.inr ⟨u, hs, skipMembers_of_member rest u _ colon _ behind hu hname hcolon hvalue
            fuel (fun hlt => ih rfl (by omega)) (by omega)⟩

/-- An object is passed over. -/
theorem skip_of_object (s : List Char) (ms : List Member) (rest : List Char)
    (h : Object s ms rest) : skip s = .ok ((), rest) := by
  rcases h with ⟨t, hs, hrow⟩
  refine skip_of_skipSpace s rest ?_
  rw [hs, skip, List.length_cons]
  cases hrow with
  | close _ _ ht => exact encloses_object.closed _ t rest ht
  | member _ _ key colon behind m ms hkey hname hm hcolon hvalue hms =>
      cases hkey with
      | next u v _ _ hfirst => exact absurd hfirst nofun
      | start v ht =>
          -- The fuel is counted for the whole text, and a member is a part of it.
          have hle := length_skipSpace_le t
          rw [ht] at hle
          rw [encloses_object.inside _ t '"' _ ht (by decide)]
          have hquote : skipSpace ('"' :: key) = '"' :: key := skipSpace_cons '"' key rfl
          exact skipMembers_of_member rest _ key colon _ behind hquote hname hcolon hvalue _
            (fun hlt => behind_of_row rest false behind ms hms rfl _ (by omega)) (by omega) _
            (Nat.lt_succ_self _)

/-- A value that was passed over with any fuel is passed over, if it ends there. -/
theorem skip_of_skipValue (fuel : Nat) (s rest : List Char)
    (h : skipValue fuel s = .ok ((), rest)) (hends : Ends rest) : skip s = .ok ((), rest) := by
  rcases skipValue_takes fuel s rest h with ⟨used, rfl, htakes⟩
  refine htakes _ ?_ rest hends
  rw [List.length_append]
  omega

theorem exists_value_of_skip (s behind : List Char) (h : skip s = .ok ((), behind)) :
    ∃ value, s = value ++ behind :=
  (skip_local s () behind h).imp fun _ hcut => hcut.1

/-- A key, a colon and a value that is passed over make a member. -/
theorem row_cons (rest : List Char) (first : Bool) (s key colon v behind : List Char)
    (ms : List Member) (hkey : HasKey first s true key) (hname : skipString key = .ok ((), colon))
    (hcolon : memberColon colon = .ok ((), v)) (hvalue : skip v = .ok ((), behind))
    (hms : Row rest false behind ms) : ∃ m, Row rest first s (m :: ms) := by
  rcases exists_value_of_skip v behind hvalue with ⟨value, rfl⟩
  exact ⟨⟨keyOf key, value⟩,
    Row.member first s key colon behind _ ms hkey hname rfl hcolon hvalue hms⟩

/-- What is passed over from the quote of a key on is a row of members. -/
theorem exists_row_of_skipMembers (fuel steps : Nat) (s rest : List Char)
    (h : skipMembers (skipValue fuel) steps s = .ok ((), rest)) :
    ∃ key, skipSpace s = '"' :: key ∧
      ∃ ms, ∀ first t, HasKey first t true key → Row rest first t ms := by
  induction steps generalizing s with
  | zero => cases h
  | succ steps ih =>
      rw [skipMembers] at h
      split at h
      · cases h
      · rename_i key hkey
        rcases (bind_eq_ok _ _ _).mp h with ⟨⟨_, colon⟩, hname, h⟩
        rcases (bind_eq_ok _ _ _).mp h with ⟨⟨_, v⟩, hcolon, h⟩
        rcases (bind_eq_ok _ _ _).mp h with ⟨⟨_, behind⟩, hvalue, h⟩
        dsimp only at h
        -- What stands behind a member ends its value and begins the rest of the row.
        have hrow : ∃ ms, Ends behind ∧ Row rest false behind ms := by
          split at h
          · cases h
          · rename_i u hu
            rcases ih u h with ⟨next, hnext, ms, hms⟩
            exact ⟨ms, ends_of_skipSpace _ _ _ hu rfl,
              hms false behind (HasKey.next u next hu hnext rfl)⟩
          · rename_i u hu
            rcases Prod.mk.inj (Except.ok.inj h) with ⟨_, rfl⟩
            exact ⟨[], ends_of_skipSpace _ _ _ hu rfl, Row.close false behind hu⟩
          · cases h
        rcases hrow with ⟨ms, hends, hms⟩
        have hskip := skip_of_skipValue fuel v behind hvalue hends
        rcases exists_value_of_skip v behind hskip with ⟨value, rfl⟩
        exact ⟨key, hkey, ⟨keyOf key, value⟩ :: ms, fun first t ht =>
          Row.member first t key colon behind _ ms ht hname rfl hcolon hskip hms⟩
      · cases h

/-- What is passed over from an opening brace on is an object. -/
theorem exists_object_of_skip (s t rest : List Char) (hs : skipSpace s = '\x7b' :: t)
    (h : skip s = .ok ((), rest)) : ∃ ms, Object s ms rest := by
  rw [skip, ← skipValue_skipSpace, hs] at h
  cases ht : skipSpace t with
  | nil => exact absurd h (encloses_object.cut _ t rest ht)
  | cons c u =>
      by_cases hc : c = '\x7d'
      · rcases hc with rfl
        rw [encloses_object.closed _ t u ht] at h
        rcases Prod.mk.inj (Except.ok.inj h) with ⟨_, rfl⟩
        exact ⟨[], t, hs, Row.close true t ht⟩
      · rw [encloses_object.inside _ t c u ht hc] at h
        rcases exists_row_of_skipMembers _ _ _ rest h with ⟨key, hkey, ms, hms⟩
        rw [← ht, skipSpace_skipSpace] at hkey
        exact ⟨ms, t, hs, hms true t (HasKey.start key hkey rfl)⟩

/-! ### Elements -/

/-- The elements of a list behind its opening bracket or behind an element, up
    to its closing bracket and the rest of the text. -/
inductive Items (rest : List Char) : Bool → List Char → List (List Char) → Prop where
  | close (first : Bool) (s : List Char) (hs : skipSpace s = ']' :: rest) : Items rest first s []
  | item (first : Bool) (s value behind : List Char) (values : List (List Char))
      (hgoes : GoesOn first s true (value ++ behind))
      (hvalue : skip (value ++ behind) = .ok ((), behind))
      (hvalues : Items rest false behind values) :
      Items rest first s (value :: values)

/-- A list at the front of a text, the texts of its elements, and the rest of
    the text. -/
def Sequence (s : List Char) (values : List (List Char)) (rest : List Char) : Prop :=
  ∃ t, skipSpace s = '[' :: t ∧ Items rest true t values

theorem ends_of_items (rest s : List Char) (values : List (List Char))
    (h : Items rest false s values) : Ends s := by
  cases h with
  | close _ _ hs => exact ends_of_skipSpace s _ _ hs rfl
  | item _ _ _ _ _ hgoes => exact ends_of_goesOn s true _ hgoes

theorem items_takes (rest : List Char) (first : Bool) (s : List Char) (values : List (List Char))
    (h : Items rest first s values) :
    ∃ used, s = used ++ rest ∧ ∀ other, Items other first (used ++ other) values := by
  induction h with
  | close first s hs =>
      rcases exists_blanks_cons s _ _ hs with ⟨blanks, rfl, hblanks⟩
      refine ⟨blanks ++ [']'], by rw [List.append_assoc]; rfl, fun other => ?_⟩
      rw [List.append_assoc]
      exact Items.close first _ (hblanks other)
  | item first s value behind values hgoes hvalue hvalues ih =>
      have htakes := skip_takes value behind hvalue
      rcases ih with ⟨used, rfl, hused⟩
      rcases hasElement_takes first s true _ hgoes with ⟨front, c, t, rfl, ht, hfront⟩
      cases value with
      | nil => exact absurd rfl (ne_nil_of_skip_takes _ htakes)
      | cons d value =>
          rw [List.cons_append] at ht
          -- The element begins where the list was found to go on.
          rcases List.cons.inj ht with ⟨rfl, rfl⟩
          refine ⟨front ++ d :: (value ++ used),
            by simp only [List.append_assoc, List.cons_append], fun other => ?_⟩
          simp only [List.append_assoc, List.cons_append]
          refine Items.item first _ (d :: value) (used ++ other) values ?_ ?_ (hused other)
          · exact (hasElement_eq_ok_iff _ _ _ _).mp (hfront _)
          · exact htakes _ (ends_of_items other _ values (hused other))

theorem sequence_takes (s : List Char) (values : List (List Char)) (rest : List Char)
    (h : Sequence s values rest) :
    ∃ used, s = used ++ rest ∧ ∀ other, Sequence (used ++ other) values other := by
  rcases h with ⟨t, hs, hitems⟩
  rcases exists_blanks_cons s _ _ hs with ⟨blanks, rfl, hblanks⟩
  rcases items_takes rest true t values hitems with ⟨used, rfl, hused⟩
  refine ⟨blanks ++ '[' :: used, by rw [List.append_assoc, List.cons_append],
    fun other => ⟨used ++ other, ?_, hused other⟩⟩
  rw [List.append_assoc, List.cons_append]
  exact hblanks _

theorem goesOn_unique (first : Bool) (s : List Char) (goes other : Bool) (t u : List Char)
    (h : GoesOn first s goes t) (hother : GoesOn first s other u) : goes = other ∧ t = u := by
  have hread := (hasElement_eq_ok_iff first s goes t).mpr h
  rw [(hasElement_eq_ok_iff first s other u).mpr hother] at hread
  rcases Prod.mk.inj (Except.ok.inj hread) with ⟨rfl, rfl⟩
  exact ⟨rfl, rfl⟩

/-- A text has one row of elements, and one place where it ends. -/
theorem items_unique (rest : List Char) (first : Bool) (s : List Char) (values : List (List Char))
    (h : Items rest first s values) (left : List Char) (others : List (List Char))
    (hother : Items left first s others) : values = others ∧ rest = left := by
  induction h generalizing others with
  | close first s hs =>
      cases hother with
      | close _ _ ht => exact ⟨rfl, (List.cons.inj (hs.symm.trans ht)).2⟩
      | item _ _ _ _ _ hgoes =>
          exact absurd (goesOn_unique first s _ _ _ _ (GoesOn.close rest hs) hgoes).1 nofun
  | item first s value behind values hgoes hvalue hvalues ih =>
      cases hother with
      | close _ _ ht =>
          exact absurd (goesOn_unique first s _ _ _ _ hgoes (GoesOn.close left ht)).1 nofun
      | item _ _ value' behind' values' hgoes' hvalue' hvalues' =>
          have htext := (goesOn_unique first s _ _ _ _ hgoes hgoes').2
          rw [← htext, hvalue] at hvalue'
          rcases Prod.mk.inj (Except.ok.inj hvalue') with ⟨_, rfl⟩
          rcases ih values' hvalues' with ⟨rfl, rfl⟩
          rw [List.append_cancel_right htext]
          exact ⟨rfl, rfl⟩

theorem sequence_unique (s : List Char) (values others : List (List Char)) (rest left : List Char)
    (h : Sequence s values rest) (hother : Sequence s others left) :
    values = others ∧ rest = left := by
  rcases h with ⟨t, hs, hitems⟩
  rcases hother with ⟨u, hu, hothers⟩
  rcases (List.cons.inj (hs.symm.trans hu)).2 with rfl
  exact items_unique rest true t values hitems left others hothers

theorem behind_of_items (rest : List Char) (first : Bool) (s : List Char)
    (values : List (List Char)) (h : Items rest first s values) (hfirst : first = false)
    (fuel : Nat) (hfuel : s.length < fuel) :
    Behind ']' (skipElements (skipValue fuel)) s rest := by
  induction h with
  | close first s hs => exact Or.inl hs
  | item first s value behind values hgoes hvalue hvalues ih =>
      have hlength := length_lt_of_local skip skip_local (fun _ => nofun) _ () behind hvalue
      have hpassed := length_skipSpace_le s
      generalize htext : value ++ behind = text at hgoes hvalue hlength
      cases hgoes with
      | start c t hs hc hstart => exact absurd (hstart.symm.trans hfirst) nofun
      | next u c t hs hu =>
          have hinner := length_skipSpace_le u
          rw [hs, List.length_cons] at hpassed
          rw [hu] at hinner
          have hpass := skipValue_mono _ fuel (by omega) _ _ hvalue
          rw [← hu, skipValue_skipSpace] at hpass
          exact Or.inr ⟨u, hs, skipElements_of_behind _ u behind rest hpass (by omega)
            (ih rfl (by omega))⟩

/-- A list is passed over. -/
theorem skip_of_sequence (s : List Char) (values : List (List Char)) (rest : List Char)
    (h : Sequence s values rest) : skip s = .ok ((), rest) := by
  rcases h with ⟨t, hs, hitems⟩
  refine skip_of_skipSpace s rest ?_
  rw [hs, skip, List.length_cons]
  cases hitems with
  | close _ _ ht => exact encloses_list.closed _ t rest ht
  | item _ _ value behind values hgoes hvalue hvalues =>
      have hlength := length_lt_of_local skip skip_local (fun _ => nofun) _ () behind hvalue
      have hle := length_skipSpace_le t
      generalize htext : value ++ behind = text at hgoes hvalue hlength
      cases hgoes with
      | next u c v _ _ _ hfirst => exact absurd hfirst nofun
      | start c v ht hc =>
          rw [ht] at hle
          rw [encloses_list.inside _ t c v ht hc]
          exact skipElements_of_behind _ _ behind rest (skipValue_mono _ _ (by omega) _ _ hvalue)
            hlength (behind_of_items rest false behind values hvalues rfl _ (by omega)) _
            (Nat.lt_succ_self _)

/-! ### Blocks -/

/-- A list or an object, by the texts of what is in it. -/
inductive Block where
  | sequence (values : List (List Char))
  | object (ms : List Member)

namespace Block

/-- A block at the front of a text, up to the rest of it. -/
def At (s rest : List Char) : Block → Prop
  | .sequence values => Sequence s values rest
  | .object ms => Object s ms rest

theorem takes (s rest : List Char) (b : Block) (h : b.At s rest) :
    ∃ used, s = used ++ rest ∧ ∀ other, b.At (used ++ other) other := by
  cases b with
  | sequence values => exact sequence_takes s values rest h
  | object ms => exact object_takes s ms rest h

theorem skip (s rest : List Char) (b : Block) (h : b.At s rest) : Json.skip s = .ok ((), rest) := by
  cases b with
  | sequence values => exact skip_of_sequence s values rest h
  | object ms => exact skip_of_object s ms rest h

/-- A text has one block at its front. -/
theorem unique (s rest left : List Char) (b c : Block) (hb : b.At s rest) (hc : c.At s left) :
    b = c := by
  cases b with
  | sequence values =>
      cases c with
      | sequence others => rw [(sequence_unique s values others rest left hb hc).1]
      | object ms =>
          rcases hb with ⟨t, ht, _⟩
          rcases hc with ⟨u, hu, _⟩
          exact absurd (List.cons.inj (ht.symm.trans hu)).1 (by decide)
  | object ms =>
      cases c with
      | sequence others =>
          rcases hb with ⟨t, ht, _⟩
          rcases hc with ⟨u, hu, _⟩
          exact absurd (List.cons.inj (ht.symm.trans hu)).1 (by decide)
      | object others => rw [(object_unique s ms others rest left hb hc).1]

end Block

/-- A text that is one block and nothing else. -/
def BlockText (text : String) (b : Block) : Prop :=
  ∃ rest, b.At text.toList rest ∧ skipSpace rest = []

/-- A text that is one object with the given members. -/
def ObjectText (text : String) (ms : List Member) : Prop := BlockText text (.object ms)

theorem blockText_unique (text : String) (b c : Block) (hb : BlockText text b)
    (hc : BlockText text c) : b = c := by
  rcases hb with ⟨rest, hb, _⟩
  rcases hc with ⟨left, hc, _⟩
  exact Block.unique _ rest left b c hb hc

theorem objectText_unique (text : String) (ms others : List Member) (h : ObjectText text ms)
    (hother : ObjectText text others) : ms = others :=
  Block.object.inj (blockText_unique text _ _ h hother)

/-- A well-formed text that starts with a brace is an object. -/
theorem exists_objectText (text : String) (t : List Char) (htext : WellFormed text)
    (hs : skipSpace text.toList = '\x7b' :: t) : ∃ ms, ObjectText text ms := by
  rcases (readAll_eq_ok_iff skip text ()).mp htext with ⟨rest, hskip, hrest⟩
  rcases exists_object_of_skip _ t rest hs hskip with ⟨ms, hms⟩
  exact ⟨ms, rest, hms, hrest⟩

theorem wellFormed_of_blockText (text : String) (b : Block) (h : BlockText text b) :
    WellFormed text := by
  rcases h with ⟨rest, hb, hrest⟩
  exact (readAll_eq_ok_iff skip text ()).mpr ⟨rest, b.skip _ rest hb, hrest⟩

/-! ### Written members -/

/-- A member that is written, and then more. -/
theorem row_step (rest : List Char) (first : Bool) (s : List Char) (key : String)
    (value behind : List Char) (ms : List Member)
    (hkey : HasKey first s true (keyed key (value ++ behind))) (hvalue : skip value = .ok ((), []))
    (hms : Row rest false behind ms) : Row rest first s (⟨some key, value⟩ :: ms) := by
  have hstring := string_keyed key (value ++ behind)
  have hname := skipString_of_string _ key _ hstring
  refine Row.member first s _ _ behind ⟨some key, value⟩ ms hkey hname ?_ rfl ?_ hms
  · exact ((keyOf_eq_some_iff _ _ hname key).mpr hstring).symm
  · exact takes_of_local skip skip_local value () hvalue behind (ends_of_row rest behind ms hms)

theorem row_afterCommas (rest : List Char) (ms : List (String × List Char))
    (h : ∀ m ∈ ms, skip m.2 = .ok ((), [])) :
    Row rest false (afterCommas (ms.map writeMember) ++ '\x7d' :: rest)
      (ms.map fun m => ⟨some m.1, m.2⟩) := by
  induction ms with
  | nil => exact Row.close false _ rfl
  | cons m ms ih =>
      have hrest := ih fun n hn => h n (List.mem_cons_of_mem m hn)
      rw [List.map_cons, List.map_cons, afterCommas, List.flatMap_cons, List.cons_append,
        List.cons_append, List.append_assoc, writeMember_append]
      exact row_step rest false _ m.1 m.2 _ _ (HasKey.next _ _ (skipSpace_cons ',' _ rfl)
        (skipSpace_cons '"' _ rfl) rfl) (h m List.mem_cons_self) hrest

/-- The members of a written object are the ones that were written. -/
theorem object_written (ms : List (String × List Char)) (h : ∀ m ∈ ms, skip m.2 = .ok ((), [])) :
    Object (writeObject ms) (ms.map fun m => ⟨some m.1, m.2⟩) [] := by
  refine ⟨separated (ms.map writeMember) ++ ['\x7d'], skipSpace_cons '\x7b' _ rfl, ?_⟩
  cases ms with
  | nil => exact Row.close true _ rfl
  | cons m ms =>
      have hrest := row_afterCommas [] ms fun n hn => h n (List.mem_cons_of_mem m hn)
      rw [List.map_cons, List.map_cons, separated_cons, List.append_assoc, writeMember_append]
      exact row_step [] true _ m.1 m.2 _ _ (HasKey.start _ (skipSpace_cons '"' _ rfl) rfl)
        (h m List.mem_cons_self) hrest

/-- The same about the text as a whole. -/
theorem objectText_written (ms : List (String × List Char))
    (h : ∀ m ∈ ms, skip m.2 = .ok ((), [])) :
    ObjectText (String.ofList (writeObject ms)) (ms.map fun m => ⟨some m.1, m.2⟩) := by
  refine ⟨[], ?_, rfl⟩
  rw [String.toList_ofList]
  exact object_written ms h

end Json

end StreamRoster
