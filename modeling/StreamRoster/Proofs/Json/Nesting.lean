import StreamRoster.Json.Tree
import StreamRoster.Proofs.Json.Extent

/-!
# What Lists and Objects Take

The punctuation of lists and objects is read in a way that does not match what
is taken. Whether a list goes on is found out by looking at a character that
belongs to the element behind, or to the end of the list. `GoesOn` and
`HasKey` say what is found in terms of the text behind the blanks, and each is
equivalent to a success of the reader. All facts about punctuation come from
there.

With them, a list or an object takes the same text again whatever stands behind
its closing bracket, and by induction on the levels so does any value. Inside a
list, what stands behind an element is known to be punctuation, which is where
the condition on numbers is paid for.

## Main definitions

* `GoesOn`: How a list goes on.
* `HasKey`: How an object goes on.

## Theorems

* `hasElement_eq_ok_iff`, `hasMember_eq_ok_iff`: What the punctuation has to be.
* `elements_takes`, `members_takes`: Lists and objects take what they took.
* `tree_ok_cases`: What kinds of values can be read at a level.
* `tree_local`: Reading a value of any shape is local where it ends.
* `tree_of_closed`: So a closing brace behind a value does not count.
-/

namespace StreamRoster

namespace Json

variable {α : Type} {after : List Char → Prop}

/-! ### Blanks -/

/-- Blanks in front of a text are passed over together with those that it begins
    with. -/
theorem skipSpace_append (blanks s : List Char) (h : ∀ c ∈ blanks, isSpace c = true) :
    skipSpace (blanks ++ s) = skipSpace s :=
  List.dropWhile_append_of_pos h

/-- Nothing is passed over in front of a character that is no blank. -/
theorem skipSpace_cons (c : Char) (s : List Char) (h : isSpace c = false) :
    skipSpace (c :: s) = c :: s :=
  List.dropWhile_cons_of_neg (ne_true_of_eq_false h)

/-- Each text is some blanks and what is behind them. -/
theorem exists_blanks (s : List Char) :
    ∃ blanks, s = blanks ++ skipSpace s ∧ ∀ c ∈ blanks, isSpace c = true :=
  ⟨s.takeWhile isSpace, List.takeWhile_append_dropWhile.symm,
    fun _ hc => List.mem_takeWhile_imp hc⟩

/-- Behind the blanks stands none. -/
theorem isSpace_of_skipSpace (s : List Char) (c : Char) (t : List Char)
    (h : skipSpace s = c :: t) : isSpace c = false := by
  induction s with
  | nil => cases h
  | cons d s ih =>
      by_cases hd : isSpace d = true
      · rw [skipSpace, List.dropWhile_cons_of_pos hd] at h
        exact ih h
      · rw [skipSpace, List.dropWhile_cons_of_neg hd] at h
        rcases List.cons.inj h with ⟨rfl, rfl⟩
        exact eq_false_of_ne_true hd

theorem skipSpace_skipSpace (s : List Char) : skipSpace (skipSpace s) = skipSpace s := by
  cases h : skipSpace s with
  | nil => rfl
  | cons c t => exact skipSpace_cons c t (isSpace_of_skipSpace s c t h)

/-- The blanks in front of a character are the same whatever stands behind it. -/
theorem exists_blanks_cons (s : List Char) (c : Char) (t : List Char) (h : skipSpace s = c :: t) :
    ∃ blanks, s = blanks ++ c :: t ∧ ∀ u, skipSpace (blanks ++ c :: u) = c :: u := by
  rcases exists_blanks s with ⟨blanks, hs, hblanks⟩
  refine ⟨blanks, h ▸ hs, fun u => ?_⟩
  rw [skipSpace_append blanks _ hblanks, skipSpace_cons c u (isSpace_of_skipSpace s c t h)]

/-- A reader that passes over blanks takes them along. -/
theorem cuts_of_skipSpace (read : Reader α) (hread : ∀ s, read (skipSpace s) = read s)
    (s : List Char) (a : α) (rest : List Char) (h : Cuts after read (skipSpace s) a rest) :
    Cuts after read s a rest := by
  rcases h with ⟨used, hs, htakes⟩
  rcases exists_blanks s with ⟨blanks, hblanks, hspace⟩
  refine ⟨blanks ++ used, ?_, fun rest' hrest => ?_⟩
  · rw [List.append_assoc, ← hs]
    exact hblanks
  · rw [List.append_assoc, ← hread, skipSpace_append blanks _ hspace, hread]
    exact htakes rest' hrest

/-- A value may end in front of blanks as it may end in front of what stands behind
    them. -/
theorem ends_of_skipSpace (s : List Char) (c : Char) (t : List Char) (h : skipSpace s = c :: t)
    (hc : follows c = true) : Ends s := by
  intro d hd
  rcases List.head?_eq_some_iff.mp hd with ⟨u, rfl⟩
  -- The first character is a blank, or it is the one behind the blanks.
  by_cases hspace : isSpace d = true
  · rw [follows, hspace]
    rfl
  · rw [skipSpace_cons d u (eq_false_of_ne_true hspace)] at h
    rw [(List.cons.inj h).1]
    exact hc

/-! ### Lists -/

/-- How a list goes on: to its closing bracket, to its first element, or behind
    a comma to the next one. -/
inductive GoesOn (first : Bool) (s : List Char) : Bool → List Char → Prop where
  | close (t : List Char) (hs : skipSpace s = ']' :: t) : GoesOn first s false (']' :: t)
  | start (c : Char) (t : List Char) (hs : skipSpace s = c :: t) (hc : c ≠ ']')
      (hfirst : first = true) : GoesOn first s true (c :: t)
  | next (u : List Char) (c : Char) (t : List Char) (hs : skipSpace s = ',' :: u)
      (hu : skipSpace u = c :: t) (hc : c ≠ ']') (hfirst : first = false) :
      GoesOn first s true (c :: t)

/-- Behind a comma there has to be something, and no closing bracket. -/
theorem nextElement_eq_ok_iff (s : List Char) (u : Unit) (rest : List Char) :
    nextElement s = .ok (u, rest) ↔ ∃ c t, skipSpace s = c :: t ∧ c ≠ ']' ∧ rest = c :: t := by
  rw [nextElement]
  split
  · rename_i hs
    rw [hs]
    exact iff_of_false nofun nofun
  · rename_i t hs
    rw [hs]
    refine iff_of_false nofun fun h => ?_
    rcases h with ⟨c, v, hcv, hc, _⟩
    exact hc (List.cons.inj hcv).1.symm
  · rename_i hempty hclose
    refine ⟨fun h => ?_, fun h => ?_⟩
    · -- The text behind the blanks is neither empty nor a bracket.
      cases hs : skipSpace s with
      | nil => exact absurd hs hempty
      | cons c t =>
          refine ⟨c, t, rfl, fun hc => hclose t (hc ▸ hs), ?_⟩
          rw [← hs]
          exact (Prod.mk.inj (Except.ok.inj h)).2.symm
    · rcases h with ⟨c, t, hs, _, rfl⟩
      rw [hs]

/-- The punctuation of a list is read exactly where the list goes on. -/
theorem hasElement_eq_ok_iff (first : Bool) (s : List Char) (goes : Bool) (rest : List Char) :
    hasElement first s = .ok (goes, rest) ↔ GoesOn first s goes rest := by
  rw [hasElement]
  split
  · -- The text has ended.
    rename_i hs
    refine iff_of_false nofun fun h => ?_
    cases h with
    | close t h | start c t h | next u c t h => exact absurd (hs.symm.trans h) nofun
  · -- The list is closed.
    rename_i t hs
    refine ⟨fun h => ?_, fun h => ?_⟩
    · rcases Prod.mk.inj (Except.ok.inj h) with ⟨rfl, rfl⟩
      exact GoesOn.close t hs
    · cases h with
      | close u h =>
          rcases List.cons.inj (hs.symm.trans h) with ⟨_, rfl⟩
          rfl
      | start c u h hc => exact absurd (List.cons.inj (hs.symm.trans h)).1.symm hc
      | next u c v h => exact absurd (List.cons.inj (hs.symm.trans h)).1 (by decide)
  · -- Something else comes: an element at the start, or a comma in front of the next one.
    rename_i c t hbracket hs
    by_cases hfirst : first = true
    · rw [if_pos hfirst]
      refine ⟨fun h => ?_, fun h => ?_⟩
      · rcases Prod.mk.inj (Except.ok.inj h) with ⟨rfl, rfl⟩
        exact GoesOn.start c t hs hbracket hfirst
      · cases h with
        | close u h => exact absurd (List.cons.inj (hs.symm.trans h)).1 hbracket
        | start d u h => rw [← hs, h]
        | next u d v h hu hd hnext => exact absurd (hfirst.symm.trans hnext) nofun
    rw [if_neg hfirst]
    by_cases hcomma : c = ','
    · rw [if_pos hcomma, bind_eq_ok]
      refine ⟨fun h => ?_, fun h => ?_⟩
      · rcases h with ⟨⟨u, v⟩, hnext, h⟩
        rcases Prod.mk.inj (Except.ok.inj h) with ⟨rfl, rfl⟩
        rcases (nextElement_eq_ok_iff t u v).mp hnext with ⟨d, w, ht, hd, rfl⟩
        exact GoesOn.next t d w (hcomma ▸ hs) ht hd (eq_false_of_ne_true hfirst)
      · cases h with
        | close u h => exact absurd (List.cons.inj (hs.symm.trans h)).1 hbracket
        | start d u h hd hstart => exact absurd hstart hfirst
        | next u d v h hu hd =>
            rcases List.cons.inj (hs.symm.trans h) with ⟨_, rfl⟩
            exact ⟨_, (nextElement_eq_ok_iff t () _).mpr ⟨d, v, hu, hd, rfl⟩, rfl⟩
    · rw [if_neg hcomma]
      refine iff_of_false nofun fun h => ?_
      cases h with
      | close u h => exact absurd (List.cons.inj (hs.symm.trans h)).1 hbracket
      | start d u h hd hstart => exact absurd hstart hfirst
      | next u d v h => exact absurd (List.cons.inj (hs.symm.trans h)).1 hcomma

/-- The punctuation in front of a character is the same whatever stands behind
    that character. -/
theorem hasElement_takes (first : Bool) (s : List Char) (goes : Bool) (rest : List Char)
    (h : GoesOn first s goes rest) :
    ∃ used c t, s = used ++ c :: t ∧ rest = c :: t ∧
      ∀ u, hasElement first (used ++ c :: u) = .ok (goes, c :: u) := by
  cases h with
  | close t hs =>
      rcases exists_blanks_cons s _ _ hs with ⟨blanks, rfl, hblanks⟩
      exact ⟨blanks, ']', t, rfl, rfl,
        fun u => (hasElement_eq_ok_iff _ _ _ _).mpr (GoesOn.close u (hblanks u))⟩
  | start c t hs hc hfirst =>
      rcases exists_blanks_cons s _ _ hs with ⟨blanks, rfl, hblanks⟩
      exact ⟨blanks, c, t, rfl, rfl,
        fun u => (hasElement_eq_ok_iff _ _ _ _).mpr (GoesOn.start c u (hblanks u) hc hfirst)⟩
  | next u c t hs hu hc hfirst =>
      rcases exists_blanks_cons s _ _ hs with ⟨blanks, rfl, hblanks⟩
      rcases exists_blanks_cons u _ _ hu with ⟨more, rfl, hmore⟩
      refine ⟨blanks ++ ',' :: more, c, t, ?_, rfl, fun v => ?_⟩
      · rw [List.append_assoc, List.cons_append]
      · rw [List.append_assoc, List.cons_append]
        exact (hasElement_eq_ok_iff _ _ _ _).mpr
          (GoesOn.next _ c v (hblanks _) (hmore v) hc hfirst)

/-- Behind an element stands a comma or the closing bracket, so a number may end
    there. -/
theorem ends_of_goesOn (s : List Char) (goes : Bool) (rest : List Char)
    (h : GoesOn false s goes rest) : Ends s := by
  cases h with
  | close t hs => exact ends_of_skipSpace s _ _ hs rfl
  | start c t hs hc hfirst => exact absurd hfirst Bool.false_ne_true
  | next u c t hs => exact ends_of_skipSpace s _ _ hs rfl

theorem ends_of_elements (read : Reader α) (fuel : Nat) (s : List Char) (as : List α)
    (rest : List Char) (h : elements read fuel false s = .ok (as, rest)) : Ends s := by
  cases fuel with
  | zero => cases h
  | succ fuel =>
      rcases (bind_eq_ok _ _ _).mp h with ⟨⟨goes, t⟩, hgoes, _⟩
      exact ends_of_goesOn s goes t ((hasElement_eq_ok_iff _ _ _ _).mp hgoes)

/-- Every step of reading a list takes a character or is the last one, so fuel
    for one step more than there are characters taken is enough. -/
theorem elements_takes (read : Reader α) (hread : Local Ends read) (hempty : ∀ x, read [] ≠ .ok x)
    (fuel : Nat) (first : Bool) (s : List Char) (as : List α) (rest : List Char)
    (h : elements read fuel first s = .ok (as, rest)) :
    ∃ used t, s = used ++ ']' :: t ∧ rest = ']' :: t ∧
      ∀ more, used.length < more → ∀ u,
        elements read more first (used ++ ']' :: u) = .ok (as, ']' :: u) := by
  induction fuel generalizing first s as with
  | zero => cases h
  | succ fuel ih =>
      rcases (bind_eq_ok _ _ _).mp h with ⟨⟨goes, v⟩, hgoes, h⟩
      rw [hasElement_eq_ok_iff] at hgoes
      rcases hasElement_takes first s goes v hgoes with ⟨front, c, t, rfl, rfl, hfront⟩
      cases hgoes with
      | close t hs =>
          rcases Prod.mk.inj (Except.ok.inj h) with ⟨rfl, rfl⟩
          refine ⟨front, t, rfl, rfl, fun more hmore u => ?_⟩
          cases more with
          | zero => exact absurd hmore (Nat.not_lt_zero _)
          | succ more =>
              rw [elements, hfront u]
              rfl
      | start | next =>
          rcases (bind_eq_ok _ _ _).mp h with ⟨⟨a, w⟩, ha, h⟩
          rcases (bind_eq_ok _ _ _).mp h with ⟨⟨bs, x⟩, hbs, h⟩
          rcases Prod.mk.inj (Except.ok.inj h) with ⟨rfl, rfl⟩
          -- The list goes on, so what stands behind the element begins with punctuation.
          have hends := ends_of_elements read fuel w bs _ hbs
          rcases ih false w bs hbs with ⟨used, x, rfl, rfl, hused⟩
          rcases hread _ a _ ha with ⟨value, hvalue, htakes⟩
          -- The character that was looked at belongs to the element, which is not empty.
          cases value with
          | nil => exact absurd (htakes [] nofun) (hempty _)
          | cons d value =>
              rw [List.cons_append] at hvalue
              rcases List.cons.inj hvalue with ⟨rfl, rfl⟩
              refine ⟨front ++ c :: (value ++ used), x,
                by simp only [List.append_assoc, List.cons_append], rfl, fun more hmore u => ?_⟩
              cases more with
              | zero => exact absurd hmore (Nat.not_lt_zero _)
              | succ more =>
                  simp only [List.length_append, List.length_cons] at hmore
                  have hlist := hused more (by omega) u
                  have hvalue := htakes (used ++ ']' :: u) (ends_append used ']' x u hends)
                  rw [List.cons_append] at hvalue
                  simp only [elements, List.append_assoc, List.cons_append, hfront, hvalue, hlist,
                    bind, Except.bind]

/-! ### Objects -/

/-- How an object goes on: to its closing brace, or behind the quote that opens
    its first key or, behind a comma, its next one. -/
inductive HasKey (first : Bool) (s : List Char) : Bool → List Char → Prop where
  | close (t : List Char) (hs : skipSpace s = '\x7d' :: t) : HasKey first s false ('\x7d' :: t)
  | start (t : List Char) (hs : skipSpace s = '"' :: t) (hfirst : first = true) :
      HasKey first s true t
  | next (u t : List Char) (hs : skipSpace s = ',' :: u) (hu : skipSpace u = '"' :: t)
      (hfirst : first = false) : HasKey first s true t

/-- Behind a comma there has to be the quote of a key. -/
theorem nextMember_eq_ok_iff (s : List Char) (u : Unit) (rest : List Char) :
    nextMember s = .ok (u, rest) ↔ skipSpace s = '"' :: rest := by
  rw [nextMember]
  split
  · rename_i hs
    rw [hs]
    exact iff_of_false nofun nofun
  · rename_i t hs
    rw [hs, List.cons.injEq]
    exact ⟨fun h => ⟨rfl, (Prod.mk.inj (Except.ok.inj h)).2⟩, fun h => by rw [h.2]⟩
  · rename_i t hs
    rw [hs]
    exact iff_of_false nofun nofun
  · rename_i hempty hquote hbrace
    exact iff_of_false nofun fun h => hquote rest h

/-- The punctuation of an object is read exactly where the object goes on. -/
theorem hasMember_eq_ok_iff (first : Bool) (s : List Char) (more : Bool) (rest : List Char) :
    hasMember first s = .ok (more, rest) ↔ HasKey first s more rest := by
  rw [hasMember]
  split
  · -- The text has ended.
    rename_i hs
    refine iff_of_false nofun fun h => ?_
    cases h with
    | close t h | start t h | next u t h => exact absurd (hs.symm.trans h) nofun
  · -- The object is closed.
    rename_i t hs
    refine ⟨fun h => ?_, fun h => ?_⟩
    · rcases Prod.mk.inj (Except.ok.inj h) with ⟨rfl, rfl⟩
      exact HasKey.close t hs
    · cases h with
      | close u h =>
          rcases List.cons.inj (hs.symm.trans h) with ⟨_, rfl⟩
          rfl
      | start u h | next u v h => exact absurd (List.cons.inj (hs.symm.trans h)).1 (by decide)
  · -- Something else comes: a key at the start, or a comma in front of the next one.
    rename_i c t hbrace hs
    by_cases hfirst : first = true
    · rw [if_pos hfirst]
      by_cases hquote : c = '"'
      · rw [if_pos hquote]
        refine ⟨fun h => ?_, fun h => ?_⟩
        · rcases Prod.mk.inj (Except.ok.inj h) with ⟨rfl, rfl⟩
          exact HasKey.start t (hquote ▸ hs) hfirst
        · cases h with
          | close u h => exact absurd (List.cons.inj (hs.symm.trans h)).1 hbrace
          | start u h => rw [(List.cons.inj (hs.symm.trans h)).2]
          | next u v h hu hnext => exact absurd (hfirst.symm.trans hnext) nofun
      · rw [if_neg hquote]
        refine iff_of_false nofun fun h => ?_
        cases h with
        | close u h => exact absurd (List.cons.inj (hs.symm.trans h)).1 hbrace
        | start u h => exact absurd (List.cons.inj (hs.symm.trans h)).1 hquote
        | next u v h hu hnext => exact absurd (hfirst.symm.trans hnext) nofun
    rw [if_neg hfirst]
    by_cases hcomma : c = ','
    · rw [if_pos hcomma, bind_eq_ok]
      refine ⟨fun h => ?_, fun h => ?_⟩
      · rcases h with ⟨⟨u, v⟩, hnext, h⟩
        rcases Prod.mk.inj (Except.ok.inj h) with ⟨rfl, rfl⟩
        exact HasKey.next t _ (hcomma ▸ hs) ((nextMember_eq_ok_iff t u _).mp hnext)
          (eq_false_of_ne_true hfirst)
      · cases h with
        | close u h => exact absurd (List.cons.inj (hs.symm.trans h)).1 hbrace
        | start u h hstart => exact absurd hstart hfirst
        | next u v h hu =>
            rcases List.cons.inj (hs.symm.trans h) with ⟨_, rfl⟩
            exact ⟨_, (nextMember_eq_ok_iff t () _).mpr hu, rfl⟩
    · rw [if_neg hcomma]
      refine iff_of_false nofun fun h => ?_
      cases h with
      | close u h => exact absurd (List.cons.inj (hs.symm.trans h)).1 hbrace
      | start u h hstart => exact absurd hstart hfirst
      | next u v h => exact absurd (List.cons.inj (hs.symm.trans h)).1 hcomma

/-- What stands behind the punctuation of an object: anything behind the quote
    of a key, and else its closing brace. -/
def Resumes (more : Bool) (s : List Char) : Prop := more = true ∨ ∃ t, s = '\x7d' :: t

theorem hasMember_takes (first : Bool) (s : List Char) (more : Bool) (rest : List Char)
    (h : HasKey first s more rest) : Cuts (Resumes more) (hasMember first) s more rest := by
  cases h with
  | close t hs =>
      rcases exists_blanks_cons s _ _ hs with ⟨blanks, rfl, hblanks⟩
      refine ⟨blanks, rfl, fun rest hrest => ?_⟩
      rcases hrest with hmore | ⟨u, rfl⟩
      · exact absurd hmore Bool.false_ne_true
      · exact (hasMember_eq_ok_iff _ _ _ _).mpr (HasKey.close u (hblanks u))
  | start t hs hfirst =>
      rcases exists_blanks_cons s _ _ hs with ⟨blanks, rfl, hblanks⟩
      refine ⟨blanks ++ ['"'], by rw [List.append_assoc]; rfl, fun rest _ => ?_⟩
      rw [List.append_assoc]
      exact (hasMember_eq_ok_iff _ _ _ _).mpr (HasKey.start rest (hblanks rest) hfirst)
  | next u t hs hu hfirst =>
      rcases exists_blanks_cons s _ _ hs with ⟨blanks, rfl, hblanks⟩
      rcases exists_blanks_cons u _ _ hu with ⟨more, rfl, hmore⟩
      refine ⟨blanks ++ ',' :: (more ++ ['"']), ?_, fun rest _ => ?_⟩
      · simp only [List.append_assoc, List.cons_append, List.nil_append]
      · simp only [List.append_assoc, List.cons_append, List.nil_append]
        exact (hasMember_eq_ok_iff _ _ _ _).mpr
          (HasKey.next _ rest (hblanks _) (hmore rest) hfirst)

/-- Between a key and its value there has to be a colon. -/
theorem memberColon_eq_ok_iff (s : List Char) (u : Unit) (rest : List Char) :
    memberColon s = .ok (u, rest) ↔ skipSpace s = ':' :: rest := by
  rw [memberColon]
  split
  · rename_i hs
    rw [hs]
    exact iff_of_false nofun nofun
  · rename_i t hs
    rw [hs, List.cons.injEq]
    exact ⟨fun h => ⟨rfl, (Prod.mk.inj (Except.ok.inj h)).2⟩, fun h => by rw [h.2]⟩
  · rename_i hempty hcolon
    exact iff_of_false nofun fun h => hcolon rest h

/-- The colon is taken along with the blanks in front of it. -/
theorem memberColon_local : Local Any memberColon := by
  intro s u rest h
  rcases exists_blanks_cons s _ _ ((memberColon_eq_ok_iff s u rest).mp h) with
    ⟨blanks, rfl, hblanks⟩
  refine ⟨blanks ++ [':'], by rw [List.append_assoc]; rfl, fun rest _ => ?_⟩
  rw [List.append_assoc]
  exact (memberColon_eq_ok_iff _ u _).mpr (hblanks rest)

/-- Behind a member stands a comma or the closing brace, so a number may end there.
    -/
theorem ends_of_hasKey (s : List Char) (more : Bool) (rest : List Char)
    (h : HasKey false s more rest) : Ends s := by
  cases h with
  | close t hs => exact ends_of_skipSpace s _ _ hs rfl
  | start t hs hfirst => exact absurd hfirst Bool.false_ne_true
  | next u t hs => exact ends_of_skipSpace s _ _ hs rfl

theorem ends_of_members (read : Reader α) (fuel : Nat) (s : List Char) (as : List (String × α))
    (rest : List Char) (h : members read fuel false s = .ok (as, rest)) : Ends s := by
  cases fuel with
  | zero => cases h
  | succ fuel =>
      rcases (bind_eq_ok _ _ _).mp h with ⟨⟨more, t⟩, hmore, _⟩
      exact ends_of_hasKey s more t ((hasMember_eq_ok_iff _ _ _ _).mp hmore)

/-- Every step of reading an object takes a character or is the last one, so
    fuel for one step more than there are characters taken is enough. -/
theorem members_takes (read : Reader α) (hread : Local Ends read) (fuel : Nat) (first : Bool)
    (s : List Char) (as : List (String × α)) (rest : List Char)
    (h : members read fuel first s = .ok (as, rest)) :
    ∃ used t, s = used ++ '\x7d' :: t ∧ rest = '\x7d' :: t ∧
      ∀ more, used.length < more → ∀ u,
        members read more first (used ++ '\x7d' :: u) = .ok (as, '\x7d' :: u) := by
  induction fuel generalizing first s as with
  | zero => cases h
  | succ fuel ih =>
      rcases (bind_eq_ok _ _ _).mp h with ⟨⟨goes, v⟩, hgoes, h⟩
      rw [hasMember_eq_ok_iff] at hgoes
      rcases hasMember_takes first s goes v hgoes with ⟨front, rfl, hfront⟩
      cases hgoes with
      | close t hs =>
          rcases Prod.mk.inj (Except.ok.inj h) with ⟨rfl, rfl⟩
          refine ⟨front, t, rfl, rfl, fun more hmore u => ?_⟩
          cases more with
          | zero => exact absurd hmore (Nat.not_lt_zero _)
          | succ more =>
              rw [members, hfront _ (Or.inr ⟨u, rfl⟩)]
              rfl
      | start | next =>
          rcases (bind_eq_ok _ _ _).mp h with ⟨⟨key, w⟩, hkey, h⟩
          rcases (bind_eq_ok _ _ _).mp h with ⟨⟨_, x⟩, hcolon, h⟩
          rcases (bind_eq_ok _ _ _).mp h with ⟨⟨a, y⟩, ha, h⟩
          rcases (bind_eq_ok _ _ _).mp h with ⟨⟨bs, z⟩, hbs, h⟩
          rcases Prod.mk.inj (Except.ok.inj h) with ⟨rfl, rfl⟩
          -- What stands behind the value begins with punctuation, so the value may be a number.
          have hends := ends_of_members read fuel y bs _ hbs
          rcases ih false y bs hbs with ⟨used, z, rfl, rfl, hused⟩
          rcases hread _ a _ ha with ⟨value, rfl, hvalue⟩
          rcases memberColon_local _ _ _ hcolon with ⟨colon, rfl, hseparate⟩
          rcases string_local _ key _ hkey with ⟨name, rfl, hname⟩
          refine ⟨front ++ (name ++ (colon ++ (value ++ used))), z,
            by simp only [List.append_assoc], rfl, fun more hmore u => ?_⟩
          -- Every member takes a step, and a quote or a comma to pay for it.
          have hfrontne : 0 < front.length := by
            refine List.length_pos_iff.mpr fun hnil => ?_
            rw [hnil] at hfront
            exact absurd (hfront [] (Or.inl rfl)) nofun
          cases more with
          | zero => exact absurd hmore (Nat.not_lt_zero _)
          | succ more =>
              simp only [List.length_append] at hmore
              have hobject := hused more (by omega) u
              have hvalue := hvalue _ (ends_append used '\x7d' z u hends)
              simp only [members, List.append_assoc, hfront _ (Or.inl rfl), hname _ trivial,
                hseparate _ trivial, hvalue, hobject, bind, Except.bind]

/-! ### Values -/

/-- A digit is no blank, since it may not stand behind a value. -/
theorem isSpace_of_isDigit (c : Char) (h : c.isDigit = true) : isSpace c = false := by
  refine eq_false_of_ne_true fun hspace => ?_
  have hfollows : follows c = true := by
    rw [follows, hspace]
    rfl
  exact Bool.false_ne_true ((isDigit_eq_false_of_follows c hfollows).symm.trans h)

theorem scalar_skipSpace (s : List Char) : scalar (skipSpace s) = scalar s := by
  rw [scalar, scalar, skipSpace_skipSpace]

/-- What opens with a digit is a number. -/
theorem scalar_digit (c : Char) (s : List Char) (hc : c.isDigit = true) :
    scalar (c :: s) = number false (c :: s) >>= fun x => .ok (.number x.1, x.2) := by
  rw [scalar, skipSpace_cons c s (isSpace_of_isDigit c hc)]
  split
  · rename_i heq
    exact absurd heq nofun
  iterate 5
    · rename_i heq
      rcases List.cons.inj heq with ⟨rfl, rfl⟩
      exact absurd hc nofun
  · rename_i heq
    rcases List.cons.inj heq with ⟨rfl, rfl⟩
    rw [if_pos hc]

/-- Reading a scalar is local where it ends. For words and strings it would be
    anywhere, but not for numbers. -/
theorem scalar_local : Local Ends scalar := by
  intro s t rest h
  refine cuts_of_skipSpace scalar scalar_skipSpace s t rest ?_
  rw [← scalar_skipSpace] at h
  generalize hs : skipSpace s = v at h ⊢
  have hread := h
  rw [scalar, ← hs, skipSpace_skipSpace, hs] at h
  -- The first character tells the kind, and each kind has a lemma of its own.
  split at h
  · cases h
  · exact local_extend scalar _ ['n'] _ t rest (local_map (fun _ => Tree.null) _ (word_local _))
      (fun _ => rfl) hread
  · exact local_extend scalar _ ['t'] _ t rest
      (local_map (fun _ => Tree.boolean true) _ (word_local _)) (fun _ => rfl) hread
  · exact local_extend scalar _ ['f'] _ t rest
      (local_map (fun _ => Tree.boolean false) _ (word_local _)) (fun _ => rfl) hread
  · exact local_extend scalar _ ['-'] _ t rest (local_map Tree.number _ (number_local true))
      (fun _ => rfl) hread
  · exact local_extend scalar _ ['"'] _ t rest
      (local_map Tree.text _ (local_of_any string string_local)) (fun _ => rfl) hread
  · rename_i c u _ _ _ _ _
    split_ifs at h with hc
    · exact local_of_cons scalar _ c u t rest (local_map Tree.number _ (number_local false)) nofun
        (fun t => scalar_digit c t hc) hread
    · cases h

/-- A scalar is a string behind a quote, and else it has no parts. -/
theorem scalar_ok_cases (s : List Char) (t : Tree) (rest : List Char)
    (h : scalar s = .ok (t, rest)) :
    (∃ u text, skipSpace s = '"' :: u ∧ string u = .ok (text, rest) ∧ t = .text text) ∨
      (∀ u, skipSpace s ≠ '"' :: u) ∧
        (t = .null ∨ (∃ b, t = .boolean b) ∨ ∃ n, t = .number n) := by
  rw [scalar] at h
  split at h
  · cases h
  · -- The three words and a negative number do not open with a quote.
    rename_i u hs
    rcases (bind_eq_ok _ _ _).mp h with ⟨_, _, h⟩
    rcases Prod.mk.inj (Except.ok.inj h) with ⟨rfl, _⟩
    rw [hs]
    exact Or.inr ⟨nofun, Or.inl rfl⟩
  · rename_i u hs
    rcases (bind_eq_ok _ _ _).mp h with ⟨_, _, h⟩
    rcases Prod.mk.inj (Except.ok.inj h) with ⟨rfl, _⟩
    rw [hs]
    exact Or.inr ⟨nofun, Or.inr (Or.inl ⟨true, rfl⟩)⟩
  · rename_i u hs
    rcases (bind_eq_ok _ _ _).mp h with ⟨_, _, h⟩
    rcases Prod.mk.inj (Except.ok.inj h) with ⟨rfl, _⟩
    rw [hs]
    exact Or.inr ⟨nofun, Or.inr (Or.inl ⟨false, rfl⟩)⟩
  · rename_i u hs
    rcases (bind_eq_ok _ _ _).mp h with ⟨⟨n, _⟩, _, h⟩
    rcases Prod.mk.inj (Except.ok.inj h) with ⟨rfl, _⟩
    rw [hs]
    exact Or.inr ⟨nofun, Or.inr (Or.inr ⟨n, rfl⟩)⟩
  · rename_i u hs
    rcases (bind_eq_ok _ _ _).mp h with ⟨⟨text, v⟩, htext, h⟩
    rcases Prod.mk.inj (Except.ok.inj h) with ⟨rfl, rfl⟩
    exact Or.inl ⟨u, text, hs, htext, rfl⟩
  · -- What is left is a number that opens with a digit.
    rename_i c u _ _ _ _ hquote hs
    split_ifs at h
    · rcases (bind_eq_ok _ _ _).mp h with ⟨⟨n, _⟩, _, h⟩
      rcases Prod.mk.inj (Except.ok.inj h) with ⟨rfl, _⟩
      refine Or.inr ⟨fun v hv => ?_, Or.inr (Or.inr ⟨n, rfl⟩)⟩
      exact hquote (List.cons.inj (hs.symm.trans hv)).1
    · cases h

theorem tree_skipSpace (room : Nat) (s : List Char) : tree room (skipSpace s) = tree room s := by
  cases room <;> simp only [tree, skipSpace_skipSpace]

theorem tree_nil (room : Nat) (x : Tree × List Char) : tree room [] ≠ .ok x := by
  cases room <;> exact nofun

/-- A value that is neither a list nor an object is a scalar at any level. -/
theorem tree_eq_scalar (room : Nat) (c : Char) (s : List Char) (hspace : isSpace c = false)
    (hlist : c ≠ '[') (hobject : c ≠ '\x7b') : tree room (c :: s) = scalar (c :: s) := by
  cases room
  all_goals
    simp only [tree, skipSpace_cons c s hspace]
    split
    · rename_i heq
      exact absurd (List.cons.inj heq).1 hlist
    · rename_i heq
      exact absurd (List.cons.inj heq).1 hobject
    · rfl

/-- What is read is a list or an object, if there is a level left for it, or
    else a scalar. -/
theorem tree_ok_cases (room : Nat) (s : List Char) (t : Tree) (rest : List Char)
    (h : tree room s = .ok (t, rest)) :
    (∃ below u, room = below + 1 ∧ skipSpace s = '[' :: u ∧
        tree (below + 1) ('[' :: u) = .ok (t, rest)) ∨
      (∃ below u, room = below + 1 ∧ skipSpace s = '\x7b' :: u ∧
        tree (below + 1) ('\x7b' :: u) = .ok (t, rest)) ∨
      ∃ c u, skipSpace s = c :: u ∧ c ≠ '[' ∧ c ≠ '\x7b' ∧
        scalar (c :: u) = .ok (t, rest) := by
  rw [← tree_skipSpace] at h
  cases hs : skipSpace s with
  | nil =>
      rw [hs] at h
      exact absurd h (tree_nil room _)
  | cons c u =>
      rw [hs] at h
      -- Lists and objects cost room, so where one was read there was some.
      by_cases hlist : c = '['
      · rw [hlist] at h ⊢
        cases room with
        | zero => cases h
        | succ below => exact Or.inl ⟨below, u, rfl, rfl, h⟩
      by_cases hobject : c = '\x7b'
      · rw [hobject] at h ⊢
        cases room with
        | zero => cases h
        | succ below => exact Or.inr (Or.inl ⟨below, u, rfl, rfl, h⟩)
      · rw [tree_eq_scalar room c u (isSpace_of_skipSpace s c u hs) hlist hobject] at h
        exact Or.inr (Or.inr ⟨c, u, rfl, hlist, hobject, h⟩)

theorem tree_list (room : Nat) (s : List Char) :
    tree (room + 1) ('[' :: s) = elements (tree room) (s.length + 1) true s >>= fun x =>
      closeList x.2 >>= fun y => .ok (.array x.1, y.2) :=
  rfl

theorem tree_object (room : Nat) (s : List Char) :
    tree (room + 1) ('\x7b' :: s) = members (tree room) (s.length + 1) true s >>= fun x =>
      closeObject x.2 >>= fun y => .ok (.object x.1, y.2) :=
  rfl

/-- A list takes what it took. Its fuel is one more than the length of the text, so
    it grows and shrinks with what stands behind and is always enough. -/
theorem tree_list_takes (room : Nat) (hroom : Local Ends (tree room)) (s : List Char) (t : Tree)
    (rest : List Char) (h : tree (room + 1) ('[' :: s) = .ok (t, rest)) :
    Cuts Ends (tree (room + 1)) ('[' :: s) t rest := by
  rcases (bind_eq_ok _ _ _).mp h with ⟨⟨items, u⟩, hitems, h⟩
  rcases (bind_eq_ok _ _ _).mp h with ⟨⟨_, v⟩, hclose, h⟩
  rcases Prod.mk.inj (Except.ok.inj h) with ⟨rfl, rfl⟩
  rcases elements_takes _ hroom (tree_nil room) _ _ _ _ _ hitems with ⟨used, v, rfl, rfl, hused⟩
  rcases Prod.mk.inj (Except.ok.inj hclose) with ⟨_, rfl⟩
  refine ⟨'[' :: (used ++ [']']),
    by simp only [List.cons_append, List.append_assoc, List.nil_append], fun rest _ => ?_⟩
  -- The new text is longer than what was taken from the old one.
  have hfuel : used.length < (used ++ ']' :: rest).length + 1 := by
    rw [List.length_append]
    omega
  have hlist := hused _ hfuel rest
  rw [List.cons_append, List.append_assoc, tree_list, List.cons_append, List.nil_append, hlist]
  rfl

theorem tree_object_takes (room : Nat) (hroom : Local Ends (tree room)) (s : List Char) (t : Tree)
    (rest : List Char) (h : tree (room + 1) ('\x7b' :: s) = .ok (t, rest)) :
    Cuts Ends (tree (room + 1)) ('\x7b' :: s) t rest := by
  rcases (bind_eq_ok _ _ _).mp h with ⟨⟨fields, u⟩, hfields, h⟩
  rcases (bind_eq_ok _ _ _).mp h with ⟨⟨_, v⟩, hclose, h⟩
  rcases Prod.mk.inj (Except.ok.inj h) with ⟨rfl, rfl⟩
  rcases members_takes _ hroom _ _ _ _ _ hfields with ⟨used, v, rfl, rfl, hused⟩
  rcases Prod.mk.inj (Except.ok.inj hclose) with ⟨_, rfl⟩
  refine ⟨'\x7b' :: (used ++ ['\x7d']),
    by simp only [List.cons_append, List.append_assoc, List.nil_append], fun rest _ => ?_⟩
  have hfuel : used.length < (used ++ '\x7d' :: rest).length + 1 := by
    rw [List.length_append]
    omega
  have hobject := hused _ hfuel rest
  rw [List.cons_append, List.append_assoc, tree_object, List.cons_append, List.nil_append, hobject]
  rfl

/-- One level of values, with the level below for what is inside of lists and
    objects. -/
theorem tree_local_of (room : Nat)
    (hbelow : ∀ below, room = below + 1 → Local Ends (tree below)) : Local Ends (tree room) := by
  intro s t rest h
  refine cuts_of_skipSpace _ (tree_skipSpace room) s t rest ?_
  rcases tree_ok_cases room s t rest h with ⟨below, u, rfl, hs, hlist⟩ |
    ⟨below, u, rfl, hs, hobject⟩ | ⟨c, u, hs, hopen, hbrace, hscalar⟩
  · rw [hs]
    exact tree_list_takes below (hbelow below rfl) u t rest hlist
  · rw [hs]
    exact tree_object_takes below (hbelow below rfl) u t rest hobject
  · -- A scalar does not depend on the level.
    have heq := fun v => tree_eq_scalar room c v (isSpace_of_skipSpace s c u hs) hopen hbrace
    rw [hs]
    exact local_of_cons _ _ c u t rest scalar_local nofun heq ((heq u).trans hscalar)

/-- Reading a value of any shape is local where it ends, by induction on the levels.
    -/
theorem tree_local (room : Nat) : Local Ends (tree room) := by
  induction room with
  | zero => exact tree_local_of 0 nofun
  | succ room ih =>
      refine tree_local_of (room + 1) fun below hbelow => ?_
      rcases Nat.succ.inj hbelow with rfl
      exact ih

/-- What is read in front of a closing brace is read without it. -/
theorem tree_of_closed (room : Nat) (s : List Char) (t : Tree) (rest : List Char)
    (h : tree room (s ++ ['\x7d']) = .ok (t, rest)) (hends : Ends rest) (hrest : rest ≠ []) :
    ∃ left, rest = left ++ ['\x7d'] ∧ tree room s = .ok (t, left) := by
  rcases tree_local room _ t rest h with ⟨used, hused, htakes⟩
  -- The brace is the last character of the rest, since something is left.
  rcases List.eq_nil_or_concat rest with hnil | ⟨left, c, rfl⟩
  · exact absurd hnil hrest
  rw [List.concat_eq_append, ← List.append_assoc] at hused
  rcases List.append_inj' hused rfl with ⟨rfl, hclose⟩
  rcases List.cons.inj hclose with ⟨rfl, _⟩
  rw [List.concat_eq_append] at hends
  exact ⟨left, List.concat_eq_append, htakes left (ends_of_append left _ hends)⟩

end Json

end StreamRoster
