import StreamRoster.Json.Skip
import StreamRoster.Proofs.Json.Nesting

/-!
# Passing Over What Can Be Read

A value nobody asked for is passed over by readers of their own, which ask less
of it. So there is a second notion of what a JSON text is, and it has to fit the
first one: whatever is read as a value of any shape is passed over too, and both
stop at the same place. The converse fails, for numbers out of range, for halves
of surrogate pairs and for deep nesting.

The two kinds of reader walk through a list differently. One looks ahead for an
element before it reads it, the other looks back at what stands behind an
element. `Behind` is what the second one sees at the place where the first one
looks ahead.

More levels never do harm either: what is read with few levels left is read
alike with more.

## Main definitions

* `Behind`: What stands behind an element or a member.
* `Encloses`: How a list or an object is passed over behind its bracket.
* `WellFormed`: A text that is one JSON value.

## Theorems

* `skipNumber_of_number`, `skipString_of_string`: Tokens that are read are
  passed over.
* `skip_of_tree`: A value that is read is passed over.
* `tree_succ`: A value that is read is read with one more level.
* `readAll_tree_of_wellFormed`: A well-formed text is read to its end.
-/

namespace StreamRoster

namespace Json

variable {α : Type} {after : List Char → Prop}

/-! ### Numbers -/

theorem skipExponentDigits_of_exponentDigits (negative : Bool) (digits : Nat) (start : Int)
    (down : Bool) (s : List Char) (n : Number) (rest : List Char)
    (h : exponentDigits negative digits start down s = .ok (n, rest)) :
    skipExponentDigits s = .ok ((), rest) := by
  cases s with
  | nil => cases h
  | cons c s =>
      by_cases hc : (!c.isDigit) = true
      · rw [exponentDigits, if_pos hc] at h
        cases h
      rw [exponentDigits, if_neg hc] at h
      have hdigit : startsWithDigit (c :: s) = true := by
        rw [Bool.not_eq_true', Bool.not_eq_false] at hc
        exact hc
      rw [skipExponentDigits, if_pos hdigit]
      -- Whether the exponent is in range or not, all its digits are taken.
      rcases hspan : spanDigits (c :: s) with ⟨ds, t⟩
      rcases hexponent : takeExponent 0 ds with ⟨e, left⟩
      cases left with
      | nil =>
          simp only [hspan, hexponent] at h
          rw [(float_eq_ok _ _ _ _ _ _ h).1]
      | cons d left =>
          simp only [hspan, hexponent] at h
          split_ifs at h with hrange
          · cases h
          · rw [(Prod.mk.inj (Except.ok.inj h)).2]

theorem skipExponent_of_exponent (negative : Bool) (digits : Nat) (start : Int) (s : List Char)
    (n : Number) (rest : List Char) (h : exponent negative digits start s = .ok (n, rest)) :
    skipExponent s = .ok ((), rest) := by
  rw [exponent.eq_def] at h
  split at h
  · exact skipExponentDigits_of_exponentDigits _ _ _ _ _ _ _ h
  · exact skipExponentDigits_of_exponentDigits _ _ _ _ _ _ _ h
  · rename_i hplus hminus
    rw [skipExponent.eq_def]
    split
    · exact absurd rfl (hplus _)
    · exact absurd rfl (hminus _)
    · exact skipExponentDigits_of_exponentDigits _ _ _ _ _ _ _ h

/-- A text that does not go on with an exponent has none to pass over. -/
theorem skipExponentPart_eq_ok (s : List Char) (hsmall : ∀ t, s = 'e' :: t → False)
    (hbig : ∀ t, s = 'E' :: t → False) : skipExponentPart s = .ok ((), s) := by
  rw [skipExponentPart.eq_def]
  split
  · exact absurd rfl (hsmall _)
  · exact absurd rfl (hbig _)
  · rfl

theorem skipExponentPart_of_afterFraction (negative : Bool) (digits : Nat) (start : Int)
    (s : List Char) (n : Number) (rest : List Char)
    (h : afterFraction negative digits start s = .ok (n, rest)) :
    skipExponentPart s = .ok ((), rest) := by
  rw [afterFraction.eq_def] at h
  split at h
  · exact skipExponent_of_exponent _ _ _ _ _ _ h
  · exact skipExponent_of_exponent _ _ _ _ _ _ h
  · rename_i hsmall hbig
    rw [(float_eq_ok _ _ _ _ _ _ h).1]
    exact skipExponentPart_eq_ok _ hsmall hbig

theorem startsWithDigit_of_spanDigits (s : List Char) (c : Char) (ds t : List Char)
    (h : spanDigits s = (c :: ds, t)) : startsWithDigit s = true := by
  cases s with
  | nil => cases h
  | cons d s =>
      by_cases hd : d.isDigit = true
      · exact hd
      · rw [spanDigits, List.takeWhile_cons_of_neg hd] at h
        exact absurd (Prod.mk.inj h).1.symm (List.cons_ne_nil c ds)

theorem skipExponentPart_of_fraction (negative : Bool) (digits : Nat) (start : Int)
    (s : List Char) (n : Number) (rest : List Char)
    (h : fraction negative digits start s = .ok (n, rest)) :
    startsWithDigit s = true ∧ skipExponentPart (spanDigits s).2 = .ok ((), rest) := by
  rcases hspan : spanDigits s with ⟨ds, t⟩
  cases ds with
  | nil =>
      rw [fraction, hspan] at h
      cases t with
      | nil => cases h
      | cons c t => cases h
  | cons c ds =>
      refine ⟨startsWithDigit_of_spanDigits s c ds t hspan, ?_⟩
      simp only [fraction, hspan] at h
      exact skipExponentPart_of_afterFraction _ _ _ _ _ _ h

/-- A number that is read is passed over. -/
theorem skipNumber_of_number (negative : Bool) (s : List Char) (n : Number) (rest : List Char)
    (h : number negative s = .ok (n, rest)) : skipNumber s = .ok ((), rest) := by
  cases s with
  | nil => cases h
  | cons c s =>
      by_cases hc : (!c.isDigit) = true
      · rw [number, if_pos hc] at h
        cases h
      by_cases hzero : (c = '0' && startsWithDigit s) = true
      · rw [number, if_neg hc, if_pos hzero] at h
        cases h
      rw [number, if_neg hc, if_neg hzero] at h
      rw [skipNumber, if_neg hc, if_neg hzero]
      simp only at h
      rw [afterWhole.eq_def] at h
      split at h
      · rename_i t ht
        rcases skipExponentPart_of_fraction _ _ _ _ _ _ h with ⟨hdigit, hpart⟩
        simp only [ht, if_pos hdigit]
        exact hpart
      · rename_i t ht
        simp only [ht]
        exact skipExponent_of_exponent _ _ _ _ _ _ h
      · rename_i t ht
        simp only [ht]
        exact skipExponent_of_exponent _ _ _ _ _ _ h
      · rename_i hpoint hsmall hbig
        -- No fraction and no exponent: both readers stop where the digits end.
        have hrest : rest = (spanDigits (c :: s)).2 := by
          split_ifs at h with hleft
          · exact (Prod.mk.inj (Except.ok.inj h)).2.symm
          · exact (float_eq_ok _ _ _ _ _ _ h).1
        split
        · exact absurd ‹_› (hpoint _)
        · rw [hrest]
          exact skipExponentPart_eq_ok _ hsmall hbig

/-! ### Strings -/

theorem length_le_of_local (read : Reader α) (hread : Local after read) (s : List Char) (a : α)
    (rest : List Char) (h : read s = .ok (a, rest)) : rest.length ≤ s.length := by
  rcases hread s a rest h with ⟨used, rfl, _⟩
  rw [List.length_append]
  exact Nat.le_add_left _ _

theorem length_lt_of_local (read : Reader α) (hread : Local Ends read)
    (hempty : ∀ x, read [] ≠ .ok x) (s : List Char) (a : α) (rest : List Char)
    (h : read s = .ok (a, rest)) : rest.length < s.length := by
  rcases hread s a rest h with ⟨used, rfl, htakes⟩
  cases used with
  | nil => exact absurd (htakes [] nofun) (hempty _)
  | cons c used =>
      rw [List.length_append, List.length_cons]
      omega

/-- A numeric escape that is read is passed over. The halves of a surrogate pair
    are passed over one by one. -/
theorem skipStringChars_of_unicodeEscape (s : List Char) (c : Char) (t rest : List Char)
    (h : unicodeEscape s = .ok (c, t))
    (ht : ∀ more, t.length < more → skipStringChars more t = .ok ((), rest)) (more : Nat)
    (hmore : s.length < more) : skipStringChars (more + 1) ('\\' :: 'u' :: s) = .ok ((), rest) := by
  rcases (bind_eq_ok _ _ _).mp h with ⟨⟨n, u⟩, hn, h⟩
  have hu := length_le_of_local hexEscape hexEscape_local s n u hn
  rw [skipStringChars, hn]
  simp only at h
  split_ifs at h with hlow hhigh
  · cases h
  · split at h
    · cases h
    · cases h
    · rename_i v
      rcases (bind_eq_ok _ _ _).mp h with ⟨⟨low, w⟩, hsecond, h⟩
      have hw := length_le_of_local hexEscape hexEscape_local v low w hsecond
      simp only at h
      split_ifs at h with hpaired
      · rcases Prod.mk.inj (Except.ok.inj h) with ⟨_, rfl⟩
        -- The second half of a pair takes a step of its own.
        cases more with
        | zero => exact absurd hmore (Nat.not_lt_zero _)
        | succ more =>
            rw [List.length_cons, List.length_cons] at hu
            show skipStringChars (more + 1) ('\\' :: 'u' :: v) = .ok ((), rest)
            rw [skipStringChars, hsecond]
            exact ht more (by omega)
      · cases h
    · cases h
    · cases h
  · rcases Prod.mk.inj (Except.ok.inj h) with ⟨_, rfl⟩
    exact ht more (Nat.lt_of_le_of_lt hu hmore)

theorem skipStringChars_of_escape (s : List Char) (c : Char) (t rest : List Char)
    (h : escape s = .ok (c, t))
    (ht : ∀ more, t.length < more → skipStringChars more t = .ok ((), rest)) (more : Nat)
    (hmore : s.length < more) : skipStringChars (more + 1) ('\\' :: s) = .ok ((), rest) := by
  rw [escape.eq_def] at h
  split at h
  · cases h
  · rename_i u
    exact skipStringChars_of_unicodeEscape u c t rest h ht more (Nat.lt_of_succ_lt hmore)
  · rename_i d u hd
    cases hletter : letterEscape? d with
    | none =>
        simp only [hletter] at h
        cases h
    | some e =>
        simp only [hletter] at h
        rcases Prod.mk.inj (Except.ok.inj h) with ⟨_, rfl⟩
        have hsome : (letterEscape? d).isSome = true := by
          rw [hletter]
          rfl
        simp only [skipStringChars, if_pos hsome]
        exact ht more (Nat.lt_of_succ_lt hmore)

theorem skipStringChars_plain (fuel : Nat) (c : Char) (s : List Char) (hquote : c ≠ '"')
    (hslash : c ≠ '\\') (hcontrol : ¬c.toNat < 0x20) :
    skipStringChars (fuel + 1) (c :: s) = skipStringChars fuel s := by
  rw [skipStringChars.eq_def]
  simp only
  split
  · rename_i heq
    exact absurd heq nofun
  · rename_i heq
    exact absurd (List.cons.inj heq).1 hquote
  · rename_i heq
    exact absurd (List.cons.inj heq).1 hslash
  · rename_i heq
    exact absurd (List.cons.inj heq).1 hslash
  · rename_i heq
    exact absurd (List.cons.inj heq).1 hslash
  · rename_i heq
    rcases List.cons.inj heq with ⟨rfl, rfl⟩
    rw [if_neg hcontrol]

theorem skipStringChars_of_stringChars (fuel : Nat) (s cs rest : List Char)
    (h : stringChars fuel s = .ok (cs, rest)) (more : Nat) (hmore : s.length < more) :
    skipStringChars more s = .ok ((), rest) := by
  induction fuel generalizing s cs more with
  | zero => cases h
  | succ fuel ih =>
      cases more with
      | zero => exact absurd hmore (Nat.not_lt_zero _)
      | succ more =>
          rw [stringChars.eq_def] at h
          simp only at h
          split at h
          · cases h
          · rcases Prod.mk.inj (Except.ok.inj h) with ⟨rfl, rfl⟩
            rfl
          · rename_i s
            rcases (bind_eq_ok _ _ _).mp h with ⟨⟨c, t⟩, hc, h⟩
            rcases (bind_eq_ok _ _ _).mp h with ⟨⟨ds, u⟩, hds, h⟩
            rcases Prod.mk.inj (Except.ok.inj h) with ⟨rfl, rfl⟩
            rw [List.length_cons] at hmore
            exact skipStringChars_of_escape s c t u hc (ih t ds hds) more (by omega)
          · rename_i c s hquote hslash
            by_cases hcontrol : c.toNat < 0x20
            · rw [if_pos hcontrol] at h
              cases h
            rw [if_neg hcontrol] at h
            rcases (bind_eq_ok _ _ _).mp h with ⟨⟨ds, u⟩, hds, h⟩
            rcases Prod.mk.inj (Except.ok.inj h) with ⟨rfl, rfl⟩
            -- What is read as itself is passed as itself, since controls are refused.
            rw [skipStringChars_plain more c s hquote hslash hcontrol]
            exact ih s ds hds more (Nat.lt_of_succ_lt_succ hmore)

/-- A string that is read is passed over. -/
theorem skipString_of_string (s : List Char) (text : String) (rest : List Char)
    (h : string s = .ok (text, rest)) : skipString s = .ok ((), rest) := by
  rcases (bind_eq_ok _ _ _).mp h with ⟨⟨cs, t⟩, hcs, h⟩
  rcases Prod.mk.inj (Except.ok.inj h) with ⟨_, rfl⟩
  exact skipStringChars_of_stringChars _ s cs t hcs _ (Nat.lt_succ_self _)

/-! ### Lists and objects -/

theorem length_skipSpace_le (s : List Char) : (skipSpace s).length ≤ s.length :=
  (List.dropWhile_suffix _).length_le

/-- What stands behind an element or a member: the closing bracket, or a comma
    and something that is passed over with enough fuel. -/
def Behind (close : Char) (pass : Nat → Reader Unit) (s rest : List Char) : Prop :=
  skipSpace s = close :: rest ∨
    ∃ u, skipSpace s = ',' :: u ∧ ∀ fuel, u.length < fuel → pass fuel u = .ok ((), rest)

theorem skipElements_of_behind (pass : Reader Unit) (s t rest : List Char)
    (hpass : pass s = .ok ((), t)) (hlength : t.length < s.length)
    (hbehind : Behind ']' (skipElements pass) t rest) (fuel : Nat) (hfuel : s.length < fuel) :
    skipElements pass fuel s = .ok ((), rest) := by
  cases fuel with
  | zero => exact absurd hfuel (Nat.not_lt_zero _)
  | succ fuel =>
      rcases hbehind with hclose | ⟨u, hcomma, hrest⟩
      · simp only [skipElements, hpass, hclose, bind, Except.bind]
      · have hu := length_skipSpace_le t
        rw [hcomma, List.length_cons] at hu
        simp only [skipElements, hpass, hcomma, bind, Except.bind]
        exact hrest fuel (by omega)

theorem behind_of_elements (read : Reader α) (pass : Reader Unit) (hread : Local Ends read)
    (hempty : ∀ x, read [] ≠ .ok x) (hskip : ∀ s, pass (skipSpace s) = pass s) (fuel : Nat)
    (s : List Char) (as : List α) (rest : List Char)
    (h : elements read fuel false s = .ok (as, ']' :: rest))
    (hpass : ∀ u a v, u.length ≤ s.length → read u = .ok (a, v) → pass u = .ok ((), v)) :
    Behind ']' (skipElements pass) s rest := by
  induction fuel generalizing s as with
  | zero => cases h
  | succ fuel ih =>
      rcases (bind_eq_ok _ _ _).mp h with ⟨⟨goes, v⟩, hgoes, h⟩
      rw [hasElement_eq_ok_iff] at hgoes
      cases hgoes with
      | close t hs =>
          rcases List.cons.inj (Prod.mk.inj (Except.ok.inj h)).2 with ⟨_, rfl⟩
          exact Or.inl hs
      | start c t hs hc hfirst => exact absurd hfirst Bool.false_ne_true
      | next u c t hs hu =>
          rcases (bind_eq_ok _ _ _).mp h with ⟨⟨a, w⟩, ha, h⟩
          rcases (bind_eq_ok _ _ _).mp h with ⟨⟨bs, x⟩, hbs, h⟩
          rcases Prod.mk.inj (Except.ok.inj h) with ⟨_, rfl⟩
          -- Every element takes at least a character, so what is behind it is shorter and
          -- `hpass` still covers it.
          have hsu := length_skipSpace_le s
          have hut := length_skipSpace_le u
          have hw := length_lt_of_local read hread hempty _ a w ha
          rw [hs, List.length_cons] at hsu
          rw [hu] at hut
          refine Or.inr ⟨u, hs, skipElements_of_behind pass u w rest ?_ (by omega) ?_⟩
          · rw [← hskip, hu]
            exact hpass _ a w (by omega) ha
          · exact ih w bs hbs fun y a v hy => hpass y a v (by omega)

theorem skipMembers_of_behind (pass : Reader Unit) (s key colon value t rest : List Char)
    (hkey : skipSpace s = '"' :: key) (hname : skipString key = .ok ((), colon))
    (hcolon : memberColon colon = .ok ((), value)) (hpass : pass value = .ok ((), t))
    (hlength : t.length < s.length) (hbehind : Behind '\x7d' (skipMembers pass) t rest)
    (fuel : Nat) (hfuel : s.length < fuel) : skipMembers pass fuel s = .ok ((), rest) := by
  cases fuel with
  | zero => exact absurd hfuel (Nat.not_lt_zero _)
  | succ fuel =>
      rcases hbehind with hclose | ⟨u, hcomma, hrest⟩
      · simp only [skipMembers, hkey, hname, hcolon, hpass, hclose, bind, Except.bind]
      · have hu := length_skipSpace_le t
        rw [hcomma, List.length_cons] at hu
        simp only [skipMembers, hkey, hname, hcolon, hpass, hcomma, bind, Except.bind]
        exact hrest fuel (by omega)

/-- Behind the quote of a key, an object that is read is passed over. -/
theorem skipMembers_of_read (read : Reader α) (pass : Reader Unit) (hread : Local Ends read)
    (s v w x y rest : List Char) (key : String) (u : Unit) (a : α)
    (hs : skipSpace s = '"' :: v) (hkey : string v = .ok (key, w))
    (hcolon : memberColon w = .ok (u, x)) (ha : read x = .ok (a, y))
    (hpass : ∀ u a v, u.length ≤ s.length → read u = .ok (a, v) → pass u = .ok ((), v))
    (hbehind : y.length < s.length → Behind '\x7d' (skipMembers pass) y rest) (fuel : Nat)
    (hfuel : s.length < fuel) : skipMembers pass fuel s = .ok ((), rest) := by
  have hv := length_skipSpace_le s
  have hw := length_le_of_local string string_local v key w hkey
  have hx := length_le_of_local memberColon memberColon_local w u x hcolon
  have hy := length_le_of_local read hread x a y ha
  rw [hs, List.length_cons] at hv
  exact skipMembers_of_behind pass s v w x y rest hs (skipString_of_string v key w hkey) hcolon
    (hpass x a y (by omega) ha) (by omega) (hbehind (by omega)) fuel hfuel

theorem behind_of_members (read : Reader α) (pass : Reader Unit) (hread : Local Ends read)
    (fuel : Nat) (s : List Char) (as : List (String × α)) (rest : List Char)
    (h : members read fuel false s = .ok (as, '\x7d' :: rest))
    (hpass : ∀ u a v, u.length ≤ s.length → read u = .ok (a, v) → pass u = .ok ((), v)) :
    Behind '\x7d' (skipMembers pass) s rest := by
  induction fuel generalizing s as with
  | zero => cases h
  | succ fuel ih =>
      rcases (bind_eq_ok _ _ _).mp h with ⟨⟨goes, v⟩, hgoes, h⟩
      rw [hasMember_eq_ok_iff] at hgoes
      cases hgoes with
      | close t hs =>
          rcases List.cons.inj (Prod.mk.inj (Except.ok.inj h)).2 with ⟨_, rfl⟩
          exact Or.inl hs
      | start t hs hfirst => exact absurd hfirst Bool.false_ne_true
      | next u t hs hu =>
          -- One member is passed over, and the members behind it by the induction.
          rcases (bind_eq_ok _ _ _).mp h with ⟨⟨key, w⟩, hkey, h⟩
          rcases (bind_eq_ok _ _ _).mp h with ⟨⟨_, x⟩, hcolon, h⟩
          rcases (bind_eq_ok _ _ _).mp h with ⟨⟨a, y⟩, ha, h⟩
          rcases (bind_eq_ok _ _ _).mp h with ⟨⟨bs, z⟩, hbs, h⟩
          rcases Prod.mk.inj (Except.ok.inj h) with ⟨_, rfl⟩
          have hsu := length_skipSpace_le s
          rw [hs, List.length_cons] at hsu
          refine Or.inr ⟨u, hs, skipMembers_of_read read pass hread u v w x y rest key _ a hu hkey
            hcolon ha (fun c b d hc => hpass c b d (by omega)) fun hy => ?_⟩
          exact ih y bs hbs fun c b d hc => hpass c b d (by omega)

/-! ### Values -/

theorem skipValue_skipSpace (fuel : Nat) (s : List Char) :
    skipValue fuel (skipSpace s) = skipValue fuel s := by
  cases fuel <;> simp only [skipValue, skipSpace_skipSpace]

theorem skipValue_digit (fuel : Nat) (c : Char) (s : List Char) (hc : c.isDigit = true) :
    skipValue (fuel + 1) (c :: s) = skipNumber (c :: s) := by
  rw [skipValue, skipSpace_cons c s (isSpace_of_isDigit c hc)]
  split
  · rename_i heq
    exact absurd heq nofun
  iterate 7
    · rename_i heq
      rcases List.cons.inj heq with ⟨rfl, rfl⟩
      exact absurd hc nofun
  · rename_i heq
    rcases List.cons.inj heq with ⟨rfl, rfl⟩
    rw [if_pos hc]

theorem skipValue_of_scalar (fuel : Nat) (s : List Char) (t : Tree) (rest : List Char)
    (h : scalar s = .ok (t, rest)) : skipValue (fuel + 1) s = .ok ((), rest) := by
  -- Blanks in front are passed by both, so they can be left out on both sides.
  rw [← scalar_skipSpace] at h
  rw [← skipValue_skipSpace]
  generalize hs : skipSpace s = v at h ⊢
  have hspace : skipSpace v = v := by rw [← hs, skipSpace_skipSpace]
  rw [scalar, hspace] at h
  -- The two look at the same first characters, and pass the same words and numbers.
  split at h
  · cases h
  · rcases (bind_eq_ok _ _ _).mp h with ⟨⟨_, u⟩, hword, h⟩
    rcases Prod.mk.inj (Except.ok.inj h) with ⟨_, rfl⟩
    exact hword
  · rcases (bind_eq_ok _ _ _).mp h with ⟨⟨_, u⟩, hword, h⟩
    rcases Prod.mk.inj (Except.ok.inj h) with ⟨_, rfl⟩
    exact hword
  · rcases (bind_eq_ok _ _ _).mp h with ⟨⟨_, u⟩, hword, h⟩
    rcases Prod.mk.inj (Except.ok.inj h) with ⟨_, rfl⟩
    exact hword
  · rcases (bind_eq_ok _ _ _).mp h with ⟨⟨n, u⟩, hn, h⟩
    rcases Prod.mk.inj (Except.ok.inj h) with ⟨_, rfl⟩
    exact skipNumber_of_number true _ n u hn
  · rcases (bind_eq_ok _ _ _).mp h with ⟨⟨text, u⟩, htext, h⟩
    rcases Prod.mk.inj (Except.ok.inj h) with ⟨_, rfl⟩
    exact skipString_of_string _ text u htext
  · rename_i c u _ _ _ _ _
    split_ifs at h with hc
    · rcases (bind_eq_ok _ _ _).mp h with ⟨⟨n, w⟩, hn, h⟩
      rcases Prod.mk.inj (Except.ok.inj h) with ⟨_, rfl⟩
      rw [skipValue_digit fuel c u hc]
      exact skipNumber_of_number false _ n w hn
    · cases h

/-- How a list or an object is passed over behind its bracket: it is closed at
    once, or it has elements or members. -/
structure Encloses (front close : Char) (block : Reader Unit → Nat → Reader Unit) : Prop where
  cut : ∀ fuel s rest, skipSpace s = [] → skipValue (fuel + 1) (front :: s) ≠ .ok ((), rest)
  closed : ∀ fuel s t, skipSpace s = close :: t → skipValue (fuel + 1) (front :: s) = .ok ((), t)
  inside : ∀ fuel s c t, skipSpace s = c :: t → c ≠ close →
    skipValue (fuel + 1) (front :: s) = block (skipValue fuel) ((c :: t).length + 1) (c :: t)

theorem encloses_list : Encloses '[' ']' skipElements where
  cut fuel s rest hs := by
    rw [skipValue, skipSpace_cons '[' s rfl]
    simp only [hs]
    intro h
    cases h
  closed fuel s t hs := by
    rw [skipValue, skipSpace_cons '[' s rfl]
    simp only [hs]
  inside fuel s c t hs hc := by
    rw [skipValue, skipSpace_cons '[' s rfl]
    simp only
    split
    · rename_i heq
      exact absurd (hs.symm.trans heq) (List.cons_ne_nil c t)
    · rename_i heq
      exact absurd (List.cons.inj (hs.symm.trans heq)).1 hc
    · rw [hs]

theorem encloses_object : Encloses '\x7b' '\x7d' skipMembers where
  cut fuel s rest hs := by
    rw [skipValue, skipSpace_cons '\x7b' s rfl]
    simp only [hs]
    intro h
    cases h
  closed fuel s t hs := by
    rw [skipValue, skipSpace_cons '\x7b' s rfl]
    simp only [hs]
  inside fuel s c t hs hc := by
    rw [skipValue, skipSpace_cons '\x7b' s rfl]
    simp only
    split
    · rename_i heq
      exact absurd (hs.symm.trans heq) (List.cons_ne_nil c t)
    · rename_i heq
      exact absurd (List.cons.inj (hs.symm.trans heq)).1 hc
    · rw [hs]

/-- A list that is read is passed over, if its elements are. -/
theorem skipValue_of_list (room fuel : Nat) (s : List Char) (t : Tree) (rest : List Char)
    (h : tree (room + 1) ('[' :: s) = .ok (t, rest))
    (hpass : ∀ u a v, u.length ≤ s.length → tree room u = .ok (a, v) →
      skipValue fuel u = .ok ((), v)) : skipValue (fuel + 1) ('[' :: s) = .ok ((), rest) := by
  rcases (bind_eq_ok _ _ _).mp h with ⟨⟨items, u⟩, hitems, h⟩
  rcases (bind_eq_ok _ _ _).mp h with ⟨⟨_, v⟩, hclose, h⟩
  rcases Prod.mk.inj (Except.ok.inj h) with ⟨_, rfl⟩
  rcases elements_takes _ (tree_local room) (tree_nil room) _ _ _ _ _ hitems with
    ⟨_, v, _, rfl, _⟩
  rcases Prod.mk.inj (Except.ok.inj hclose) with ⟨_, rfl⟩
  rcases (bind_eq_ok _ _ _).mp hitems with ⟨⟨goes, w⟩, hgoes, hitems⟩
  rw [hasElement_eq_ok_iff] at hgoes
  cases hgoes with
  | close x hs =>
      rcases List.cons.inj (Prod.mk.inj (Except.ok.inj hitems)).2 with ⟨_, rfl⟩
      exact encloses_list.closed fuel s x hs
  | next u c x hs hu hc hfirst => exact absurd hfirst.symm Bool.false_ne_true
  | start c x hs hc =>
      rcases (bind_eq_ok _ _ _).mp hitems with ⟨⟨a, y⟩, ha, hitems⟩
      rcases (bind_eq_ok _ _ _).mp hitems with ⟨⟨bs, z⟩, hbs, hitems⟩
      rcases Prod.mk.inj (Except.ok.inj hitems) with ⟨_, rfl⟩
      have hle := length_skipSpace_le s
      have hy := length_lt_of_local _ (tree_local room) (tree_nil room) _ a y ha
      rw [hs] at hle
      rw [encloses_list.inside fuel s c x hs hc]
      -- One reader looks ahead from here for the next element, the other one back for a comma.
      refine skipElements_of_behind _ _ y v (hpass _ a y hle ha) hy ?_ _ (Nat.lt_succ_self _)
      exact behind_of_elements _ _ (tree_local room) (tree_nil room) (skipValue_skipSpace fuel)
        _ y bs v hbs fun b d e hb => hpass b d e (by omega)

/-- An object that is read is passed over, if its members are. -/
theorem skipValue_of_object (room fuel : Nat) (s : List Char) (t : Tree) (rest : List Char)
    (h : tree (room + 1) ('\x7b' :: s) = .ok (t, rest))
    (hpass : ∀ u a v, u.length ≤ s.length → tree room u = .ok (a, v) →
      skipValue fuel u = .ok ((), v)) : skipValue (fuel + 1) ('\x7b' :: s) = .ok ((), rest) := by
  rcases (bind_eq_ok _ _ _).mp h with ⟨⟨fields, u⟩, hfields, h⟩
  rcases (bind_eq_ok _ _ _).mp h with ⟨⟨_, v⟩, hclose, h⟩
  rcases Prod.mk.inj (Except.ok.inj h) with ⟨_, rfl⟩
  rcases members_takes _ (tree_local room) _ _ _ _ _ hfields with ⟨_, v, _, rfl, _⟩
  rcases Prod.mk.inj (Except.ok.inj hclose) with ⟨_, rfl⟩
  rcases (bind_eq_ok _ _ _).mp hfields with ⟨⟨goes, w⟩, hgoes, hfields⟩
  rw [hasMember_eq_ok_iff] at hgoes
  -- Either the object is empty, or it opens with a key.
  cases hgoes with
  | close x hs =>
      rcases List.cons.inj (Prod.mk.inj (Except.ok.inj hfields)).2 with ⟨_, rfl⟩
      exact encloses_object.closed fuel s x hs
  | next u x hs hu hfirst => exact absurd hfirst.symm Bool.false_ne_true
  | start x hs =>
      rcases (bind_eq_ok _ _ _).mp hfields with ⟨⟨key, c⟩, hkey, hfields⟩
      rcases (bind_eq_ok _ _ _).mp hfields with ⟨⟨_, d⟩, hcolon, hfields⟩
      rcases (bind_eq_ok _ _ _).mp hfields with ⟨⟨a, y⟩, ha, hfields⟩
      rcases (bind_eq_ok _ _ _).mp hfields with ⟨⟨bs, z⟩, hbs, hfields⟩
      rcases Prod.mk.inj (Except.ok.inj hfields) with ⟨_, rfl⟩
      have hle := length_skipSpace_le s
      rw [hs] at hle
      rw [encloses_object.inside fuel s '"' _ hs (by decide)]
      refine skipMembers_of_read _ _ (tree_local room) ('"' :: w) _ c d y v key _ a
        (skipSpace_cons '"' w rfl) hkey hcolon ha (fun b e f hb => hpass b e f (by omega))
        (fun hy => ?_) _ (Nat.lt_succ_self _)
      exact behind_of_members _ _ (tree_local room) _ y bs v hbs
        fun b e f hb => hpass b e f (by omega)

theorem skipValue_of_tree_of (room fuel : Nat) (s : List Char) (t : Tree) (rest : List Char)
    (h : tree room s = .ok (t, rest)) (hfuel : s.length ≤ fuel)
    (hbelow : ∀ below, room = below + 1 → ∀ u a v, u.length < fuel →
      tree below u = .ok (a, v) → skipValue fuel u = .ok ((), v)) :
    skipValue (fuel + 1) s = .ok ((), rest) := by
  have hle := length_skipSpace_le s
  rw [← skipValue_skipSpace]
  rcases tree_ok_cases room s t rest h with ⟨below, u, rfl, hs, hlist⟩ |
    ⟨below, u, rfl, hs, hobject⟩ | ⟨c, u, hs, hopen, hbrace, hscalar⟩
  · rw [hs, List.length_cons] at hle
    rw [hs]
    exact skipValue_of_list below fuel u t rest hlist
      fun v a w hv => hbelow below rfl v a w (by omega)
  · rw [hs, List.length_cons] at hle
    rw [hs]
    exact skipValue_of_object below fuel u t rest hobject
      fun v a w hv => hbelow below rfl v a w (by omega)
  · rw [hs]
    exact skipValue_of_scalar fuel _ t rest hscalar

theorem skipValue_of_tree (room fuel : Nat) (s : List Char) (t : Tree) (rest : List Char)
    (h : tree room s = .ok (t, rest)) (hfuel : s.length < fuel) :
    skipValue fuel s = .ok ((), rest) := by
  induction room generalizing fuel s t rest with
  | zero =>
      cases fuel with
      | zero => exact absurd hfuel (Nat.not_lt_zero _)
      | succ fuel =>
          exact skipValue_of_tree_of 0 fuel s t rest h (Nat.le_of_lt_succ hfuel) nofun
  | succ room ih =>
      cases fuel with
      | zero => exact absurd hfuel (Nat.not_lt_zero _)
      | succ fuel =>
          refine skipValue_of_tree_of _ fuel s t rest h (Nat.le_of_lt_succ hfuel)
            fun below hbelow u a v hu hread => ?_
          rcases Nat.succ.inj hbelow with rfl
          exact ih fuel u a v hread hu

/-- A value that is read is passed over, up to the same place. -/
theorem skip_of_tree (room : Nat) (s : List Char) (t : Tree) (rest : List Char)
    (h : tree room s = .ok (t, rest)) : skip s = .ok ((), rest) :=
  skipValue_of_tree room _ s t rest h (Nat.lt_succ_self _)

/-! ### Levels -/

theorem elements_of_read (read other : Reader α)
    (hother : ∀ s x, read s = .ok x → other s = .ok x) (fuel : Nat) (first : Bool) (s : List Char)
    (x : List α × List Char)
    (h : elements read fuel first s = .ok x) : elements other fuel first s = .ok x := by
  induction fuel generalizing first s x with
  | zero => cases h
  | succ fuel ih =>
      rcases (bind_eq_ok _ _ _).mp h with ⟨⟨goes, t⟩, hgoes, h⟩
      rw [elements, hgoes]
      cases goes with
      | false => exact h
      | true =>
          rcases (bind_eq_ok _ _ _).mp h with ⟨⟨a, u⟩, ha, h⟩
          rcases (bind_eq_ok _ _ _).mp h with ⟨⟨as, v⟩, has, h⟩
          simp only [hother t _ ha, ih false u _ has, bind, Except.bind]
          exact h

theorem members_of_read (read other : Reader α)
    (hother : ∀ s x, read s = .ok x → other s = .ok x) (fuel : Nat) (first : Bool) (s : List Char)
    (x : List (String × α) × List Char)
    (h : members read fuel first s = .ok x) : members other fuel first s = .ok x := by
  induction fuel generalizing first s x with
  | zero => cases h
  | succ fuel ih =>
      rcases (bind_eq_ok _ _ _).mp h with ⟨⟨goes, t⟩, hgoes, h⟩
      rw [members, hgoes]
      cases goes with
      | false => exact h
      | true =>
          rcases (bind_eq_ok _ _ _).mp h with ⟨⟨key, u⟩, hkey, h⟩
          rcases (bind_eq_ok _ _ _).mp h with ⟨⟨_, v⟩, hcolon, h⟩
          rcases (bind_eq_ok _ _ _).mp h with ⟨⟨a, w⟩, ha, h⟩
          rcases (bind_eq_ok _ _ _).mp h with ⟨⟨as, y⟩, has, h⟩
          simp only [hkey, hcolon, hother v _ ha, ih false w _ has, bind, Except.bind]
          exact h

theorem tree_succ_of (room : Nat) (s : List Char) (t : Tree) (rest : List Char)
    (h : tree room s = .ok (t, rest))
    (hbelow : ∀ below, room = below + 1 → ∀ u x, tree below u = .ok x →
      tree (below + 1) u = .ok x) :
    tree (room + 1) s = .ok (t, rest) := by
  rw [← tree_skipSpace]
  rcases tree_ok_cases room s t rest h with ⟨below, u, rfl, hs, hlist⟩ |
    ⟨below, u, rfl, hs, hobject⟩ | ⟨c, u, hs, hopen, hbrace, hscalar⟩
  · rw [hs]
    rcases (bind_eq_ok _ _ _).mp hlist with ⟨⟨items, v⟩, hitems, hlist⟩
    have hmore := elements_of_read _ _ (hbelow below rfl) _ _ _ _ hitems
    rw [tree_list, hmore]
    exact hlist
  · rw [hs]
    rcases (bind_eq_ok _ _ _).mp hobject with ⟨⟨fields, v⟩, hfields, hobject⟩
    have hmore := members_of_read _ _ (hbelow below rfl) _ _ _ _ hfields
    rw [tree_object, hmore]
    exact hobject
  · rw [hs, tree_eq_scalar _ c u (isSpace_of_skipSpace s c u hs) hopen hbrace]
    exact hscalar

/-- A value that is read is read alike with one more level. -/
theorem tree_succ (room : Nat) (s : List Char) (t : Tree) (rest : List Char)
    (h : tree room s = .ok (t, rest)) : tree (room + 1) s = .ok (t, rest) := by
  induction room generalizing s t rest with
  | zero => exact tree_succ_of 0 s t rest h nofun
  | succ room ih =>
      refine tree_succ_of _ s t rest h fun below hbelow u x hread => ?_
      rcases Nat.succ.inj hbelow with rfl
      exact ih u x.1 x.2 hread

/-! ### Whole texts -/

/-- A text is one JSON value, whatever it is worth. -/
def WellFormed (text : String) : Prop := readAll skip text = .ok ()

theorem readAll_eq_ok_iff (read : Reader α) (text : String) (a : α) :
    readAll read text = .ok a ↔ ∃ rest, read text.toList = .ok (a, rest) ∧ skipSpace rest = [] := by
  refine ⟨fun h => ?_, fun h => ?_⟩
  · rcases (bind_eq_ok _ _ _).mp h with ⟨⟨b, rest⟩, hread, h⟩
    dsimp only at h
    split at h
    · rename_i hrest
      rcases Except.ok.inj h with rfl
      exact ⟨rest, hread, hrest⟩
    · cases h
  · rcases h with ⟨rest, hread, hrest⟩
    simp only [readAll, hread, bind, Except.bind, hrest]

/-- Where a value is read in front of an end, and the text is one value, it is
    that value. -/
theorem readAll_tree_of_wellFormed (room : Nat) (text : String) (t : Tree) (rest : List Char)
    (htext : WellFormed text) (h : tree room text.toList = .ok (t, rest)) :
    skipSpace rest = [] := by
  rcases (readAll_eq_ok_iff skip text ()).mp htext with ⟨left, hskip, hleft⟩
  rcases Prod.mk.inj (Except.ok.inj ((skip_of_tree room _ t rest h).symm.trans hskip)) with ⟨_, rfl⟩
  exact hleft

end Json

end StreamRoster
