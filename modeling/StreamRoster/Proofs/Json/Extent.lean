import Mathlib.Data.List.TakeWhile
import Mathlib.Tactic.SplitIfs
import StreamRoster.Json.Lexer

/-!
# What a Reader Takes

A reader returns the text behind a value, and what it took is the part before.
This module shows of the tokens that nothing else counts: what was taken is
taken again, for the same value, whatever stands behind it.

For most tokens that holds without a condition, since they have a last
character. A number has none. It ends where it cannot go on, so something has
to be known about the text behind it. `Ends` asks for what the rest of a JSON
text offers anyway, which is the end of the text, a blank, a comma or a closing
bracket. The condition is a parameter of `Local`, so that both kinds of token
share the lemmas that put readers together.

Readers that count their steps are given the length of the text as fuel, and
the length changes with what stands behind. The lemma about a string therefore
says that the length of what is taken is fuel enough.

## Main definitions

* `Takes`: A reader takes a text for a value.
* `Cuts`: A reader cuts a text in two at a place where it may be cut.
* `Local`: A reader cuts every text that it can read.
* `Ends`: A value may end in front of a text.

## Theorems

* `bind_eq_ok`: A sequence succeeds if both parts do.
* `local_bind`, `local_map`, `local_ite`: Readers that are put together.
* `local_extend`, `local_digits`, `local_of_cons`, `local_pass`: Readers that
  hand a text on.
* `string_local`: Reading a string is local without a condition.
* `number_local`: Reading a number is local where it ends.
-/

namespace StreamRoster

namespace Json

/-- A sequence succeeds if its first part does, and the second one with what came of
    it. -/
theorem bind_eq_ok {ε α β : Type} (x : Except ε α) (f : α → Except ε β) (b : β) :
    (x >>= f) = .ok b ↔ ∃ a, x = .ok a ∧ f a = .ok b := by
  cases x with
  | error e =>
      refine iff_of_false nofun fun h => ?_
      rcases h with ⟨_, h, _⟩
      cases h
  | ok a =>
      refine ⟨fun h => ⟨a, rfl, h⟩, fun h => ?_⟩
      rcases h with ⟨_, h, hf⟩
      cases h
      exact hf

/-- A reader takes a text for a value in front of every text with a property. -/
def Takes (after : List Char → Prop) (read : Reader α) (used : List Char) (a : α) : Prop :=
  ∀ rest, after rest → read (used ++ rest) = .ok (a, rest)

/-- A reader cuts a text into what it takes for a value and the rest. -/
def Cuts (after : List Char → Prop) (read : Reader α) (s : List Char) (a : α)
    (rest : List Char) : Prop :=
  ∃ used, s = used ++ rest ∧ Takes after read used a

/-- A reader cuts every text that it can read. -/
def Local (after : List Char → Prop) (read : Reader α) : Prop :=
  ∀ s a rest, read s = .ok (a, rest) → Cuts after read s a rest

/-- No property at all. -/
def Any : List Char → Prop := fun _ => True

/-- Whether a character may stand behind a value. -/
def follows (c : Char) : Bool := isSpace c || c = ',' || c = ']' || c = '\x7d'

/-- A value may end in front of a text. -/
def Ends (s : List Char) : Prop := ∀ c ∈ s.head?, follows c = true

variable {α β : Type} {after : List Char → Prop}

/-- What is taken in front of every text is taken in front of those with a property.
    -/
theorem local_of_any (read : Reader α) (h : Local Any read) : Local after read := by
  intro s a rest hread
  rcases h s a rest hread with ⟨used, hs, htakes⟩
  exact ⟨used, hs, fun rest _ => htakes rest trivial⟩

/-- What is taken whole is taken in front of every text. -/
theorem takes_of_local (read : Reader α) (h : Local after read) (s : List Char) (a : α)
    (hread : read s = .ok (a, [])) : Takes after read s a := by
  rcases h s a [] hread with ⟨used, hs, htakes⟩
  rw [List.append_nil] at hs
  rw [hs]
  exact htakes

/-- A reader that takes nothing. -/
theorem local_ok (a : α) : Local after fun s => .ok (a, s) := by
  intro s b rest h
  rcases Prod.mk.inj (Except.ok.inj h) with ⟨rfl, rfl⟩
  exact ⟨[], rfl, fun _ _ => rfl⟩

/-- A reader that reads nothing has nothing to show. -/
theorem local_of_fails (read : Reader α) (h : ∀ s x, read s ≠ .ok x) : Local after read :=
  fun s _ _ hread => absurd hread (h s _)

theorem local_failHere (cause : Cause) : Local after (failHere cause : Reader α) :=
  local_of_fails _ fun _ _ => nofun

theorem local_failNext (cause : Cause) (place : List Char → List Char) :
    Local after (fun s => failNext cause (place s) : Reader α) :=
  local_of_fails _ fun _ _ => nofun

/-- A reader that is one of two by a condition that does not look at the text. -/
theorem local_ite (c : Prop) [Decidable c] (yes no : Reader α) (hyes : Local after yes)
    (hno : Local after no) : Local after fun s => if c then yes s else no s := by
  by_cases hc : c
  · simp only [if_pos hc]
    exact hyes
  · simp only [if_neg hc]
    exact hno

/-- One reader and then another. The first one has to stop by itself, since what it
    finds behind it is the beginning of what the second one takes. -/
theorem local_bind (read : Reader α) (next : α × List Char → Except Failure (β × List Char))
    (hread : Local Any read) (hnext : ∀ a, Local after fun s => next (a, s)) :
    Local after fun s => read s >>= next := by
  intro s b rest h
  rcases (bind_eq_ok _ _ _).mp h with ⟨⟨a, t⟩, ha, hb⟩
  -- The texts that the two readers take are put one behind the other.
  rcases hread s a t ha with ⟨used, rfl, htakes⟩
  rcases hnext a t b rest hb with ⟨more, rfl, hmore⟩
  refine ⟨used ++ more, (List.append_assoc _ _ _).symm, fun rest' hrest => ?_⟩
  simp only [List.append_assoc, htakes (more ++ rest') trivial]
  exact hmore rest' hrest

/-- A reader whose value is changed. -/
theorem local_map (f : α → β) (read : Reader α) (hread : Local after read) :
    Local after fun s => read s >>= fun x => .ok (f x.1, x.2) := by
  intro s b rest h
  rcases (bind_eq_ok _ _ _).mp h with ⟨⟨a, t⟩, ha, hb⟩
  rcases Prod.mk.inj (Except.ok.inj hb) with ⟨rfl, rfl⟩
  rcases hread s a t ha with ⟨used, rfl, htakes⟩
  refine ⟨used, rfl, fun rest' hrest => ?_⟩
  simp only [htakes rest' hrest]
  rfl

/-- A reader that hands on what stands behind a fixed front. -/
theorem local_extend (read next : Reader α) (front s : List Char) (a : α) (rest : List Char)
    (hnext : Local after next) (heq : ∀ t, read (front ++ t) = next t)
    (h : read (front ++ s) = .ok (a, rest)) : Cuts after read (front ++ s) a rest := by
  rcases hnext s a rest ((heq s).symm.trans h) with ⟨used, rfl, htakes⟩
  refine ⟨front ++ used, (List.append_assoc _ _ _).symm, fun rest' hrest => ?_⟩
  rw [List.append_assoc, heq]
  exact htakes rest' hrest

/-- A reader that hands on a text with a certain first character. The other
    reader needs that character, so it is among what is taken. -/
theorem local_of_cons (read next : Reader α) (c : Char) (s : List Char) (a : α) (rest : List Char)
    (hnext : Local Ends next) (hempty : ∀ x, next [] ≠ .ok x)
    (heq : ∀ t, read (c :: t) = next (c :: t)) (h : read (c :: s) = .ok (a, rest)) :
    Cuts Ends read (c :: s) a rest := by
  rcases hnext _ a rest ((heq s).symm.trans h) with ⟨used, hused, htakes⟩
  cases used with
  | nil => exact absurd (htakes [] nofun) (hempty _)
  | cons d used =>
      rw [List.cons_append] at hused
      rcases List.cons.inj hused with ⟨rfl, rfl⟩
      exact ⟨c :: used, rfl, fun rest' hrest => (heq _).trans (htakes rest' hrest)⟩

/-- A reader that hands a text on unless it starts with certain characters,
    none of which may stand behind what the other reader takes. -/
theorem local_pass (read next : Reader α) (s : List Char) (a : α) (rest : List Char)
    (hnext : Local after next) (heq : ∀ t, t.head? = s.head? ∨ after t → read t = next t)
    (h : read s = .ok (a, rest)) : Cuts after read s a rest := by
  rcases hnext s a rest ((heq s (Or.inl rfl)).symm.trans h) with ⟨used, rfl, htakes⟩
  refine ⟨used, rfl, fun rest' hrest => ?_⟩
  rw [heq]
  · exact htakes rest' hrest
  · cases used with
    | nil => exact Or.inr hrest
    | cons c used => exact Or.inl rfl

/-- A text does not begin with a character that the old one does not begin with, if
    it begins like the old one or follows a value. This is how a reader is kept from
    going on at the end of a number. -/
theorem not_cons_of_head? (d : Char) (s t : List Char) (hs : ∀ u, s = d :: u → False)
    (hd : follows d = false) (ht : t.head? = s.head? ∨ Ends t) (u : List Char) :
    t ≠ d :: u := by
  intro htu
  rw [htu] at ht
  rcases ht with hhead | hends
  · rcases List.head?_eq_some_iff.mp hhead.symm with ⟨v, hv⟩
    exact hs v hv
  · exact absurd (hd.symm.trans (hends d rfl)) nofun

/-- Whether a value may end depends on the next character only. -/
theorem ends_append (used : List Char) (c : Char) (s t : List Char) (h : Ends (used ++ c :: s)) :
    Ends (used ++ c :: t) := by
  cases used with
  | nil => exact h
  | cons d used => exact h

theorem ends_of_append (s t : List Char) (h : Ends (s ++ t)) : Ends s := by
  cases s with
  | nil => exact nofun
  | cons c s => exact h

/-! ### Words and strings -/

/-- A fixed word is read exactly where it stands. -/
theorem word_eq_ok_iff (w s : List Char) (u : Unit) (rest : List Char) :
    word w s = .ok (u, rest) ↔ s = w ++ rest := by
  induction w generalizing s with
  | nil =>
      rw [word, List.nil_append]
      exact ⟨fun h => (Prod.mk.inj (Except.ok.inj h)).2, fun h => by rw [h]⟩
  | cons c w ih =>
      cases s with
      | nil => exact iff_of_false nofun nofun
      | cons d s =>
          rw [word, List.cons_append, List.cons.injEq]
          by_cases hd : d = c
          · rw [if_pos hd, ih s]
            exact ⟨fun h => ⟨hd, h⟩, fun h => h.2⟩
          · rw [if_neg hd]
            exact iff_of_false nofun fun h => hd h.1

theorem word_local (w : List Char) : Local after (word w) :=
  fun s u rest h => ⟨w, (word_eq_ok_iff w s u rest).mp h,
    fun rest _ => (word_eq_ok_iff w _ u rest).mpr rfl⟩

/-- Four hexadecimal digits are taken, no more and no less. -/
theorem hexEscape_local : Local Any hexEscape := by
  intro s n rest h
  rw [hexEscape.eq_def] at h
  split at h
  · rename_i a b c d s'
    split at h
    · rename_i w x y z ha hb hc hd
      rcases Prod.mk.inj (Except.ok.inj h) with ⟨rfl, rfl⟩
      refine ⟨[a, b, c, d], rfl, fun rest _ => ?_⟩
      simp only [hexEscape, List.cons_append, List.nil_append, ha, hb, hc, hd]
    · cases h
  · split at h
    · cases h
    · cases h

/-- A numeric escape takes one group of digits, or two if the first is the first
    half of a pair. -/
theorem unicodeEscape_local : Local Any unicodeEscape := by
  refine local_bind hexEscape _ hexEscape_local fun n => ?_
  refine local_ite _ _ _ (local_failHere _) (local_ite _ _ _ ?_ (local_ok _))
  intro s c rest h
  simp only at h
  split at h
  · cases h
  · cases h
  · refine local_extend _ _ ['\\', 'u'] _ c rest ?_ (fun t => rfl) h
    refine local_bind hexEscape _ hexEscape_local fun low => ?_
    exact local_ite _ _ _ (local_ok _) (local_failHere _)
  · cases h
  · cases h

theorem escape_local : Local Any escape := by
  intro s c rest hread
  have h := hread
  rw [escape.eq_def] at h
  split at h
  · cases h
  · -- The letter that announces digits; they are read by another reader.
    exact local_extend escape unicodeEscape ['u'] _ c rest unicodeEscape_local (fun _ => rfl) hread
  · rename_i d s' hu
    -- Any other letter stands for one character, or for none and is refused.
    cases hd : letterEscape? d with
    | none =>
        simp only [hd] at h
        cases h
    | some e =>
        have heq : ∀ t, escape ([d] ++ t) = .ok (e, t) := by
          intro t
          rw [escape.eq_def]
          simp only [List.cons_append, List.nil_append, hd]
        exact local_extend escape _ [d] s' c rest (local_ok e) heq hread

/-- Every step of reading a string takes a character, so the number of the
    characters taken is fuel enough. -/
theorem stringChars_takes (fuel : Nat) (s cs rest : List Char)
    (h : stringChars fuel s = .ok (cs, rest)) :
    ∃ used, s = used ++ rest ∧
      ∀ more, used.length ≤ more → Takes Any (stringChars more) used cs := by
  induction fuel generalizing s cs with
  | zero => cases h
  | succ fuel ih =>
      rw [stringChars.eq_def] at h
      simp only at h
      split at h
      · cases h
      · -- The closing quote.
        rcases Prod.mk.inj (Except.ok.inj h) with ⟨rfl, rfl⟩
        refine ⟨['"'], rfl, fun more hmore rest _ => ?_⟩
        cases more with
        | zero => exact absurd hmore (Nat.not_succ_le_zero _)
        | succ more => rfl
      · -- An escape takes what it takes in front of any rest, and one step of fuel.
        rename_i s'
        rcases (bind_eq_ok _ _ _).mp h with ⟨⟨c, t⟩, hc, h⟩
        rcases (bind_eq_ok _ _ _).mp h with ⟨⟨ds, u⟩, hds, h⟩
        rcases Prod.mk.inj (Except.ok.inj h) with ⟨rfl, rfl⟩
        rcases escape_local s' c t hc with ⟨escaped, rfl, hescaped⟩
        rcases ih t ds hds with ⟨used, rfl, hused⟩
        refine ⟨'\\' :: (escaped ++ used), by rw [List.cons_append, List.append_assoc],
          fun more hmore rest _ => ?_⟩
        cases more with
        | zero => exact absurd hmore (Nat.not_succ_le_zero _)
        | succ more =>
            rw [List.length_cons, List.length_append] at hmore
            have hmore := hused more (by omega) rest trivial
            simp only [List.cons_append, List.append_assoc, stringChars, hescaped _ trivial, hmore,
              bind, Except.bind]
      · -- Any other character stands for itself, unless it is a control.
        rename_i c s' hquote hslash
        by_cases hcontrol : c.toNat < 0x20
        · rw [if_pos hcontrol] at h
          cases h
        rw [if_neg hcontrol] at h
        rcases (bind_eq_ok _ _ _).mp h with ⟨⟨ds, u⟩, hds, h⟩
        rcases Prod.mk.inj (Except.ok.inj h) with ⟨rfl, rfl⟩
        rcases ih s' ds hds with ⟨used, rfl, hused⟩
        refine ⟨c :: used, rfl, fun more hmore rest _ => ?_⟩
        cases more with
        | zero => exact absurd hmore (Nat.not_succ_le_zero _)
        | succ more =>
            have hmore := hused more (Nat.le_of_succ_le_succ hmore) rest trivial
            simp only [List.cons_append, stringChars, if_neg hcontrol, hmore, bind, Except.bind]

/-- Reading a string is local. Its fuel is one more than the length of the whole
    text, and that is more than what the string takes. -/
theorem string_local : Local Any string := by
  intro s a rest h
  rcases (bind_eq_ok _ _ _).mp h with ⟨⟨cs, t⟩, hcs, h⟩
  rcases Prod.mk.inj (Except.ok.inj h) with ⟨rfl, rfl⟩
  rcases stringChars_takes _ s cs t hcs with ⟨used, rfl, htakes⟩
  refine ⟨used, rfl, fun rest _ => ?_⟩
  -- What was taken is a part of the text, so there is fuel for it.
  have hfuel : used.length ≤ (used ++ rest).length + 1 := by
    rw [List.length_append]
    omega
  rw [string, htakes _ hfuel rest trivial]
  rfl

/-! ### Numbers -/

/-- No digit may stand behind a value. -/
theorem isDigit_eq_false_of_follows (c : Char) (h : follows c = true) : c.isDigit = false := by
  simp only [follows, isSpace, Bool.or_eq_true, decide_eq_true_eq] at h
  rcases h with (((((rfl | rfl) | rfl) | rfl) | rfl) | rfl) | rfl <;> rfl

theorem startsWithDigit_of_ends (s : List Char) (h : Ends s) : startsWithDigit s = false := by
  cases s with
  | nil => rfl
  | cons c s => exact isDigit_eq_false_of_follows c (h c rfl)

/-- Behind digits, a text that begins with none does not add to them. -/
theorem startsWithDigit_append (ds s : List Char) (hs : startsWithDigit s = false) :
    startsWithDigit (ds ++ s) = startsWithDigit ds := by
  cases ds with
  | nil => exact hs
  | cons c ds => rfl

/-- The digits in front of a text end where the text does not go on with one. -/
theorem spanDigits_append (ds s : List Char) (hds : ∀ c ∈ ds, c.isDigit = true)
    (hs : startsWithDigit s = false) : spanDigits (ds ++ s) = (ds, s) := by
  have hstop : s.takeWhile Char.isDigit = [] ∧ s.dropWhile Char.isDigit = s := by
    cases s with
    | nil => exact ⟨rfl, rfl⟩
    | cons c s =>
        have hc : ¬c.isDigit = true := ne_true_of_eq_false hs
        exact ⟨List.takeWhile_cons_of_neg hc, List.dropWhile_cons_of_neg hc⟩
  rw [spanDigits, List.takeWhile_append_of_pos hds, List.dropWhile_append_of_pos hds, hstop.1,
    hstop.2, List.append_nil]

/-- Each text is a row of digits, which may be empty, and a rest without a digit at
    its front. -/
theorem exists_digits (s : List Char) :
    ∃ ds t, s = ds ++ t ∧ (∀ c ∈ ds, c.isDigit = true) ∧ startsWithDigit t = false := by
  refine ⟨s.takeWhile Char.isDigit, s.dropWhile Char.isDigit,
    List.takeWhile_append_dropWhile.symm, fun c hc => List.mem_takeWhile_imp hc, ?_⟩
  induction s with
  | nil => rfl
  | cons c s ih =>
      by_cases hc : c.isDigit = true
      · rw [List.dropWhile_cons_of_pos hc]
        exact ih
      · rw [List.dropWhile_cons_of_neg hc]
        exact eq_false_of_ne_true hc

/-- A reader that takes digits and hands on what stands behind them. -/
theorem local_digits (read next : Reader α) (ds s : List Char) (a : α) (rest : List Char)
    (hnext : Local Ends next) (heq : ∀ t, startsWithDigit t = false → read (ds ++ t) = next t)
    (hs : startsWithDigit s = false) (h : read (ds ++ s) = .ok (a, rest)) :
    Cuts Ends read (ds ++ s) a rest := by
  rcases hnext s a rest ((heq s hs).symm.trans h) with ⟨used, rfl, htakes⟩
  refine ⟨ds ++ used, (List.append_assoc _ _ _).symm, fun rest' hrest => ?_⟩
  -- The digits end before what is taken, and before the new rest too.
  have hstart : startsWithDigit (used ++ rest') = false := by
    cases used with
    | nil => exact startsWithDigit_of_ends rest' hrest
    | cons c used => exact hs
  rw [List.append_assoc, heq _ hstart]
  exact htakes rest' hrest

/-- Scaling does not look at the text behind the number. -/
theorem float_eq_ok (negative : Bool) (digits : Nat) (e : Int) (s : List Char) (n : Number)
    (rest : List Char) (h : float negative digits e s = .ok (n, rest)) :
    rest = s ∧ ∀ t, float negative digits e t = .ok (n, t) := by
  rw [float] at h
  cases hscale : Number.scale negative digits e with
  | none =>
      simp only [hscale] at h
      cases h
  | some x =>
      simp only [hscale] at h
      rcases Prod.mk.inj (Except.ok.inj h) with ⟨rfl, rfl⟩
      refine ⟨rfl, fun t => ?_⟩
      rw [float, hscale]

theorem float_local (negative : Bool) (digits : Nat) (e : Int) :
    Local after (float negative digits e) := by
  intro s n rest h
  rcases float_eq_ok negative digits e s n rest h with ⟨rfl, heq⟩
  exact ⟨[], rfl, fun rest _ => heq rest⟩

/-- The digits of an exponent. There has to be one at least. -/
theorem exponentDigits_local (negative : Bool) (digits : Nat) (start : Int) (down : Bool) :
    Local Ends (exponentDigits negative digits start down) := by
  intro s n rest h
  rcases exists_digits s with ⟨ds, t, rfl, hds, ht⟩
  cases ds with
  | nil =>
      cases t with
      | nil => cases h
      | cons c t =>
          have hc : (!c.isDigit) = true := congrArg not ht
          rw [List.nil_append, exponentDigits, if_pos hc] at h
          cases h
  | cons c ds =>
      have hc : (!c.isDigit) = false := congrArg not (hds c List.mem_cons_self)
      have hspan : ∀ t, startsWithDigit t = false → spanDigits (c :: (ds ++ t)) = (c :: ds, t) :=
        fun t => spanDigits_append (c :: ds) t hds
      rcases hexponent : takeExponent 0 (c :: ds) with ⟨e, left⟩
      -- Digits are left only where the exponent is too large, and then what counts is the sign.
      cases left with
      | nil =>
          refine local_digits _ _ (c :: ds) t n rest (float_local negative digits
            (if down then start - e else start + e)) (fun t ht => ?_) ht h
          simp only [exponentDigits, List.cons_append, hc, hspan t ht, hexponent,
            Bool.false_eq_true, if_false]
      | cons d left =>
          refine local_digits _ _ (c :: ds) t n rest (local_ite (digits ≠ 0 && !down) _ _
            (local_failNext .numberOutOfRange fun t => left ++ t)
            (local_ok (.float (Double.zero negative)))) (fun t ht => ?_) ht h
          simp only [exponentDigits, List.cons_append, hc, hspan t ht, hexponent,
            Bool.false_eq_true, if_false]

/-- An exponent, with a sign or without. -/
theorem exponent_local (negative : Bool) (digits : Nat) (start : Int) :
    Local Ends (exponent negative digits start) := by
  intro s n rest hread
  have h := hread
  rw [exponent.eq_def] at h
  split at h
  · exact local_extend _ _ ['+'] _ n rest (exponentDigits_local negative digits start false)
      (fun _ => rfl) hread
  · exact local_extend _ _ ['-'] _ n rest (exponentDigits_local negative digits start true)
      (fun _ => rfl) hread
  · rename_i hplus hminus
    cases s with
    | nil => cases h
    | cons c s =>
        -- Without a sign the digits begin at once, and a longer text has no sign either.
        refine local_of_cons _ _ c s n rest (exponentDigits_local negative digits start false)
          nofun (fun t => ?_) hread
        rw [exponent.eq_def]
        split
        · rename_i heq
          rcases List.cons.inj heq with ⟨rfl, rfl⟩
          exact absurd rfl (hplus _)
        · rename_i heq
          rcases List.cons.inj heq with ⟨rfl, rfl⟩
          exact absurd rfl (hminus _)
        · rfl

/-- What may stand behind the fraction of a number: an exponent, or the end. -/
theorem afterFraction_local (negative : Bool) (digits : Nat) (start : Int) :
    Local Ends (afterFraction negative digits start) := by
  intro s n rest hread
  have h := hread
  rw [afterFraction.eq_def] at h
  split at h
  · exact local_extend _ _ ['e'] _ n rest (exponent_local _ _ _) (fun _ => rfl) hread
  · exact local_extend _ _ ['E'] _ n rest (exponent_local _ _ _) (fun _ => rfl) hread
  · rename_i hsmall hbig
    -- Without an exponent the number ends, and nothing that may follow is one.
    refine local_pass _ _ s n rest (float_local negative digits start) (fun t ht => ?_) hread
    rw [afterFraction.eq_def]
    split
    · exact absurd rfl (not_cons_of_head? _ s _ hsmall rfl ht _)
    · exact absurd rfl (not_cons_of_head? _ s _ hbig rfl ht _)
    · rfl

/-- The fraction of a number. There has to be one digit at least behind the point.
    -/
theorem fraction_local (negative : Bool) (digits : Nat) (start : Int) :
    Local Ends (fraction negative digits start) := by
  intro s n rest h
  rcases exists_digits s with ⟨ds, t, rfl, hds, ht⟩
  cases ds with
  | nil =>
      rw [fraction, spanDigits_append [] t nofun ht] at h
      cases t with
      | nil => cases h
      | cons c t => cases h
  | cons c ds =>
      refine local_digits _ _ (c :: ds) t n rest (afterFraction_local negative
        (takeDigits digits (c :: ds)).1 (start - (takeDigits digits (c :: ds)).2.1))
        (fun t ht => ?_) ht h
      simp only [fraction, spanDigits_append (c :: ds) t hds ht]

/-- What may stand behind the whole part of a number: a fraction, an exponent, or
    the end. -/
theorem afterWhole_local (negative : Bool) (digits : Nat) (left : List Char) :
    Local Ends (afterWhole negative digits left) := by
  intro s n rest hread
  have h := hread
  rw [afterWhole.eq_def] at h
  split at h
  · exact local_extend _ _ ['.'] _ n rest (fraction_local _ _ _) (fun _ => rfl) hread
  · exact local_extend _ _ ['e'] _ n rest (exponent_local _ _ _) (fun _ => rfl) hread
  · exact local_extend _ _ ['E'] _ n rest (exponent_local _ _ _) (fun _ => rfl) hread
  · rename_i hpoint hsmall hbig
    -- Neither point nor exponent, here or in front of a new rest: the number ends.
    refine local_pass _ _ s n rest (local_ite left.isEmpty _ _
      (local_ok (Number.ofDigits negative digits)) (float_local negative digits left.length))
      (fun t ht => ?_) hread
    rw [afterWhole.eq_def]
    split
    · exact absurd rfl (not_cons_of_head? _ s _ hpoint rfl ht _)
    · exact absurd rfl (not_cons_of_head? _ s _ hsmall rfl ht _)
    · exact absurd rfl (not_cons_of_head? _ s _ hbig rfl ht _)
    · rfl

/-- Reading a number is local where it ends. A leading zero with a digit behind it
    is refused, and it is refused in front of every text. -/
theorem number_local (negative : Bool) : Local Ends (number negative) := by
  intro s n rest h
  rcases exists_digits s with ⟨ds, t, rfl, hds, ht⟩
  cases ds with
  | nil =>
      cases t with
      | nil => cases h
      | cons c t =>
          have hc : (!c.isDigit) = true := congrArg not ht
          rw [List.nil_append, number, if_pos hc] at h
          cases h
  | cons c ds =>
      have hc : (!c.isDigit) = false := congrArg not (hds c List.mem_cons_self)
      -- Whether there is a leading zero shows in the digits alone.
      have heq : ∀ t, startsWithDigit t = false → number negative (c :: ds ++ t) =
          if c = '0' && startsWithDigit ds then failNext .invalidNumber (ds ++ t)
          else afterWhole negative (takeDigits 0 (c :: ds)).1 (takeDigits 0 (c :: ds)).2.2 t := by
        intro t ht
        have hspan := spanDigits_append (c :: ds) t hds ht
        rw [List.cons_append] at hspan ⊢
        simp only [number, hc, hspan, startsWithDigit_append ds t ht, Bool.false_eq_true, if_false]
      exact local_digits _ _ (c :: ds) t n rest
        (local_ite _ _ _ (local_failNext _ _) (afterWhole_local _ _ _)) heq ht h

end Json

end StreamRoster
