import StreamRoster.Proofs.Json.Leniency

/-!
# What Passing Over Takes

A value that is passed over is passed over again whatever stands behind it.

The readers that pass over a value are not made of those that read one, so what
was shown of the latter has to be shown once more. The shape of the argument is
the same: tokens first, then the punctuation, and then values by induction. Two
things differ. The fuel counts levels of nesting here, and each level starts a
count of its own for the elements of a list. And a list is walked through by
looking back at the comma behind an element, so that nothing has to be known
about the element in front of which a list goes on.

`Passed` says of a text what is taken and how much fuel that needs. What follows
from it for a reader without fuel is `skip_local`. That more fuel does not matter
needs no such text, it is an induction of its own (`skipValue_mono`).

## Main definitions

* `Follows`: What a reader takes is taken by one with fuel.
* `Repeats`: Elements or members that are passed over in front of any text.
* `Passed`: A text is passed over up to a place.

## Theorems

* `skipString_local`, `skipNumber_local`: Tokens.
* `skipElements_repeats`, `skipMembers_repeats`: Lists and objects.
* `skipValue_takes`: Values.
* `skip_local`: Passing over a value is local where it ends.
* `skipValue_mono`: More fuel does not matter.
-/

namespace StreamRoster

namespace Json

variable {α : Type} {after : List Char → Prop}

/-! ### Strings -/

/-- Every step of passing over a string takes a character, so the number of the
    characters taken is fuel enough. -/
theorem skipStringChars_takes (fuel : Nat) (s rest : List Char)
    (h : skipStringChars fuel s = .ok ((), rest)) :
    ∃ used, s = used ++ rest ∧
      ∀ more, used.length ≤ more → Takes Any (skipStringChars more) used () := by
  induction fuel generalizing s with
  | zero => cases h
  | succ fuel ih =>
      rw [skipStringChars.eq_def] at h
      simp only at h
      split at h
      · cases h
      · rcases Prod.mk.inj (Except.ok.inj h) with ⟨_, rfl⟩
        refine ⟨['"'], rfl, fun more hmore rest _ => ?_⟩
        cases more with
        | zero => exact absurd hmore (Nat.not_succ_le_zero _)
        | succ more => rfl
      · cases h
      · rename_i t
        rcases (bind_eq_ok _ _ _).mp h with ⟨⟨n, u⟩, hn, hrest⟩
        rcases hexEscape_local t n u hn with ⟨escaped, rfl, hescaped⟩
        rcases ih u hrest with ⟨used, rfl, hused⟩
        refine ⟨'\\' :: 'u' :: (escaped ++ used),
          by simp only [List.cons_append, List.append_assoc], fun more hmore rest _ => ?_⟩
        cases more with
        | zero => exact absurd hmore (Nat.not_succ_le_zero _)
        | succ more =>
            simp only [List.length_cons, List.length_append] at hmore
            have hmore := hused more (by omega) rest trivial
            simp only [List.cons_append, List.append_assoc, skipStringChars, hescaped _ trivial,
              hmore, bind, Except.bind]
      · rename_i c t hc
        split_ifs at h with hletter
        · rcases ih t h with ⟨used, rfl, hused⟩
          refine ⟨'\\' :: c :: used, rfl, fun more hmore rest _ => ?_⟩
          cases more with
          | zero => exact absurd hmore (Nat.not_succ_le_zero _)
          | succ more =>
              simp only [List.length_cons] at hmore
              simp only [List.cons_append, skipStringChars, if_pos hletter]
              exact hused more (by omega) rest trivial
        · cases h
      · rename_i c t hquote hlast _ hletter
        -- The escapes were split off above, so the character is no backslash.
        have hslash : c ≠ '\\' := by
          rintro rfl
          cases t with
          | nil => exact hlast rfl rfl
          | cons d u => exact hletter d u rfl rfl
        split_ifs at h with hcontrol
        · cases h
        · rcases ih t h with ⟨used, rfl, hused⟩
          refine ⟨c :: used, rfl, fun more hmore rest _ => ?_⟩
          cases more with
          | zero => exact absurd hmore (Nat.not_succ_le_zero _)
          | succ more =>
              rw [List.cons_append, skipStringChars_plain more c _ hquote hslash hcontrol]
              exact hused more (Nat.le_of_succ_le_succ hmore) rest trivial

theorem skipString_local : Local Any skipString := by
  intro s a rest h
  rcases skipStringChars_takes _ s rest h with ⟨used, rfl, htakes⟩
  refine ⟨used, rfl, fun rest _ => ?_⟩
  have hfuel : used.length ≤ (used ++ rest).length + 1 := by
    rw [List.length_append]
    omega
  exact htakes _ hfuel rest trivial

/-! ### Numbers -/

theorem skipExponentDigits_local : Local Ends skipExponentDigits := by
  intro s u rest h
  rcases exists_digits s with ⟨ds, t, rfl, hds, ht⟩
  cases ds with
  | nil =>
      rw [List.nil_append, skipExponentDigits, if_neg (ne_true_of_eq_false ht)] at h
      cases h
  | cons c ds =>
      refine local_digits _ _ (c :: ds) t u rest (local_ok ()) (fun t ht => ?_) ht h
      have hc : startsWithDigit (c :: ds ++ t) = true := hds c List.mem_cons_self
      rw [skipExponentDigits, if_pos hc, spanDigits_append (c :: ds) t hds ht]

theorem skipExponent_local : Local Ends skipExponent := by
  intro s u rest hread
  have h := hread
  rw [skipExponent.eq_def] at h
  split at h
  · exact local_extend _ _ ['+'] _ u rest skipExponentDigits_local (fun _ => rfl) hread
  · exact local_extend _ _ ['-'] _ u rest skipExponentDigits_local (fun _ => rfl) hread
  · rename_i hplus hminus
    cases s with
    | nil => cases h
    | cons c s =>
        refine local_of_cons _ _ c s u rest skipExponentDigits_local ?_ (fun t => ?_) hread
        · rintro x ⟨⟩
        rw [skipExponent.eq_def]
        split
        · rename_i heq
          rcases List.cons.inj heq with ⟨rfl, rfl⟩
          exact absurd rfl (hplus _)
        · rename_i heq
          rcases List.cons.inj heq with ⟨rfl, rfl⟩
          exact absurd rfl (hminus _)
        · rfl

theorem skipExponentPart_local : Local Ends skipExponentPart := by
  intro s u rest hread
  have h := hread
  rw [skipExponentPart.eq_def] at h
  split at h
  · exact local_extend _ _ ['e'] _ u rest skipExponent_local (fun _ => rfl) hread
  · exact local_extend _ _ ['E'] _ u rest skipExponent_local (fun _ => rfl) hread
  · rename_i hsmall hbig
    refine local_pass _ _ s u rest (local_ok ()) (fun t ht => ?_) hread
    exact skipExponentPart_eq_ok t
      (fun v hv => not_cons_of_head? _ s _ hsmall rfl ht v hv)
      (fun v hv => not_cons_of_head? _ s _ hbig rfl ht v hv)

/-- What is passed over behind the whole part of a number. -/
def skipFraction : Reader Unit := fun s =>
  match s with
  | '.' :: s =>
    if startsWithDigit s then skipExponentPart (spanDigits s).2 else failNext .invalidNumber s
  | s => skipExponentPart s

theorem skipFraction_local : Local Ends skipFraction := by
  intro s u rest hread
  have h := hread
  rw [skipFraction.eq_def] at h
  split at h
  · rename_i t
    split_ifs at h with hdigit
    · rcases exists_digits t with ⟨ds, v, rfl, hds, hv⟩
      cases ds with
      | nil => exact absurd (hdigit.symm.trans hv) nofun
      | cons c ds =>
          -- Where the digits end, what stands behind them takes over.
          rw [spanDigits_append (c :: ds) v hds hv] at h
          have hall : ∀ x, startsWithDigit x = false →
              skipFraction ('.' :: c :: ds ++ x) = skipExponentPart x := by
            intro x hx
            have hc : startsWithDigit (c :: ds ++ x) = true := hds c List.mem_cons_self
            have hspan := spanDigits_append (c :: ds) x hds hx
            rw [List.cons_append] at hc hspan
            simp only [skipFraction, List.cons_append, if_pos hc, hspan]
          exact local_digits _ _ ('.' :: c :: ds) v u rest skipExponentPart_local hall hv hread
    · cases h
  · rename_i hpoint
    refine local_pass _ _ s u rest skipExponentPart_local (fun t ht => ?_) hread
    rw [skipFraction.eq_def]
    split
    · exact absurd rfl (not_cons_of_head? _ s _ hpoint rfl ht _)
    · rfl

theorem skipNumber_local : Local Ends skipNumber := by
  intro s u rest h
  rcases exists_digits s with ⟨ds, t, rfl, hds, ht⟩
  cases ds with
  | nil =>
      cases t with
      | nil => cases h
      | cons c t =>
          have hc : (!c.isDigit) = true := congrArg not ht
          rw [List.nil_append, skipNumber, if_pos hc] at h
          cases h
  | cons c ds =>
      have hc : (!c.isDigit) = false := congrArg not (hds c List.mem_cons_self)
      -- The digits in front are the same whatever follows, so the number is cut behind
      -- them.
      have heq : ∀ t, startsWithDigit t = false → skipNumber (c :: ds ++ t) =
          if c = '0' && startsWithDigit ds then failNext .invalidNumber (ds ++ t)
          else skipFraction t := by
        intro t ht
        have hspan := spanDigits_append (c :: ds) t hds ht
        rw [List.cons_append] at hspan ⊢
        simp only [skipNumber, hc, hspan, startsWithDigit_append ds t ht, Bool.false_eq_true,
          if_false]
        rfl
      exact local_digits _ _ (c :: ds) t u rest
        (local_ite _ _ _ (local_failNext _ _) skipFraction_local) heq ht h

/-! ### Lists and objects -/

/-- A reader without fuel takes a text, and one with fuel takes it too. -/
def Follows (pass : Reader Unit) (other : Nat → Reader Unit) : Prop :=
  ∀ s rest, pass s = .ok ((), rest) →
    ∃ used, s = used ++ rest ∧ ∀ more, used.length < more → Takes Ends (other more) used ()

/-- Elements or members at the front of a text that are passed over in front of
    any other text as well, with enough fuel and enough steps. -/
def Repeats (pass : Nat → Nat → Reader Unit) (s rest : List Char) : Prop :=
  ∃ used, s = used ++ rest ∧ used ≠ [] ∧ ∀ more, used.length < more → ∀ u steps,
    (used ++ u).length < steps → pass more steps (used ++ u) = .ok ((), u)

/-- What stands behind an element or a member stands there in front of any other
    text. It begins with a comma or a bracket, so the value before it has ended. -/
theorem exists_behind (close : Char) (pass : Nat → Nat → Reader Unit) (s rest : List Char)
    (hclose : follows close = true)
    (h : skipSpace s = close :: rest ∨ ∃ t, skipSpace s = ',' :: t ∧ Repeats pass t rest) :
    ∃ used, s = used ++ rest ∧ used ≠ [] ∧ ∀ u, Ends (used ++ u) ∧
      ∀ more, used.length < more → Behind close (pass more) (used ++ u) u := by
  rcases h with hs | ⟨t, hs, used, rfl, _, hused⟩
  · rcases exists_blanks_cons s _ _ hs with ⟨blanks, rfl, hblanks⟩
    refine ⟨blanks ++ [close], by rw [List.append_assoc]; rfl,
      List.append_ne_nil_of_right_ne_nil _ (List.cons_ne_nil _ _), fun u => ?_⟩
    rw [List.append_assoc, List.singleton_append]
    exact ⟨ends_of_skipSpace _ _ _ (hblanks u) hclose, fun more _ => Or.inl (hblanks u)⟩
  · rcases exists_blanks_cons s _ _ hs with ⟨blanks, rfl, hblanks⟩
    refine ⟨blanks ++ ',' :: used, by rw [List.append_assoc, List.cons_append],
      List.append_ne_nil_of_right_ne_nil _ (List.cons_ne_nil _ _), fun u => ?_⟩
    rw [List.append_assoc, List.cons_append]
    refine ⟨ends_of_skipSpace _ _ _ (hblanks (used ++ u)) rfl, fun more hmore => ?_⟩
    rw [List.length_append, List.length_cons] at hmore
    exact Or.inr ⟨used ++ u, hblanks (used ++ u), hused more (by omega) u⟩

theorem skipElements_repeats (pass : Reader Unit) (other : Nat → Reader Unit)
    (hpass : Follows pass other) (hempty : ∀ more x, other more [] ≠ .ok x) (fuel : Nat)
    (s rest : List Char) (h : skipElements pass fuel s = .ok ((), rest)) :
    Repeats (fun more => skipElements (other more)) s rest := by
  induction fuel generalizing s with
  | zero => cases h
  | succ fuel ih =>
      rcases (bind_eq_ok _ _ _).mp h with ⟨⟨_, x⟩, hx, hbehind⟩
      rcases hpass s x hx with ⟨value, rfl, hvalue⟩
      -- The list is closed behind this element, or it goes on and is shorter.
      have hrest : skipSpace x = ']' :: rest ∨ ∃ y, skipSpace x = ',' :: y ∧
          Repeats (fun more => skipElements (other more)) y rest := by
        dsimp only at hbehind
        split at hbehind
        · cases hbehind
        · exact Or.inr ⟨_, ‹_›, ih _ hbehind⟩
        · rename_i y hy
          rcases Prod.mk.inj (Except.ok.inj hbehind) with ⟨_, rfl⟩
          exact Or.inl hy
        · cases hbehind
      rcases exists_behind ']' _ x rest rfl hrest with ⟨used, rfl, hne, hused⟩
      refine ⟨value ++ used, (List.append_assoc _ _ _).symm,
        List.append_ne_nil_of_right_ne_nil _ hne, fun more hmore u steps hsteps => ?_⟩
      rw [List.length_append] at hmore
      rw [List.append_assoc] at hsteps ⊢
      rcases hused u with ⟨hends, hmembers⟩
      have htaken := hvalue more (by omega) _ hends
      have hlength : (used ++ u).length < (value ++ (used ++ u)).length := by
        cases value with
        | nil => exact absurd (hvalue more (by omega) [] nofun) (hempty more _)
        | cons c value =>
            simp only [List.cons_append, List.length_cons, List.length_append]
            omega
      exact skipElements_of_behind _ _ _ u htaken hlength (hmembers more (by omega)) steps hsteps

theorem skipMembers_repeats (pass : Reader Unit) (other : Nat → Reader Unit)
    (hpass : Follows pass other) (fuel : Nat) (s rest : List Char)
    (h : skipMembers pass fuel s = .ok ((), rest)) :
    Repeats (fun more => skipMembers (other more)) s rest := by
  induction fuel generalizing s with
  | zero => cases h
  | succ fuel ih =>
      rw [skipMembers] at h
      split at h
      · cases h
      · rename_i key hkey
        rcases (bind_eq_ok _ _ _).mp h with ⟨⟨_, v⟩, hv, h⟩
        rcases (bind_eq_ok _ _ _).mp h with ⟨⟨_, w⟩, hw, h⟩
        rcases (bind_eq_ok _ _ _).mp h with ⟨⟨_, x⟩, hx, hbehind⟩
        -- One member is cut into its parts, each of which is passed in front of any rest.
        rcases exists_blanks_cons s _ _ hkey with ⟨front, rfl, hfront⟩
        rcases skipString_local key () v hv with ⟨name, rfl, hname⟩
        rcases memberColon_local v () w hw with ⟨colon, rfl, hcolon⟩
        rcases hpass w x hx with ⟨value, rfl, hvalue⟩
        clear h
        -- Behind it the brace comes, or a comma with more members.
        have hrest : skipSpace x = '\x7d' :: rest ∨ ∃ y, skipSpace x = ',' :: y ∧
            Repeats (fun more => skipMembers (other more)) y rest := by
          dsimp only at hbehind
          split at hbehind
          · cases hbehind
          · exact Or.inr ⟨_, ‹_›, ih _ hbehind⟩
          · rename_i y hy
            rcases Prod.mk.inj (Except.ok.inj hbehind) with ⟨_, rfl⟩
            exact Or.inl hy
          · cases hbehind
        rcases exists_behind '\x7d' _ x rest rfl hrest with ⟨used, rfl, hne, hused⟩
        refine ⟨front ++ '"' :: (name ++ (colon ++ (value ++ used))),
          by simp only [List.append_assoc, List.cons_append],
          List.append_ne_nil_of_right_ne_nil _ (List.cons_ne_nil _ _),
          fun more hmore u steps hsteps => ?_⟩
        simp only [List.length_append, List.length_cons] at hmore
        simp only [List.append_assoc, List.cons_append] at hsteps ⊢
        rcases hused u with ⟨hends, hmembers⟩
        have htaken := hvalue more (by omega) _ hends
        -- The text behind is shorter, so steps that are enough for the whole are for it.
        have hlength : (used ++ u).length <
            (front ++ '"' :: (name ++ (colon ++ (value ++ (used ++ u))))).length := by
          simp only [List.length_append, List.length_cons]
          omega
        exact skipMembers_of_behind _ _ _ _ _ _ u (hfront _) (hname _ trivial) (hcolon _ trivial)
          htaken hlength (hmembers more (by omega)) steps hsteps
      · cases h

/-! ### Values -/

/-- A text is passed over up to a place, with more fuel than characters are
    taken. -/
def Passed (s rest : List Char) : Prop :=
  ∃ used, s = used ++ rest ∧ ∀ more, used.length < more → Takes Ends (skipValue more) used ()

theorem skipValue_nil (fuel : Nat) (x : Unit × List Char) : skipValue fuel [] ≠ .ok x := by
  cases fuel <;> rintro ⟨⟩

theorem passed_of_skipSpace (s rest : List Char) (h : Passed (skipSpace s) rest) :
    Passed s rest := by
  rcases h with ⟨used, hs, htakes⟩
  rcases exists_blanks s with ⟨blanks, hblanks, hspace⟩
  refine ⟨blanks ++ used, ?_, fun more hmore rest' hrest => ?_⟩
  · rw [List.append_assoc, ← hs]
    exact hblanks
  · rw [List.length_append] at hmore
    rw [List.append_assoc, ← skipValue_skipSpace, skipSpace_append blanks _ hspace,
      skipValue_skipSpace]
    exact htakes more (by omega) rest' hrest

/-- A value that is passed over by another reader behind a fixed front. -/
theorem passed_extend (next : Reader Unit) (front s rest : List Char) (hnext : Local Ends next)
    (heq : ∀ more t, skipValue (more + 1) (front ++ t) = next t) (h : next s = .ok ((), rest)) :
    Passed (front ++ s) rest := by
  rcases hnext s () rest h with ⟨used, rfl, htakes⟩
  refine ⟨front ++ used, (List.append_assoc _ _ _).symm, fun more hmore rest' hrest => ?_⟩
  cases more with
  | zero => exact absurd hmore (Nat.not_lt_zero _)
  | succ more =>
      rw [List.append_assoc, heq]
      exact htakes rest' hrest

/-- A number without a sign starts with its first digit. -/
theorem passed_digit (c : Char) (s rest : List Char) (hc : c.isDigit = true)
    (h : skipNumber (c :: s) = .ok ((), rest)) : Passed (c :: s) rest := by
  have heq := fun t => (skipValue_digit 0 c t hc)
  rcases local_of_cons (skipValue 1) skipNumber c s () rest skipNumber_local nofun heq
    ((heq s).trans h) with ⟨used, hused, htakes⟩
  refine ⟨used, hused, fun more hmore rest' hrest => ?_⟩
  cases more with
  | zero => exact absurd hmore (Nat.not_lt_zero _)
  | succ more =>
      cases used with
      | nil => exact absurd (htakes [] nofun) nofun
      | cons d used =>
          rcases (List.cons.inj hused).1 with rfl
          rw [List.cons_append, skipValue_digit more c _ hc, ← heq]
          exact htakes rest' hrest

theorem passed_enclosed (front close : Char) (block : Reader Unit → Nat → Reader Unit)
    (hblock : Encloses front close block) (fuel : Nat)
    (hinside : ∀ steps s rest, block (skipValue fuel) steps s = .ok ((), rest) →
      Repeats (fun more => block (skipValue more)) s rest)
    (s rest : List Char) (h : skipValue (fuel + 1) (front :: s) = .ok ((), rest)) :
    Passed (front :: s) rest := by
  cases hs : skipSpace s with
  | nil => exact absurd h (hblock.cut fuel s rest hs)
  | cons c t =>
      rcases exists_blanks_cons s c t hs with ⟨blanks, rfl, hblanks⟩
      by_cases hc : c = close
      · rcases hc with rfl
        rw [hblock.closed fuel _ t hs] at h
        rcases Prod.mk.inj (Except.ok.inj h) with ⟨_, rfl⟩
        refine ⟨front :: (blanks ++ [c]),
          by simp only [List.cons_append, List.append_assoc, List.nil_append],
          fun more hmore u _ => ?_⟩
        cases more with
        | zero => exact absurd hmore (Nat.not_lt_zero _)
        | succ more =>
            rw [List.cons_append, List.append_assoc, List.singleton_append]
            exact hblock.closed more _ u (hblanks u)
      · rw [hblock.inside fuel _ c t hs hc] at h
        rcases hinside _ _ rest h with ⟨used, hused, hne, htakes⟩
        cases used with
        | nil => exact absurd rfl hne
        | cons d used =>
            rw [List.cons_append] at hused
            rcases List.cons.inj hused with ⟨rfl, rfl⟩
            refine ⟨front :: (blanks ++ c :: used),
              by simp only [List.cons_append, List.append_assoc], fun more hmore u _ => ?_⟩
            cases more with
            | zero => exact absurd hmore (Nat.not_lt_zero _)
            | succ more =>
                simp only [List.length_cons, List.length_append] at hmore
                rw [List.cons_append, List.append_assoc, List.cons_append,
                  hblock.inside more _ c (used ++ u) (hblanks _) hc]
                -- The count of steps starts anew with the text behind the bracket.
                refine htakes more ?_ u _ (Nat.lt_succ_self _)
                rw [List.length_cons]
                omega

/-- A value that is passed over, by induction on the fuel, which bounds its
    nesting. -/
theorem skipValue_takes (fuel : Nat) (s rest : List Char)
    (h : skipValue fuel s = .ok ((), rest)) : Passed s rest := by
  induction fuel generalizing s rest with
  | zero => cases h
  | succ fuel ih =>
      refine passed_of_skipSpace s rest ?_
      rw [← skipValue_skipSpace] at h
      generalize hs : skipSpace s = v at h ⊢
      have hread := h
      rw [skipValue, ← hs, skipSpace_skipSpace, hs] at h
      -- One case for each first character, and the induction for the brackets.
      split at h
      · cases h
      · exact passed_extend _ ['n'] _ rest (word_local _) (fun _ _ => rfl) h
      · exact passed_extend _ ['t'] _ rest (word_local _) (fun _ _ => rfl) h
      · exact passed_extend _ ['f'] _ rest (word_local _) (fun _ _ => rfl) h
      · exact passed_extend _ ['-'] _ rest skipNumber_local (fun _ _ => rfl) h
      · exact passed_extend _ ['"'] _ rest (local_of_any _ skipString_local) (fun _ _ => rfl) h
      · exact passed_enclosed _ _ _ encloses_list fuel
          (skipElements_repeats _ _ ih skipValue_nil) _ rest hread
      · exact passed_enclosed _ _ _ encloses_object fuel (skipMembers_repeats _ _ ih) _ rest hread
      · rename_i c t _ _ _ _ _ _ _
        split_ifs at h with hc
        · exact passed_digit c t rest hc h
        · cases h

/-- Passing over a value is local where it ends. -/
theorem skip_local : Local Ends skip := by
  intro s u rest h
  rcases skipValue_takes _ s rest h with ⟨used, hs, htakes⟩
  refine ⟨used, hs, fun rest' hrest => htakes _ ?_ rest' hrest⟩
  rw [List.length_append]
  omega

/-! ### Fuel -/

theorem skipElements_of_pass (pass other : Reader Unit)
    (hother : ∀ s x, pass s = .ok x → other s = .ok x) (fuel : Nat) (s : List Char)
    (x : Unit × List Char) (h : skipElements pass fuel s = .ok x) :
    skipElements other fuel s = .ok x := by
  induction fuel generalizing s with
  | zero => cases h
  | succ fuel ih =>
      rcases (bind_eq_ok _ _ _).mp h with ⟨⟨_, t⟩, ht, hbehind⟩
      simp only [skipElements, hother s _ ht, bind, Except.bind]
      dsimp only at hbehind
      split at hbehind
      · cases hbehind
      · exact ih _ hbehind
      · exact hbehind
      · cases hbehind

theorem skipMembers_of_pass (pass other : Reader Unit)
    (hother : ∀ s x, pass s = .ok x → other s = .ok x) (fuel : Nat) (s : List Char)
    (x : Unit × List Char) (h : skipMembers pass fuel s = .ok x) :
    skipMembers other fuel s = .ok x := by
  induction fuel generalizing s with
  | zero => cases h
  | succ fuel ih =>
      rw [skipMembers] at h
      split at h
      · cases h
      · rename_i key hkey
        rcases (bind_eq_ok _ _ _).mp h with ⟨⟨_, v⟩, hv, h⟩
        rcases (bind_eq_ok _ _ _).mp h with ⟨⟨_, w⟩, hw, h⟩
        rcases (bind_eq_ok _ _ _).mp h with ⟨⟨_, t⟩, ht, hbehind⟩
        simp only [skipMembers, hkey, hv, hw, hother w _ ht, bind, Except.bind]
        dsimp only at hbehind
        split at hbehind
        · cases hbehind
        · exact ih _ hbehind
        · exact hbehind
        · cases hbehind
      · cases h

theorem skipValue_enclosed_of_pass (front close : Char) (block : Reader Unit → Nat → Reader Unit)
    (hblock : Encloses front close block) (fuel more : Nat)
    (hmore : ∀ steps s x, block (skipValue fuel) steps s = .ok x →
      block (skipValue more) steps s = .ok x) (s : List Char) (x : Unit × List Char)
    (h : skipValue (fuel + 1) (front :: s) = .ok x) :
    skipValue (more + 1) (front :: s) = .ok x := by
  cases hs : skipSpace s with
  | nil => exact absurd h (hblock.cut fuel s x.2 hs)
  | cons c t =>
      by_cases hc : c = close
      · rw [hblock.closed fuel s t (hc ▸ hs)] at h
        rw [hblock.closed more s t (hc ▸ hs)]
        exact h
      · rw [hblock.inside fuel s c t hs hc] at h
        rw [hblock.inside more s c t hs hc]
        exact hmore _ _ x h

/-- More fuel does not matter, by induction on the fuel there was. -/
theorem skipValue_mono (fuel more : Nat) (hle : fuel ≤ more) (s : List Char)
    (x : Unit × List Char) (h : skipValue fuel s = .ok x) : skipValue more s = .ok x := by
  induction fuel generalizing more s x with
  | zero => cases h
  | succ fuel ih =>
      cases more with
      | zero => exact absurd hle (Nat.not_succ_le_zero _)
      | succ more =>
          have hbelow := ih more (Nat.le_of_succ_le_succ hle)
          rw [← skipValue_skipSpace] at h ⊢
          generalize hs : skipSpace s = v at h ⊢
          have hread := h
          rw [skipValue, ← hs, skipSpace_skipSpace, hs] at h
          -- Only lists and objects hand the fuel on; a scalar is passed without it.
          split at h
          · cases h
          · exact h
          · exact h
          · exact h
          · exact h
          · exact h
          · exact skipValue_enclosed_of_pass _ _ _ encloses_list fuel more
              (skipElements_of_pass _ _ hbelow) _ x hread
          · exact skipValue_enclosed_of_pass _ _ _ encloses_object fuel more
              (skipMembers_of_pass _ _ hbelow) _ x hread
          · split_ifs at h with hc
            · rw [skipValue_digit more _ _ hc]
              exact h
            · cases h

end Json

end StreamRoster
