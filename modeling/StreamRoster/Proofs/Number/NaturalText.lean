import Mathlib.Data.List.TakeWhile
import StreamRoster.Number.Unsigned
import StreamRoster.Proofs.Json.Rereading
import StreamRoster.Proofs.Time.TimestampText
import StreamRoster.Text.Blank

/-!
# The Text of a Natural

Which texts are read as a natural, and as which one.

There are two readers of naturals. One reads the integers among the number
tokens of JSON, the other reads what a person or a server wrote into a string.
They share their digits and the limit of 64 bits, and nothing else: leading
zeros and a plus sign are for strings only. Each reader keeps a running value
below the limit and stops where the next digit would reach it. What is said
here is said about the value of all digits, so it has to be seen that the
running value never exceeds that (`Json.le_ofDigitChars`), and that a reader
which stopped early has not read an integer at all.

A number token with a fraction or an exponent is a float, whatever its value
is, and so is a token of too many digits. `Json.Floating` says it of the parts of
a number.

## Main definitions

* `Unsigned.Written`: A natural written with an optional plus sign.
* `Json.Floating`: A reader whose numbers are floats.

## Theorems

* `Text.exists_padding`, `Text.trim_padded`: What is taken off a text.
* `Unsigned.read_eq_ok_iff`: The texts that are read as a natural.
* `Json.number_eq_integer_iff`: The tokens that are read as an integer.
* `Json.negative_of_number`: Behind a minus sign there is no natural.
-/

namespace StreamRoster

namespace Text

/-! ### White space -/

/-- What is taken off a text is white space. -/
theorem exists_padding (s : List Char) :
    ∃ front behind, s = front ++ (trim s ++ behind) ∧ (∀ c ∈ front, isBlank c = true) ∧
      ∀ c ∈ behind, isBlank c = true := by
  refine ⟨s.takeWhile isBlank, ((trimStart s).reverse.takeWhile isBlank).reverse, ?_,
    fun c hc => List.mem_takeWhile_imp hc, fun c hc => ?_⟩
  · have hend : trim s ++ ((trimStart s).reverse.takeWhile isBlank).reverse = trimStart s := by
      rw [trim, dropEndWhile, ← List.reverse_append, List.takeWhile_append_dropWhile,
        List.reverse_reverse]
    rw [hend, trimStart, List.takeWhile_append_dropWhile]
  · exact List.mem_takeWhile_imp (List.mem_reverse.mp hc)

/-- White space around a text without any is taken off. -/
theorem trim_padded (front core behind : List Char) (hfront : ∀ c ∈ front, isBlank c = true)
    (hcore : ∀ c ∈ core, isBlank c = false) (hbehind : ∀ c ∈ behind, isBlank c = true) :
    trim (front ++ (core ++ behind)) = core := by
  have hsolid : core.reverse.dropWhile isBlank = core.reverse :=
    List.dropWhile_eq_self_iff.mpr fun hlength => ne_true_of_eq_false
      (hcore _ (List.mem_reverse.mp (List.getElem_mem hlength)))
  have hend : dropEndWhile isBlank (core ++ behind) = core := by
    rw [dropEndWhile, List.reverse_append, List.dropWhile_append_of_pos
      (fun c hc => hbehind c (List.mem_reverse.mp hc)), hsolid, List.reverse_reverse]
  rw [trim, trimStart, List.dropWhile_append_of_pos hfront]
  cases core with
  | nil =>
      have hall : behind.dropWhile isBlank = [] := List.dropWhile_eq_nil_iff.mpr hbehind
      rw [List.nil_append, hall]
      rfl
  | cons c core =>
      have hc := ne_true_of_eq_false (hcore c List.mem_cons_self)
      rw [List.cons_append, List.dropWhile_cons_of_neg hc, ← List.cons_append, hend]

end Text

/-- The value of a digit is appended to a natural as the last one. -/
theorem FloatText.append_digitValue (n : Nat) (d : Char) :
    n * 10 + digitValue d = 10 * n + (d.toNat - '0'.toNat) := by
  rw [digitValue, Nat.mul_comm]

/-! ### Naturals in strings -/

namespace Unsigned

/-- A natural in decimal digits behind an optional plus sign. Any number of
    zeros may stand in front. -/
def Written (s : List Char) (n : Nat) : Prop :=
  ∃ sign ds, s = sign ++ ds ∧ (sign = [] ∨ sign = ['+']) ∧ ds ≠ [] ∧
    (∀ c ∈ ds, c.isDigit = true) ∧ Nat.ofDigitChars 10 ds 0 = n

/-- A natural in digits alone. -/
theorem written_digits (s : List Char) (n : Nat) (hne : s ≠ [])
    (hdigits : s.all Char.isDigit = true) (hn : Nat.ofDigitChars 10 s 0 = n) : Written s n :=
  ⟨[], s, rfl, Or.inl rfl, hne, List.all_eq_true.mp hdigits, hn⟩

/-- Digits are read as their value if that is below the limit, by induction on
    the digits. The running value starts below the limit. -/
theorem readDigits_eq_ok_iff (limit n : Nat) (s : List Char) (m : Nat) (hn : n < limit) :
    readDigits limit n s = .ok m ↔
      (∀ c ∈ s, c.isDigit = true) ∧ Nat.ofDigitChars 10 s n = m ∧ m < limit := by
  induction s generalizing n with
  | nil =>
      rw [readDigits]
      refine ⟨fun h => ?_, fun h => congrArg Except.ok h.2.1⟩
      rcases Except.ok.inj h with rfl
      exact ⟨nofun, rfl, hn⟩
  | cons c s ih =>
      rw [readDigits, List.forall_mem_cons, Nat.ofDigitChars_cons,
        ← FloatText.append_digitValue n c]
      by_cases hc : c.isDigit = true
      · rw [if_neg (by simp only [hc, Bool.not_true, Bool.false_eq_true, not_false_eq_true])]
        dsimp only
        split_ifs with hlt
        · rw [ih _ hlt]
          simp only [hc, true_and]
        · -- More digits only make the value larger.
          refine iff_of_false nofun fun h => hlt ?_
          have hle := Json.le_ofDigitChars (n * 10 + FloatText.digitValue c) s
          rcases h with ⟨_, rfl, hm⟩
          exact Nat.lt_of_le_of_lt hle hm
      · rw [if_pos (by simp only [hc, Bool.not_false])]
        exact iff_of_false nofun fun h => hc h.1.1

theorem read_eq_readDigits (limit : Nat) (s : List Char) (hne : s ≠ [])
    (hplus : ∀ t, s ≠ '+' :: t) : read limit s = readDigits limit 0 s := by
  rw [read.eq_def]
  split
  · exact absurd rfl hne
  · exact absurd rfl (hplus _)
  · exact absurd rfl (hplus _)
  · rfl

theorem read_plus (limit : Nat) (s : List Char) (hne : s ≠ []) :
    read limit ('+' :: s) = readDigits limit 0 s := by
  cases s with
  | nil => exact absurd rfl hne
  | cons c s => rfl

theorem ne_plus_of_digits (ds : List Char) (hds : ∀ c ∈ ds, c.isDigit = true) (t : List Char) :
    ds ≠ '+' :: t := by
  rintro rfl
  exact absurd (hds '+' List.mem_cons_self) nofun

/-- A text is read as a natural if it is one that is written down, below the
    limit. -/
theorem read_eq_ok_iff (limit : Nat) (s : List Char) (n : Nat) (hlimit : 0 < limit) :
    read limit s = .ok n ↔ Written s n ∧ n < limit := by
  have hdigits := fun ds => readDigits_eq_ok_iff limit 0 ds n hlimit
  refine ⟨fun h => ?_, fun h => ?_⟩
  · have hshape : (∃ sign ds, s = sign ++ ds ∧ (sign = [] ∨ sign = ['+']) ∧ ds ≠ [] ∧
        readDigits limit 0 ds = .ok n) := by
      rw [read.eq_def] at h
      split at h
      · cases h
      · cases h
      · rename_i t hne
        exact ⟨['+'], t, rfl, Or.inr rfl, hne, h⟩
      · rename_i hne _ _
        exact ⟨[], s, rfl, Or.inl rfl, hne, h⟩
    rcases hshape with ⟨sign, ds, rfl, hsign, hne, hread⟩
    rcases (hdigits ds).mp hread with ⟨hds, hvalue, hlt⟩
    exact ⟨⟨sign, ds, rfl, hsign, hne, hds, hvalue⟩, hlt⟩
  · rcases h with ⟨⟨sign, ds, rfl, hsign, hne, hds, hvalue⟩, hlt⟩
    have hread := (hdigits ds).mpr ⟨hds, hvalue, hlt⟩
    rcases hsign with rfl | rfl
    · rw [List.nil_append, read_eq_readDigits limit ds hne (ne_plus_of_digits ds hds), hread]
    · rw [List.singleton_append, read_plus limit ds hne, hread]

end Unsigned

/-! ### Integers among the numbers -/

namespace Json

/-- Only digits whose value fits 64 bits are all taken. -/
theorem takeDigits_all (n : Nat) (ds : List Char) (m k : Nat) (hn : n < Number.limit)
    (h : takeDigits n ds = (m, k, [])) :
    m = Nat.ofDigitChars 10 ds n ∧ m < Number.limit := by
  induction ds generalizing n k with
  | nil =>
      rcases Prod.mk.inj h with ⟨rfl, _⟩
      exact ⟨rfl, hn⟩
  | cons d ds ih =>
      rw [takeDigits] at h
      dsimp only at h
      split_ifs at h with hlt
      · rw [Nat.ofDigitChars_cons, ← FloatText.append_digitValue]
        rcases htaken : takeDigits (n * 10 + FloatText.digitValue d) ds with ⟨v, count, left⟩
        rw [htaken] at h
        simp only [Prod.mk.injEq] at h
        rcases h with ⟨rfl, _, rfl⟩
        exact ih _ count hlt htaken
      · cases (Prod.mk.inj (Prod.mk.inj h).2).2

/-- A reader whose numbers are floats. -/
def Floating (read : Reader Number) : Prop :=
  ∀ s n rest, read s ≠ .ok (.integer n, rest)

theorem floating_float (negative : Bool) (digits : Nat) (e : Int) :
    Floating (float negative digits e) := by
  intro s n rest h
  rw [float] at h
  split at h
  · cases h
  · cases h

theorem floating_exponentDigits (negative : Bool) (digits : Nat) (start : Int) (down : Bool) :
    Floating (exponentDigits negative digits start down) := by
  intro s n rest h
  rw [exponentDigits.eq_def] at h
  split at h
  · cases h
  · rename_i c s
    rcases hexponent : takeExponent 0 (spanDigits (c :: s)).1 with ⟨e, left⟩
    simp only [hexponent] at h
    -- Digits are left only where the exponent is too large, and then no value is counted.
    cases left with
    | nil =>
        split_ifs at h
        · cases h
        all_goals exact floating_float _ _ _ _ n rest h
    | cons d left =>
        split_ifs at h
        all_goals cases h

theorem floating_exponent (negative : Bool) (digits : Nat) (start : Int) :
    Floating (exponent negative digits start) := by
  intro s n rest h
  rw [exponent.eq_def] at h
  split at h
  all_goals exact floating_exponentDigits _ _ _ _ _ n rest h

theorem floating_afterFraction (negative : Bool) (digits : Nat) (start : Int) :
    Floating (afterFraction negative digits start) := by
  intro s n rest h
  rw [afterFraction.eq_def] at h
  split at h
  · exact floating_exponent _ _ _ _ n rest h
  · exact floating_exponent _ _ _ _ n rest h
  · exact floating_float _ _ _ _ n rest h

theorem floating_fraction (negative : Bool) (digits : Nat) (start : Int) :
    Floating (fraction negative digits start) := by
  intro s n rest h
  rw [fraction] at h
  dsimp only at h
  split at h
  · cases h
  · cases h
  · exact floating_afterFraction _ _ _ _ n rest h

/-- An integer has neither a fraction nor an exponent, and all its digits fit
    64 bits. -/
theorem integer_of_afterWhole (negative : Bool) (digits : Nat) (left s : List Char) (n : Int)
    (rest : List Char) (h : afterWhole negative digits left s = .ok (.integer n, rest)) :
    left = [] ∧ rest = s ∧ Number.ofDigits negative digits = .integer n := by
  rw [afterWhole.eq_def] at h
  split at h
  · exact absurd h (floating_fraction _ _ _ _ n rest)
  · exact absurd h (floating_exponent _ _ _ _ n rest)
  · exact absurd h (floating_exponent _ _ _ _ n rest)
  · split_ifs at h with hleft
    · rcases Prod.mk.inj (Except.ok.inj h) with ⟨hn, rfl⟩
      exact ⟨List.isEmpty_iff.mp hleft, rfl, hn⟩
    · exact absurd h (floating_float _ _ _ _ n rest)

/-- The digits of an integer, and what they make of it. -/
theorem digits_of_number (negative : Bool) (s : List Char) (n : Int) (rest : List Char)
    (h : number negative s = .ok (.integer n, rest)) :
    ∃ ds m, s = ds ++ rest ∧ Whole ds ∧ Nat.ofDigitChars 10 ds 0 = m ∧ m < Number.limit ∧
      Number.ofDigits negative m = .integer n := by
  rcases exists_digits s with ⟨ds, t, rfl, hds, ht⟩
  have hspan := spanDigits_append ds t hds ht
  cases ds with
  | nil =>
      cases t with
      | nil => cases h
      | cons c t =>
          have hc : (!c.isDigit) = true := congrArg not ht
          rw [List.nil_append, number, if_pos hc] at h
          cases h
  | cons c ds =>
      have hc : (!c.isDigit) = false := congrArg not (hds c List.mem_cons_self)
      rw [List.cons_append] at h hspan
      rw [number, if_neg (ne_true_of_eq_false hc)] at h
      dsimp only at h
      split_ifs at h with hzero
      · cases h
      rcases htaken : takeDigits 0 (c :: ds) with ⟨m, k, left⟩
      rw [hspan] at h
      dsimp only at h
      rw [htaken] at h
      rcases integer_of_afterWhole _ _ _ _ n rest h with ⟨rfl, rfl, hn⟩
      rcases takeDigits_all 0 (c :: ds) m k (by decide) htaken with ⟨hm, hlt⟩
      refine ⟨c :: ds, m, rfl, ⟨hds, List.cons_ne_nil c ds, fun u hu => ?_⟩, hm.symm, hlt, hn⟩
      -- Behind a leading zero no digit may follow.
      rcases List.cons.inj hu with ⟨rfl, rfl⟩
      rw [decide_eq_true rfl, Bool.true_and, startsWithDigit_append ds _ ht] at hzero
      cases ds with
      | nil => rfl
      | cons d ds => exact absurd (hds d (List.mem_cons_of_mem _ List.mem_cons_self)) hzero

/-- A number token without a sign is the integer `n` if it is the digits of `n`,
    and `n` fits 64 bits. -/
theorem number_eq_integer_iff (s : List Char) (n : Nat) :
    number false s = .ok (.integer n, []) ↔
      Whole s ∧ Nat.ofDigitChars 10 s 0 = n ∧ n < Number.limit := by
  refine ⟨fun h => ?_, fun h => ?_⟩
  · rcases digits_of_number false s n [] h with ⟨ds, m, rfl, hwhole, hm, hlt, hn⟩
    rcases Int.ofNat.inj (Number.integer.inj hn) with rfl
    rw [List.append_nil]
    exact ⟨hwhole, hm, hlt⟩
  · rcases h with ⟨hwhole, rfl, hlt⟩
    exact number_whole false s hwhole hlt

/-- Behind a minus sign there is no natural, and no zero either. -/
theorem negative_of_number (s : List Char) (n : Int) (rest : List Char)
    (h : number true s = .ok (.integer n, rest)) : n < 0 := by
  rcases digits_of_number true s n rest h with ⟨ds, m, _, _, _, _, hn⟩
  rw [Number.ofDigits, if_neg (by decide)] at hn
  split_ifs at hn with hfloat
  simp only [Bool.or_eq_true, decide_eq_true_eq, not_or] at hfloat
  rcases Number.integer.inj hn with rfl
  omega

end Json

end StreamRoster
