import StreamRoster.Json.Writer
import StreamRoster.Proofs.Json.Rereading

/-!
# The Text of a Float

The text of every float is a well-formed number, or `null`.

A number must not start with a zero that is followed by another digit, so the
digits of the shortest decimal must not either. They do not as long as they make
a natural that is not zero: `shortest_pos` says that the search for the shortest
decimal never ends at zero, since zero lies below every interval of a number
that is not zero, and since the last grid that is searched is finer than the
number. The rest is the layout of digits around the point.

## Theorems

* `Decimal.shortest_pos`: The shortest decimal has digits.
* `Json.skipNumber_point`, `Json.skipNumber_exponent`: The parts of a number.
* `Json.skip_writeDouble`: The text of a float is passed over.
-/

namespace StreamRoster

namespace Decimal

/-! ### Shortest decimals have digits -/

theorem ratio_pos (m : Nat) (e : Int) (hm : 0 < m) :
    0 < (Double.ratio m e).1 ∧ 0 < (Double.ratio m e).2 := by
  cases e with
  | ofNat k => exact ⟨Nat.mul_pos hm (Nat.pow_pos (by decide)), Nat.one_pos⟩
  | negSucc k => exact ⟨hm, Nat.pow_pos (by decide)⟩

/-- Zero lies below every interval. -/
theorem holds_zero (i : Interval) (j : Int) (h : 0 < i.lower.1) : i.holds 0 j = false := by
  have hbelow : compareGrid 0 j i.lower.1 i.lower.2 = .lt := by
    cases j with
    | ofNat k =>
        simp only [compareGrid, Nat.zero_mul]
        exact Nat.compare_eq_lt.mpr h
    | negSucc k =>
        simp only [compareGrid, Nat.zero_mul]
        exact Nat.compare_eq_lt.mpr (Nat.mul_pos h (Nat.pow_pos (by decide)))
  rw [Interval.holds, hbelow]

theorem pos_of_holds (i : Interval) (c : Nat) (j : Int) (h : 0 < i.lower.1)
    (hholds : i.holds c j = true) : 0 < c := by
  refine Nat.pos_of_ne_zero fun hzero => ?_
  rw [hzero, holds_zero i j h] at hholds
  cases hholds

theorem neighbour?_pos (i : Interval) (j : Int) (c : Nat) (h : 0 < i.lower.1)
    (hc : i.neighbour? j = some c) : 0 < c := by
  unfold Interval.neighbour? at hc
  dsimp only at hc
  split at hc
  · cases hc
  · rename_i hbelow _
    rcases Option.some.inj hc with rfl
    exact pos_of_holds i _ j h hbelow
  · rcases Option.some.inj hc with rfl
    exact Nat.succ_pos _
  · rename_i hbelow _
    have hpos := pos_of_holds i _ j h hbelow
    split at hc
    all_goals
      rcases Option.some.inj hc with rfl
      omega

theorem lt_pow_of_digitCount (n k : Nat) (hk : 0 < k) (h : digitCount n ≤ k) : n < Nat.pow 10 k :=
  (Nat.length_toDigits_le_iff (by decide) hk).mp h

theorem pow_le_of_digitCount (n k : Nat) (hn : 0 < n) (h : k < digitCount n) :
    Nat.pow 10 k ≤ n := by
  cases k with
  | zero => exact hn
  | succ k =>
      refine Nat.le_of_not_lt fun hlt => Nat.not_le_of_lt h ?_
      exact (Nat.length_toDigits_le_iff (by decide) (Nat.succ_pos k)).mpr hlt

/-- A power of ten up to the magnitude of a number is no larger than the number. -/
theorem gridFloor_pos (j : Int) (num den : Nat) (hnum : 0 < num) (hden : 0 < den)
    (hj : j ≤ magnitude num den) : 0 < gridFloor j num den := by
  have hten : ∀ k, 0 < Nat.pow 10 k := fun k => Nat.pow_pos (by decide)
  unfold magnitude at hj
  split_ifs at hj with hge
  · -- At least one: the magnitude counts the digits of the quotient.
    have hquotient : 0 < num / den := Nat.div_pos hge hden
    cases j with
    | ofNat k =>
        rw [Int.ofNat_eq_natCast] at hj
        have hpow := pow_le_of_digitCount (num / den) k hquotient (by omega)
        rw [gridFloor, ← Nat.div_div_eq_div_mul]
        exact Nat.div_pos hpow (hten k)
    | negSucc k =>
        rw [gridFloor]
        exact Nat.div_pos (hge.trans (Nat.le_mul_of_pos_right num (hten _))) hden
  · -- Below one: the quotient that is taken is the next natural above `den / num`.
    have hcount : 0 < digitCount ((den + num - 1) / num - 1) := Nat.length_toDigits_pos
    cases j with
    | ofNat k =>
        rw [Int.ofNat_eq_natCast] at hj
        omega
    | negSucc k =>
        have hpow := lt_pow_of_digitCount ((den + num - 1) / num - 1) (k + 1) (Nat.succ_pos k)
          (by omega)
        rw [gridFloor]
        have habove := Nat.lt_mul_div_succ (den + num - 1) hnum
        generalize Nat.pow 10 (k + 1) = power at hpow ⊢
        have hscaled : num * ((den + num - 1) / num + 1) ≤ num * (power + 1) :=
          Nat.mul_le_mul_left num (by omega)
        rw [Nat.mul_add num power 1] at hscaled
        exact Nat.div_pos (by omega) hden

theorem stripZeros_pos (fuel n : Nat) (hn : 0 < n) : 0 < (stripZeros fuel n).1 := by
  induction fuel generalizing n with
  | zero => exact hn
  | succ fuel ih =>
      rw [stripZeros]
      split_ifs with hzero
      · exact ih (n / 10) (by omega)
      · exact hn

theorem search_pos (i : Interval) (e : Int) (h : 0 < i.lower.1)
    (hfloor : ∀ j ≤ e, 0 < gridFloor j i.value.1 i.value.2) (fuel count : Nat)
    (hcount : 1 ≤ count) :
    0 < (search i e fuel count).digits := by
  induction fuel generalizing count with
  | zero =>
      -- All seventeen digits are tried, and the grid is finer than the number.
      exact stripZeros_pos _ _ (hfloor _ (by omega))
  | succ fuel ih =>
      rw [search]
      split
      · rename_i c hc
        exact stripZeros_pos _ _ (neighbour?_pos i _ c h hc)
      · exact ih (count + 1) (Nat.le_add_left 1 count)

/-- The shortest decimal of a number that is not zero is not zero. -/
theorem shortest_pos (significand : Nat) (exponent : Int) (h : 0 < significand) :
    0 < (shortest significand exponent).digits := by
  have hlower : 0 < (Interval.of significand exponent).lower.1 := by
    refine (ratio_pos _ _ ?_).1
    split_ifs <;> omega
  have hvalue := ratio_pos (4 * significand) (exponent - 2) (by omega)
  exact search_pos _ _ hlower (fun j hj => gridFloor_pos j _ _ hvalue.1 hvalue.2 hj) 17 1
    (Nat.le_refl 1)

end Decimal

namespace Json

/-! ### Number texts -/

/-- Passing over a number without a fraction comes to its exponent. -/
theorem skipNumber_exponent (ds s : List Char) (h : Whole ds) :
    skipNumber (ds ++ 'e' :: s) = skipExponent s := by
  have hspan := spanDigits_append ds ('e' :: s) h.digits rfl
  cases ds with
  | nil => exact absurd rfl h.ne_nil
  | cons c ds =>
      have hc := h.digits c List.mem_cons_self
      have hlead := h.startsWithDigit c ds ('e' :: s) rfl
      rw [List.cons_append] at hspan ⊢
      simp only [skipNumber, hc, Bool.not_true, Bool.false_eq_true, if_false, hlead, hspan]
      rfl

/-- Passing over a number with a fraction comes to what stands behind that. -/
theorem skipNumber_point (ds fs s : List Char) (h : Whole ds) (hne : fs ≠ [])
    (hfs : ∀ c ∈ fs, c.isDigit = true) (hs : startsWithDigit s = false) :
    skipNumber (ds ++ '.' :: (fs ++ s)) = skipExponentPart s := by
  have hspan := spanDigits_append ds ('.' :: (fs ++ s)) h.digits rfl
  have hfraction := spanDigits_append fs s hfs hs
  have hstarts : startsWithDigit (fs ++ s) = true := by
    cases fs with
    | nil => exact absurd rfl hne
    | cons c fs => exact hfs c List.mem_cons_self
  cases ds with
  | nil => exact absurd rfl h.ne_nil
  | cons c ds =>
      have hc := h.digits c List.mem_cons_self
      have hlead := h.startsWithDigit c ds ('.' :: (fs ++ s)) rfl
      rw [List.cons_append] at hspan ⊢
      simp only [skipNumber, hc, Bool.not_true, Bool.false_eq_true, if_false, hlead, hspan, hstarts,
        if_true, hfraction]

/-- An exponent is written with its sign. -/
theorem skipExponent_written (sign : Char) (hsign : sign = '+' ∨ sign = '-') (n : Nat) :
    skipExponent (sign :: Nat.toDigits 10 n) = .ok ((), []) := by
  have hwhole := whole_toDigits n
  have hspan := spanDigits_append (Nat.toDigits 10 n) [] hwhole.digits rfl
  have hstarts : startsWithDigit (Nat.toDigits 10 n) = true := by
    cases htext : Nat.toDigits 10 n with
    | nil => exact absurd htext Nat.toDigits_ne_nil
    | cons c cs => exact hwhole.digits c (htext ▸ List.mem_cons_self)
  have hdigits : skipExponentDigits (Nat.toDigits 10 n) = .ok ((), []) := by
    rw [List.append_nil] at hspan
    rw [skipExponentDigits, if_pos hstarts, hspan]
  rcases hsign with rfl | rfl
  · exact hdigits
  · exact hdigits

theorem isDigit_of_mem_zeros (k : Nat) (c : Char) (hc : c ∈ List.replicate k '0') :
    c.isDigit = true := by
  rw [List.eq_of_mem_replicate hc]
  rfl

theorem whole_take (ds : List Char) (n : Nat) (h : Whole ds) : Whole (ds.take (n + 1)) where
  digits c hc := h.digits c (List.mem_of_mem_take hc)
  ne_nil hnil := by
    rcases List.take_eq_nil_iff.mp hnil with hzero | hds
    · exact Nat.succ_ne_zero n hzero
    · exact h.ne_nil hds
  lead u hu := by
    cases ds with
    | nil => exact absurd rfl h.ne_nil
    | cons c ds =>
        rw [List.take_succ_cons] at hu
        rcases List.cons.inj hu with ⟨rfl, rfl⟩
        rw [h.lead ds rfl, List.take_nil]

/-- The point of a decimal is behind its digits, among them or in front of them. -/
theorem skipNumber_positionalText (d : Decimal) (hd : 0 < d.digits) :
    skipNumber (FloatText.positionalText ".0" d).toList = .ok ((), []) := by
  have hwhole := whole_toDigits d.digits
  unfold FloatText.positionalText
  dsimp only
  split
  · rename_i e _
    split_ifs with hshort
    · -- The point is behind all digits, and zeros fill up to it.
      rw [String.toList_append, String.toList_ofList]
      exact skipNumber_point _ ['0'] [] (whole_append d.digits _ hd (isDigit_of_mem_zeros _))
        (List.cons_ne_nil _ _) (List.forall_mem_singleton.mpr rfl) rfl
    · have hdrop : (Decimal.digitChars d.digits).drop (e + 1) ≠ [] := fun hnil =>
        hshort (List.drop_eq_nil_iff.mp hnil)
      have htail := skipNumber_point _ _ [] (whole_take _ e hwhole) hdrop
        (fun c hc => hwhole.digits c (List.mem_of_mem_drop hc)) rfl
      rw [List.append_nil] at htail
      simp only [String.toList_append, String.toList_ofList, List.append_assoc]
      exact htail
  · rename_i e _
    have htail := skipNumber_point ['0'] (List.replicate e '0' ++ Decimal.digitChars d.digits) []
      (whole_toDigits 0) (List.append_ne_nil_of_right_ne_nil _ Nat.toDigits_ne_nil)
      (fun c hc => ?_) rfl
    · rw [List.append_nil] at htail
      simp only [String.toList_append, String.toList_ofList]
      exact htail
    · rcases List.mem_append.mp hc with hc | hc
      · exact isDigit_of_mem_zeros e c hc
      · exact hwhole.digits c hc

theorem skipNumber_exponentText (d : Decimal) :
    skipNumber (FloatText.exponentText d).toList = .ok ((), []) := by
  have hwhole : Whole (Decimal.digitChars d.digits) := whole_toDigits d.digits
  have hsign : ∃ sign, (sign = '+' ∨ sign = '-') ∧
      (if d.exponent < 0 then "e-" else "e+").toList = ['e', sign] := by
    split_ifs
    · exact ⟨'-', Or.inr rfl, rfl⟩
    · exact ⟨'+', Or.inl rfl, rfl⟩
  rcases hsign with ⟨sign, hsign, htext⟩
  have hexponent := skipExponent_written sign hsign d.exponent.natAbs
  have hnat : (toString d.exponent.natAbs).toList = Nat.toDigits 10 d.exponent.natAbs :=
    Nat.toList_repr
  unfold FloatText.exponentText
  dsimp only
  rw [String.toList_append, String.toList_append, htext, hnat]
  -- One digit is written without a point, more digits with one behind the first.
  split
  · rename_i hnil
    exact absurd hnil Nat.toDigits_ne_nil
  · rename_i first hfirst
    rw [hfirst] at hwhole
    rw [String.toList_ofList, ← hexponent, ← skipNumber_exponent [first] _ hwhole,
      List.append_assoc]
    rfl
  · rename_i first rest hrest hfirst
    rw [hfirst] at hwhole
    have htail := skipNumber_point [first] rest ('e' :: sign :: Nat.toDigits 10 d.exponent.natAbs)
      (whole_take (first :: rest) 0 hwhole) hrest
      (fun c hc => hwhole.digits c (List.mem_cons_of_mem first hc)) rfl
    rw [String.toList_ofList, ← hexponent, List.append_assoc]
    exact htail

/-- A number is passed over with and without a sign. -/
theorem skip_of_skipNumber (s : List Char) (h : skipNumber s = .ok ((), [])) (negative : Bool) :
    skip (if negative then '-' :: s else s) = .ok ((), []) := by
  cases negative with
  | true => exact h
  | false =>
      cases s with
      | nil => cases h
      | cons c s =>
          have hc : c.isDigit = true := by
            refine eq_true_of_ne_false fun hc => ?_
            simp only [skipNumber, hc, Bool.not_false, if_true] at h
            cases h
          exact (skipValue_digit _ c s hc).trans h

/-- The text of a float is passed over. -/
theorem skip_writeDouble (x : Double) : skip (writeDouble x) = .ok ((), []) := by
  cases x with
  | nan => rfl
  | infinite negative => cases negative <;> rfl
  | finite negative significand exponent =>
      have hsign : ∀ magnitude : String, (if negative then "-" ++ magnitude else magnitude).toList =
          if negative then '-' :: magnitude.toList else magnitude.toList := by
        intro magnitude
        split_ifs
        · exact String.toList_append
        · rfl
      rw [writeDouble, FloatText.render, hsign]
      refine skip_of_skipNumber _ ?_ negative
      split_ifs with hzero
      · rfl
      dsimp only
      split_ifs
      · exact skipNumber_positionalText _
          (Decimal.shortest_pos significand exponent (Nat.pos_of_ne_zero hzero))
      · exact skipNumber_exponentText _

end Json

end StreamRoster
