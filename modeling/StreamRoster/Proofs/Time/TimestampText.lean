import Mathlib.Tactic.SplitIfs
import StreamRoster.Proofs.Json.Conversion
import StreamRoster.Time.Timestamp

/-!
# Timestamps Read Back

The text of a timestamp is read back as the timestamp, to the nanosecond.

The writer pads naturals with zeros and the reader takes digits up to a width. A
padded natural of the width fills it, so what stands behind does not matter; the
year behind a sign and the fraction may be shorter than what the reader allows,
and end where no digit follows. The fraction is written in three lengths. Its
value is the natural that is read, scaled to nine digits, and the writer chooses
a length at which nothing is lost.

Conversely, whatever is read has its parts in range, leap seconds included:
second 60 passes in any minute (`isValid_of_read`). So the timestamps that can be
read are the valid ones (`exists_read_iff`).

## Main definitions

* `NoDigit`: A text that does not go on with a digit.

## Theorems

* `natural_padded`, `part_padded`: Padded naturals are read back.
* `year_yearText`, `fraction_fractionText`: So are years and fractions.
* `read_text`: The text of a timestamp is the timestamp.
* `isValid_of_read`: What is read is valid.
* `exists_read_iff`: The timestamps that can be read.
-/

namespace StreamRoster

open Json (bind_eq_ok ok_bind)

namespace Timestamp

/-! ### Digits -/

/-- A text that does not go on with a digit. -/
def NoDigit (s : List Char) : Prop := ∀ c ∈ s.head?, c.isDigit = false

theorem isBlank_of_isDigit (c : Char) (h : c.isDigit = true) : Text.isBlank c = false := by
  simp only [Char.isDigit, Bool.and_eq_true, decide_eq_true_eq, UInt32.le_iff_toNat_le] at h
  simp only [Text.isBlank, Bool.or_eq_false_iff, Bool.and_eq_false_iff, decide_eq_false_iff_not]
  have hvalue : c.toNat = c.val.toNat := rfl
  have hzero : '0'.val.toNat = 48 := rfl
  have hnine : '9'.val.toNat = 57 := rfl
  omega

theorem takeDigits_noDigit (width n : Nat) (s : List Char) (h : NoDigit s) :
    takeDigits width n s = (n, s) := by
  cases width with
  | zero => rfl
  | succ width =>
      cases s with
      | nil => rfl
      | cons c s => rw [takeDigits, if_neg (ne_true_of_eq_false (h c rfl))]

/-- Digits are taken up to the width, or to where they end. -/
theorem takeDigits_append (width n : Nat) (ds rest : List Char)
    (hds : ∀ c ∈ ds, c.isDigit = true) (hwidth : ds.length ≤ width)
    (hends : ds.length = width ∨ NoDigit rest) :
    takeDigits width n (ds ++ rest) = (Nat.ofDigitChars 10 ds n, rest) := by
  induction ds generalizing width n with
  | nil =>
      rcases hends with rfl | hends
      · rfl
      · exact takeDigits_noDigit width n rest hends
  | cons d ds ih =>
      cases width with
      | zero => exact absurd hwidth (Nat.not_succ_le_zero _)
      | succ width =>
          have hnext : n * 10 + digit d = 10 * n + (d.toNat - '0'.toNat) := by
            rw [digit, Nat.mul_comm]
          rw [List.cons_append, takeDigits, if_pos (hds d List.mem_cons_self), hnext,
            Nat.ofDigitChars_cons]
          exact ih width _ (fun c hc => hds c (List.mem_cons_of_mem d hc))
            (Nat.le_of_succ_le_succ hwidth) (hends.imp_left Nat.succ.inj)

theorem natural_append (width : Nat) (ds rest : List Char) (hds : ∀ c ∈ ds, c.isDigit = true)
    (hne : ds ≠ []) (hwidth : ds.length ≤ width) (hends : ds.length = width ∨ NoDigit rest) :
    natural width (ds ++ rest) = .ok (Nat.ofDigitChars 10 ds 0, rest) := by
  cases ds with
  | nil => exact absurd rfl hne
  | cons d ds =>
      rw [List.cons_append, natural, if_pos (hds d List.mem_cons_self), ← List.cons_append,
        takeDigits_append width 0 _ rest hds hwidth hends]

/-! ### Padded naturals -/

theorem isDigit_of_mem_padded (width n : Nat) (c : Char) (h : c ∈ padded width n) :
    c.isDigit = true := by
  rcases List.mem_append.mp h with h | h
  · rw [List.eq_of_mem_replicate h]
    rfl
  · exact Nat.isDigit_of_mem_toDigits (by decide) (Nat.le_refl 10) h

theorem padded_ne_nil (width n : Nat) : padded width n ≠ [] :=
  List.append_ne_nil_of_right_ne_nil _ Nat.toDigits_ne_nil

theorem ofDigitChars_padded (width n : Nat) : Nat.ofDigitChars 10 (padded width n) 0 = n := by
  rw [padded, Nat.ofDigitChars_append, Nat.ofDigitChars_replicate_zero, Nat.mul_zero,
    Nat.ofDigitChars_ten_toDigits]

theorem length_padded (width n : Nat) (hwidth : 0 < width) (hn : n < Nat.pow 10 width) :
    (padded width n).length = width := by
  have hlength := (Nat.length_toDigits_le_iff (b := 10) (by decide) hwidth).mpr hn
  rw [padded, List.length_append, List.length_replicate]
  omega

theorem natural_padded (width n : Nat) (rest : List Char) (hwidth : 0 < width)
    (hn : n < Nat.pow 10 width) :
    natural width (padded width n ++ rest) = .ok (n, rest) := by
  have hlength := length_padded width n hwidth hn
  rw [natural_append width _ rest (isDigit_of_mem_padded width n) (padded_ne_nil width n)
    (Nat.le_of_eq hlength) (Or.inl hlength), ofDigitChars_padded]

theorem trimStart_cons (c : Char) (s : List Char) (hc : Text.isBlank c = false) :
    Text.trimStart (c :: s) = c :: s :=
  List.dropWhile_cons_of_neg (ne_true_of_eq_false hc)

theorem trimStart_digits (ds rest : List Char) (hds : ∀ c ∈ ds, c.isDigit = true) (hne : ds ≠ []) :
    Text.trimStart (ds ++ rest) = ds ++ rest := by
  cases ds with
  | nil => exact absurd rfl hne
  | cons d ds => exact trimStart_cons d _ (isBlank_of_isDigit d (hds d List.mem_cons_self))

theorem trimStart_padded (width n : Nat) (rest : List Char) :
    Text.trimStart (padded width n ++ rest) = padded width n ++ rest :=
  trimStart_digits _ rest (isDigit_of_mem_padded width n) (padded_ne_nil width n)

/-! ### The parts of a timestamp -/

theorem part_padded (low high n : Nat) (rest : List Char) (hlow : low ≤ n) (hhigh : n ≤ high)
    (hn : n < 100) : part low high (padded 2 n ++ rest) = .ok (n, rest) := by
  rw [part, trimStart_padded, natural_padded 2 n rest (by decide) hn]
  exact if_pos ⟨hlow, hhigh⟩

theorem mark_cons (c : Char) (s : List Char) (hc : Text.isBlank c = false) :
    mark c (c :: s) = .ok s := by
  rw [mark, trimStart_cons c s hc, expect, if_pos rfl]

/-- A natural behind a sign is read up to where its digits end. -/
theorem natural_signed (n : Nat) (rest : List Char) (hrest : NoDigit rest) :
    natural (padded 4 n ++ rest).length (padded 4 n ++ rest) = .ok (n, rest) := by
  rw [natural_append _ _ rest (isDigit_of_mem_padded 4 n) (padded_ne_nil 4 n)
    (by rw [List.length_append]; exact Nat.le_add_right _ _) (Or.inr hrest), ofDigitChars_padded]

theorem year_yearText (y : Int) (rest : List Char) (hrest : NoDigit rest)
    (hy : y.natAbs < 0x80000000) : year (yearText y ++ rest) = .ok (y, rest) := by
  have hsigned := natural_signed y.natAbs rest hrest
  unfold yearText
  split_ifs with hplain hnegative
  · have hread := natural_padded 4 y.natAbs rest (by decide) (show _ < 10000 by omega)
    have hvalue : (y.natAbs : Int) = y := by omega
    cases htext : padded 4 y.natAbs with
    | nil => exact absurd htext (padded_ne_nil 4 _)
    | cons c ds =>
        have hc := isDigit_of_mem_padded 4 y.natAbs c (htext ▸ List.mem_cons_self)
        rw [htext] at hread
        rw [List.cons_append] at hread ⊢
        rw [year]
        -- A digit is neither of the signs, so the year is read as four digits.
        · rw [hread]
          exact congrArg (fun y => Except.ok (y, rest)) hvalue
        · rintro t heq
          rw [(List.cons.inj heq).1] at hc
          cases hc
        · rintro t heq
          rw [(List.cons.inj heq).1] at hc
          cases hc
  · have hvalue : -(y.natAbs : Int) = y := by omega
    rw [List.cons_append, year, hsigned]
    refine (if_neg (by omega)).trans ?_
    rw [hvalue]
  · have hvalue : (y.natAbs : Int) = y := by omega
    rw [List.cons_append, year, hsigned]
    refine (if_neg (by omega)).trans ?_
    rw [hvalue]

theorem trimStart_yearText (y : Int) (rest : List Char) :
    Text.trimStart (yearText y ++ rest) = yearText y ++ rest := by
  unfold yearText
  split_ifs
  · exact trimStart_padded 4 _ rest
  · exact trimStart_cons '-' _ rfl
  · exact trimStart_cons '+' _ rfl

/-- A fraction of the given number of digits. -/
theorem fraction_padded (width n : Nat) (rest : List Char) (hwidth : 0 < width) (hnine : width ≤ 9)
    (hn : n < Nat.pow 10 width) (hrest : NoDigit rest) :
    fraction ('.' :: padded width n ++ rest) = .ok (n * Nat.pow 10 (9 - width), rest) := by
  have hlength := length_padded width n hwidth hn
  have hread := natural_append 9 _ rest (isDigit_of_mem_padded width n) (padded_ne_nil width n)
    (by omega) (Or.inr hrest)
  have hused : (padded width n ++ rest).length - rest.length = width := by
    rw [List.length_append, hlength]
    omega
  have hdrop : rest.dropWhile Char.isDigit = rest := by
    cases rest with
    | nil => rfl
    | cons c rest => exact List.dropWhile_cons_of_neg (ne_true_of_eq_false (hrest c rfl))
  rw [ofDigitChars_padded] at hread
  rw [List.cons_append, fraction, hread]
  refine congrArg Except.ok (Prod.ext ?_ hdrop)
  rw [hused]

/-- Of the three lengths the fraction has the shortest that says it exactly, and
    nothing is lost. -/
theorem fraction_fractionText (nano : Nat) (rest : List Char) (hnano : nano < 1000000000)
    (hrest : NoDigit rest) (hpoint : ∀ t, rest ≠ '.' :: t) :
    fraction (fractionText nano ++ rest) = .ok (nano, rest) := by
  unfold fractionText
  split_ifs with hzero hmilli hmicro
  · rw [List.nil_append, fraction, hzero]
    exact hpoint
  · have hlt : nano / 1000000 < 1000 := by omega
    rw [fraction_padded 3 _ rest (by decide) (by decide) hlt hrest]
    refine congrArg (fun n => Except.ok (n, rest)) ?_
    exact Nat.div_mul_cancel (Nat.dvd_of_mod_eq_zero hmilli)
  · have hlt : nano / 1000 < 1000000 := by omega
    rw [fraction_padded 6 _ rest (by decide) (by decide) hlt hrest]
    refine congrArg (fun n => Except.ok (n, rest)) ?_
    exact Nat.div_mul_cancel (Nat.dvd_of_mod_eq_zero hmicro)
  · rw [fraction_padded 9 _ rest (by decide) (by decide) hnano hrest]
    exact congrArg (fun n => Except.ok (n, rest)) (Nat.mul_one nano)

/-! ### Whole timestamps -/

theorem isValid_iff (t : Timestamp) : t.isValid = true ↔
    t.date.isValid = true ∧ t.hour < 24 ∧ t.minute < 60 ∧ t.second ≤ 60 ∧ t.nano < 1000000000 := by
  simp only [isValid, Bool.and_eq_true, decide_eq_true_eq, and_assoc]

theorem Date.isValid_iff (d : Date) : d.isValid = true ↔
    Calendar.firstYear ≤ d.year ∧ d.year ≤ Calendar.lastYear ∧ 1 ≤ d.month ∧ d.month ≤ 12 ∧
      1 ≤ d.day ∧ d.day ≤ Calendar.daysIn d.year d.month := by
  simp only [Date.isValid, Bool.and_eq_true, decide_eq_true_eq, and_assoc]

theorem daysIn_le (year : Int) (month : Nat) : Calendar.daysIn year month ≤ 31 := by
  unfold Calendar.daysIn
  split_ifs <;> omega

/-- A local time without an offset is the same time in UTC. -/
theorem resolve_zero (t : Timestamp) (h : t.isValid = true) : resolve t 0 = .ok t := by
  rcases (isValid_iff t).mp h with ⟨hdate, hhour, hminute, _, _⟩
  -- No minutes are carried over to another day.
  have hutc : t.toUtc 0 = t := by
    have hnonneg : ¬((t.hour * 60 + t.minute : Int) - 0 < 0) := by omega
    have hbelow : ¬(1440 ≤ (t.hour * 60 + t.minute : Int) - 0) := by omega
    have hminutes : (((t.hour * 60 + t.minute : Int) - 0) % 1440).toNat =
        t.hour * 60 + t.minute := by omega
    have hwhole : (t.hour * 60 + t.minute) / 60 = t.hour := by omega
    have hpart : (t.hour * 60 + t.minute) % 60 = t.minute := by omega
    simp only [toUtc, if_neg hnonneg, if_neg hbelow, hminutes, hwhole, hpart]
  simp only [resolve, hdate, hutc, Bool.not_true, Bool.false_eq_true, if_false]
  rfl

/-- A timestamp is read back as it was written. -/
theorem read_text (t : Timestamp) (h : t.isValid = true) : read (t.text wireOffset) = .ok t := by
  rcases (isValid_iff t).mp h with ⟨hdate, hhour, hminute, hsecond, hnano⟩
  rcases (Date.isValid_iff t.date).mp hdate with ⟨hfirst, hlast, hjanuary, hdecember, hday, hdays⟩
  have hmonthEnd := daysIn_le t.date.year t.date.month
  rw [Calendar.firstYear] at hfirst
  rw [Calendar.lastYear] at hlast
  have hyear := fun rest => year_yearText t.date.year ('-' :: rest)
    (fun c hc => by rw [← Option.some.inj hc]; rfl) (by omega)
  have hfraction := fraction_fractionText t.nano wireOffset hnano
    (fun c hc => by rw [← Option.some.inj hc]; rfl) nofun
  have hmonth := fun rest => part_padded 1 12 t.date.month rest hjanuary hdecember (by omega)
  have hdayOf := fun rest => part_padded 1 31 t.date.day rest hday (by omega) (by omega)
  have hhourOf := fun rest => part_padded 0 23 t.hour rest (by omega) (by omega) (by omega)
  have hminuteOf := fun rest => part_padded 0 59 t.minute rest (by omega) (by omega) (by omega)
  have hsecondOf := fun rest => part_padded 0 60 t.second rest (by omega) hsecond (by omega)
  have hdash := fun rest => mark_cons '-' rest rfl
  have hcolon := fun rest => mark_cons ':' rest rfl
  have hseparator : ∀ rest, separator ('T' :: rest) = .ok rest := fun _ => rfl
  -- Every part is read in front of any rest, so the text is followed from left to right.
  simp only [text, List.append_assoc, List.cons_append, read, trimStart_yearText, hyear, ok_bind,
    hdash, hmonth, hdayOf, hseparator, hhourOf, hcolon, hminuteOf, hsecondOf, hfraction]
  exact resolve_zero t h

/-! ### What can be read -/

theorem digit_le (c : Char) (h : c.isDigit = true) : digit c ≤ 9 := by
  simp only [Char.isDigit, Bool.and_eq_true, decide_eq_true_eq, UInt32.le_iff_toNat_le] at h
  have hvalue : c.toNat = c.val.toNat := rfl
  have hzero : '0'.toNat = 48 := rfl
  have hnine : '9'.val.toNat = 57 := rfl
  rw [digit]
  omega

/-- Digits that were taken make a natural of no more digits than there were. -/
theorem exists_taken (width n : Nat) (s : List Char) :
    ∃ taken ≤ width, (takeDigits width n s).2.length + taken = s.length ∧
      (takeDigits width n s).1 < (n + 1) * Nat.pow 10 taken := by
  have hnone : ∀ n, n < (n + 1) * Nat.pow 10 0 := fun n =>
    Nat.lt_of_lt_of_eq (Nat.lt_succ_self n) (Nat.mul_one _).symm
  induction width generalizing n s with
  | zero => exact ⟨0, Nat.le_refl 0, rfl, hnone n⟩
  | succ width ih =>
      cases s with
      | nil => exact ⟨0, Nat.zero_le _, rfl, hnone n⟩
      | cons c s =>
          rw [takeDigits]
          split_ifs with hc
          · rcases ih (n * 10 + digit c) s with ⟨taken, hwidth, hlength, hlt⟩
            have hdigit := digit_le c hc
            refine ⟨taken + 1, Nat.succ_le_succ hwidth, congrArg Nat.succ hlength, ?_⟩
            calc (takeDigits width (n * 10 + digit c) s).1
                < (n * 10 + digit c + 1) * Nat.pow 10 taken := hlt
              _ ≤ (n + 1) * 10 * Nat.pow 10 taken := Nat.mul_le_mul_right _ (by omega)
              _ = (n + 1) * (10 * Nat.pow 10 taken) := Nat.mul_assoc _ _ _
              _ = (n + 1) * Nat.pow 10 (taken + 1) := congrArg _ Nat.pow_succ'.symm
          · exact ⟨0, Nat.zero_le _, rfl, hnone n⟩

theorem fraction_lt (s : List Char) (nano : Nat) (rest : List Char)
    (h : fraction s = .ok (nano, rest)) : nano < 1000000000 := by
  unfold fraction at h
  split at h
  · rename_i s
    rcases (bind_eq_ok _ _ _).mp h with ⟨⟨n, t⟩, hread, h⟩
    rcases Prod.mk.inj (Except.ok.inj h) with ⟨rfl, _⟩
    have htaken : takeDigits 9 0 s = (n, t) := by
      unfold natural at hread
      split at hread
      · cases hread
      · split_ifs at hread
        exact Except.ok.inj hread
    rcases exists_taken 9 0 s with ⟨taken, hwidth, hlength, hlt⟩
    rw [htaken] at hlength hlt
    -- The digits that were taken are padded with zeros up to nine.
    have hused : s.length - t.length = taken := by
      dsimp only at hlength
      omega
    rw [hused]
    calc n * Nat.pow 10 (9 - taken)
        < (0 + 1) * Nat.pow 10 taken * Nat.pow 10 (9 - taken) :=
          Nat.mul_lt_mul_of_pos_right hlt (Nat.pow_pos (by decide))
      _ = Nat.pow 10 taken * Nat.pow 10 (9 - taken) := congrArg (· * _) (Nat.one_mul _)
      _ = Nat.pow 10 (taken + (9 - taken)) := (Nat.pow_add 10 taken (9 - taken)).symm
      _ = Nat.pow 10 9 := congrArg (Nat.pow 10) (Nat.add_sub_cancel' hwidth)
  · rcases Prod.mk.inj (Except.ok.inj h) with ⟨rfl, _⟩
    decide

theorem le_of_part (low high : Nat) (s : List Char) (n : Nat) (rest : List Char)
    (h : part low high s = .ok (n, rest)) : n ≤ high := by
  rcases (bind_eq_ok _ _ _).mp h with ⟨⟨m, t⟩, _, h⟩
  dsimp only at h
  split_ifs at h with hrange
  rcases Prod.mk.inj (Except.ok.inj h) with ⟨rfl, rfl⟩
  exact hrange.2

/-- A time in UTC has its hour and minute in range, whatever the local ones are. -/
theorem isValid_of_resolve (t u : Timestamp) (offset : Int) (hsecond : t.second ≤ 60)
    (hnano : t.nano < 1000000000) (h : resolve t offset = .ok u) : u.isValid = true := by
  unfold resolve at h
  split_ifs at h
  dsimp only at h
  split_ifs at h with hutc
  rcases Except.ok.inj h with rfl
  refine (isValid_iff _).mpr ⟨hutc, ?_, ?_, hsecond, hnano⟩
  · simp only [toUtc]
    omega
  · simp only [toUtc]
    omega

/-- Whatever is read has its parts in range. -/
theorem isValid_of_read (s : List Char) (t : Timestamp) (h : read s = .ok t) :
    t.isValid = true := by
  rcases (bind_eq_ok _ _ _).mp h with ⟨⟨year, s₁⟩, _, h⟩
  rcases (bind_eq_ok _ _ _).mp h with ⟨s₂, _, h⟩
  rcases (bind_eq_ok _ _ _).mp h with ⟨⟨month, s₃⟩, _, h⟩
  rcases (bind_eq_ok _ _ _).mp h with ⟨s₄, _, h⟩
  rcases (bind_eq_ok _ _ _).mp h with ⟨⟨day, s₅⟩, _, h⟩
  rcases (bind_eq_ok _ _ _).mp h with ⟨s₆, _, h⟩
  rcases (bind_eq_ok _ _ _).mp h with ⟨⟨hour, s₇⟩, _, h⟩
  rcases (bind_eq_ok _ _ _).mp h with ⟨s₈, _, h⟩
  rcases (bind_eq_ok _ _ _).mp h with ⟨⟨minute, s₉⟩, _, h⟩
  rcases (bind_eq_ok _ _ _).mp h with ⟨s₁₀, _, h⟩
  rcases (bind_eq_ok _ _ _).mp h with ⟨⟨second, s₁₁⟩, hsecond, h⟩
  rcases (bind_eq_ok _ _ _).mp h with ⟨⟨nano, s₁₂⟩, hnano, h⟩
  rcases (bind_eq_ok _ _ _).mp h with ⟨⟨offset, s₁₃⟩, _, h⟩
  dsimp only at h
  split_ifs at h
  exact isValid_of_resolve _ t offset (le_of_part 0 60 _ _ _ hsecond) (fraction_lt _ _ _ hnano) h

/-- The timestamps that can be read are those with their parts in range. -/
theorem exists_read_iff (t : Timestamp) : (∃ s, read s = .ok t) ↔ t.isValid = true :=
  ⟨fun ⟨s, hs⟩ => isValid_of_read s t hs, fun h => ⟨_, read_text t h⟩⟩

end Timestamp

end StreamRoster
