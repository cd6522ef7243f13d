import StreamRoster.Proofs.Text.Bytes
import StreamRoster.Roster.NameOrder

/-!
# The Order of Names Is Total

What sorting by name rests on. A sort puts a list into one fixed order only
when the comparison it uses is transitive, gives opposite answers when its
arguments change places, and leaves no two different names tied.

`compareCodes` turns out to be the library's own comparison of character
lists, so its laws come from there. `compareNames` puts two such comparisons
one behind the other. The first, over the lower case, ties different names;
only the second tells them apart, and it is exact because a name is known by
its characters.

The laws are given as instances of the library's classes for comparisons,
since that is the form in which its lemmas ask for them.

Case is dropped character by character, so the lower case of a text begins with
the lower case of what the text begins with. Both comparisons pass over what two
names have in front of them in common, and with it so does the order of names.
That a name comes before its extensions is the case in which nothing else is
left of it, and does not ask how long the lower case of a character is.

The tie is broken by code points here and by bytes elsewhere, which is the same
(`Text.compare_utf8`).

## Theorems

* `compareCodes_eq_compare`: The order of code point sequences is the
  library's order of character lists.
* `compareNames_eq_compareLex`: The order of names is two orders in turn.
* `compareNames_lt_iff`: Coming strictly before is not coming after and being
  another name.
* `compareCodes_eq_compare_codes`, `compareCodes_eq_compare_bytes`: The order of
  characters is that of their code points, and that of their bytes.
* `compareNames_append_left`: What two names have in front does not matter.
* `compareNames_append_of_ne`: A name comes before its extensions.
* `names_ordered`: All laws of the order of names.
-/

namespace StreamRoster

open Std

theorem compareCodes_eq_compare (s t : List Char) : compareCodes s t = compare s t := by
  induction s generalizing t with
  | nil =>
      cases t with
      | nil => rfl
      | cons b t => rfl
  | cons a s ih =>
      cases t with
      | nil => rfl
      | cons b t =>
          rw [compareCodes, List.compare_cons_cons, ih t]
          -- Characters are compared as their code points are.
          rcases Nat.lt_trichotomy a.toNat b.toNat with hlt | heq | hgt
          · have hab : compare a b = .lt := if_pos hlt
            rw [if_pos hlt, hab, Ordering.lt_then]
          · rw [Char.toNat_inj.mp heq, if_neg (Nat.lt_irrefl _), if_neg (Nat.lt_irrefl _),
              compare_self, Ordering.eq_then]
          · have hba : compare b a = .lt := if_pos hgt
            rw [if_neg (by omega), if_pos hgt, OrientedCmp.gt_of_lt hba, Ordering.gt_then]

theorem compareCodes_fun_eq : compareCodes = compare :=
  funext fun s => funext fun t => compareCodes_eq_compare s t

instance : TransCmp compareCodes := by
  rw [compareCodes_fun_eq]
  infer_instance

instance : LawfulEqCmp compareCodes := by
  rw [compareCodes_fun_eq]
  infer_instance

/-- The order of names looks at the lower case first, and at the name itself
    where that leaves a tie. -/
theorem compareNames_eq_compareLex :
    compareNames
      = compareLex (compareOn fun a => Text.fold a.toList) (compareOn String.toList) := by
  funext a b
  rw [compareNames, compareLex, compareOn, compareOn, compareCodes_eq_compare,
    compareCodes_eq_compare]

instance : TransCmp compareNames := by
  rw [compareNames_eq_compareLex]
  infer_instance

/-- The tie is broken by the name itself, so only equal names stay tied. -/
instance : LawfulEqCmp compareNames where
  compare_self := ReflCmp.compare_self
  eq_of_compare {a b} h := by
    have hcodes : compareCodes a.toList b.toList = .eq := (Ordering.then_eq_eq.mp h).2
    exact String.toList_inj.mp (LawfulEqCmp.eq_of_compare hcodes)

/-- Coming strictly before is not coming after and being another name. This
    is the step from a sorted list to a strictly increasing one, where no two
    items share a name. -/
theorem compareNames_lt_iff (a b : String) :
    compareNames a b = .lt ↔ (compareNames a b).isLE = true ∧ a ≠ b := by
  rw [Ordering.isLE_iff_eq_lt_or_eq_eq, LawfulEqCmp.compare_eq_iff_eq]
  constructor
  · intro h
    refine ⟨Or.inl h, fun hab => ?_⟩
    have heq : compareNames a b = .eq := LawfulEqCmp.compare_eq_iff_eq.mpr hab
    rw [h] at heq
    exact absurd heq (by simp only [reduceCtorEq, not_false_eq_true])
  · intro h
    rcases h with ⟨hlt | heq, hne⟩
    · exact hlt
    · exact absurd heq hne

/-! ### Code points and bytes -/

theorem compareCodes_eq_compare_codes (s t : List Char) :
    compareCodes s t = compare (Text.codes s) (Text.codes t) := by
  rw [compareCodes_eq_compare]
  exact Text.compare_numbers Char.toNat (fun _ _ => Char.toNat_inj.mp) (fun _ _ hlt => if_pos hlt)
    s t

theorem compareCodes_eq_compare_bytes (a b : String) :
    compareCodes a.toList b.toList = compare a.toUTF8.data.toList b.toUTF8.data.toList := by
  rw [compareCodes_eq_compare_codes, ← Text.compare_utf8, Text.utf8_toList, Text.utf8_toList]

/-! ### Names with a common front -/

theorem compareCodes_append_left (front s t : List Char) :
    compareCodes (front ++ s) (front ++ t) = compareCodes s t := by
  rw [compareCodes_eq_compare, compareCodes_eq_compare, Text.compare_append_left]

/-- What two names have in front of them does not matter. -/
theorem compareNames_append_left (front a b : String) :
    compareNames (front ++ a) (front ++ b) = compareNames a b := by
  have hfold : ∀ c : String,
      Text.fold (front ++ c).toList = Text.fold front.toList ++ Text.fold c.toList := by
    intro c
    rw [String.toList_append, Text.fold, List.flatMap_append]
    rfl
  rw [compareNames, compareNames, hfold, hfold, compareCodes_append_left, String.toList_append,
    String.toList_append, compareCodes_append_left]

/-- A name comes before its extensions. -/
theorem compareNames_append_of_ne (a rest : String) (h : rest ≠ "") :
    compareNames a (a ++ rest) = .lt := by
  have hfront : compareNames a (a ++ rest) = compareNames "" rest := by
    have hcommon := compareNames_append_left a "" rest
    rwa [String.append_empty] at hcommon
  have hrest : ∃ c s, rest.toList = c :: s :=
    List.exists_cons_of_ne_nil fun hnil => h (String.toList_inj.mp hnil)
  rcases hrest with ⟨c, s, hrest⟩
  -- The lower case may leave a tie, but the characters do not.
  rw [hfront, compareNames, hrest]
  cases Text.fold (c :: s) with
  | nil => rfl
  | cons d t => rfl

/-- The order of names is a total order: names that change places are in the
    opposite order, the order is transitive, and only a name itself is tied with
    it. It is the order of the lower cases as code points, each character put
    into lower case alone, and among names with one lower case the order of
    their bytes. What two names have in front does not matter to it, and a name
    comes before its extensions. -/
theorem names_ordered :
    (∀ a b, compareNames b a = (compareNames a b).swap) ∧
      (∀ a b c order, compareNames a b = order → compareNames b c = order →
        compareNames a c = order) ∧
      (∀ a b, compareNames a b = .eq ↔ a = b) ∧
      (∀ a b, Text.fold a.toList ≠ Text.fold b.toList →
        compareNames a b
          = compare (Text.codes (Text.fold a.toList)) (Text.codes (Text.fold b.toList))) ∧
      (∀ a b, Text.fold a.toList = Text.fold b.toList →
        compareNames a b = compare a.toUTF8.data.toList b.toUTF8.data.toList) ∧
      (∀ front a b, compareNames (front ++ a) (front ++ b) = compareNames a b) ∧
      ∀ a rest, rest ≠ "" → compareNames a (a ++ rest) = .lt := by
  refine ⟨fun a b => OrientedCmp.eq_swap, fun a b c order hab hbc => ?_,
    fun a b => LawfulEqCmp.compare_eq_iff_eq, fun a b h => ?_, fun a b h => ?_,
    compareNames_append_left, compareNames_append_of_ne⟩
  · cases order with
    | lt => exact TransCmp.lt_trans hab hbc
    | eq => exact TransCmp.eq_trans hab hbc
    | gt => exact TransCmp.gt_trans hab hbc
  · -- Lower cases that differ are not tied, so nothing is left to break.
    have hne : compareCodes (Text.fold a.toList) (Text.fold b.toList) ≠ .eq := fun heq =>
      h (LawfulEqCmp.eq_of_compare heq)
    have hthen : ∀ first second : Ordering, first ≠ .eq → first.then second = first := by decide
    rw [compareNames, hthen _ _ hne, compareCodes_eq_compare_codes]
  · have htied : compareCodes (Text.fold a.toList) (Text.fold b.toList) = .eq := by
      rw [h]
      exact ReflCmp.compare_self
    rw [compareNames, htied, Ordering.eq_then, compareCodes_eq_compare_bytes]

/-- Two spellings with one lower case, which is longer than one of them, and a
    name in front of both. -/
theorem names_ordered_of_dotted_capital :
    (compareNames "ise" "i\u0307" = .lt ∧ compareNames "i\u0307" "İ" = .lt ∧
        compareNames "ise" "İ" = .lt) ∧
      (Text.fold "ise".toList ≠ Text.fold "İ".toList ∧
        compareNames "ise" "İ" = compare (Text.codes (Text.fold "ise".toList))
          (Text.codes (Text.fold "İ".toList))) ∧
      (Text.fold "i\u0307".toList = Text.fold "İ".toList ∧
        compareNames "i\u0307" "İ"
          = compare "i\u0307".toUTF8.data.toList "İ".toUTF8.data.toList) ∧
      "s" ≠ "" ∧ compareNames "İ" ("İ" ++ "s") = .lt := by
  rcases names_ordered with ⟨_, htrans, _, hfold, hbytes, _, hextension⟩
  have hfirst : compareNames "ise" "i\u0307" = .lt := by decide +kernel
  have hsecond : compareNames "i\u0307" "İ" = .lt := by decide +kernel
  have hother : Text.fold "ise".toList ≠ Text.fold "İ".toList := by decide +kernel
  have hsame : Text.fold "i\u0307".toList = Text.fold "İ".toList := by decide +kernel
  have hsome : "s" ≠ "" := by decide
  exact ⟨⟨hfirst, hsecond, htrans _ _ _ .lt hfirst hsecond⟩, ⟨hother, hfold _ _ hother⟩,
    ⟨hsame, hbytes _ _ hsame⟩, hsome, hextension _ _ hsome⟩

end StreamRoster
