import Mathlib.Data.List.TakeWhile
import StreamRoster.Url.Parse

/-!
# Cutting URL Texts

What becomes of the parts of a URL text when more text is put behind it.

A URL is read from the left, by cutting off what comes before one of a few
characters. If the text behind starts with a character at which every cut ends,
or is empty, then what was cut off in front of it stays as it is, and the text
goes to the part behind the cut. A slash is such a character for all cuts but
those at a query or a fragment.

Segments are cut at each slash, so those of two texts with a slash between them
are the segments of one behind the segments of the other. They are put in place
one by one. Only the last segment is treated differently from the others, so
segments behind which more are put are settled by a fold (`Path.settle`).

## Main definitions

* `Url.Slashed`: A text that is empty or starts with a slash.
* `Url.isSlash`, `Url.isMark`: What divides segments, and what ends a path.
* `Url.isEdge`, `Url.isKept`: What is dropped at the ends of a text, and kept in it.
* `Url.core`: A text that is cleaned in front only.
* `Url.Path.settle`: Puts a segment in place behind which more are put.

## Theorems

* `Url.cut_append`: What is cut off stays as it is.
* `Text.split_append`: The parts of two texts.
* `Url.clean_append`: What is dropped of two texts.
* `Url.Path.place_append`: Segments behind segments.
* `Url.Path.exists_place`: Segments of dots at the end leave an empty one.
* `Url.Path.exists_of_settled`: The segment behind those in place.
-/

namespace StreamRoster

/-! ### Parts of a text -/

namespace Text

theorem split_ne_nil (p : Char → Bool) (s : List Char) : split p s ≠ [] := by
  cases s with
  | nil => exact List.cons_ne_nil _ _
  | cons c s =>
      rw [split]
      split_ifs
      · exact List.cons_ne_nil _ _
      · cases split p s <;> exact List.cons_ne_nil _ _

/-- The parts of two texts with a separator between them, by induction on the
    first one. -/
theorem split_append (p : Char → Bool) (s t : List Char) (c : Char) (hc : p c = true) :
    split p (s ++ c :: t) = split p s ++ split p t := by
  induction s with
  | nil => exact if_pos hc
  | cons d s ih =>
      rw [List.cons_append, split, split, ih]
      split_ifs
      · rfl
      · cases hparts : split p s with
        | nil => exact absurd hparts (split_ne_nil p s)
        | cons part parts => rfl

theorem split_of_none (p : Char → Bool) (s : List Char) (h : ∀ c ∈ s, p c = false) :
    split p s = [s] := by
  induction s with
  | nil => rfl
  | cons c s ih =>
      have hc := h c List.mem_cons_self
      rw [split, if_neg (ne_true_of_eq_false hc), ih fun d hd => h d (List.mem_cons_of_mem c hd)]

theorem split_replicate (p : Char → Bool) (c : Char) (hc : p c = true) (k : Nat) :
    split p (List.replicate k c) = List.replicate (k + 1) [] := by
  induction k with
  | zero => rfl
  | succ k ih =>
      rw [List.replicate_succ, split, if_pos hc, ih]
      rfl

/-- A part has no separators, and it is what is left of the text without some of
    its characters. -/
theorem mem_split (p : Char → Bool) (s part : List Char) (h : part ∈ split p s) :
    part.Sublist s ∧ ∀ c ∈ part, p c = false := by
  induction s generalizing part with
  | nil =>
      rw [List.mem_singleton.mp h]
      exact ⟨List.nil_sublist [], nofun⟩
  | cons c s ih =>
      rw [split] at h
      split_ifs at h with hc
      · rcases List.mem_cons.mp h with rfl | h
        · exact ⟨List.nil_sublist _, nofun⟩
        · exact ⟨(ih part h).1.cons c, (ih part h).2⟩
      · cases hparts : split p s with
        | nil => exact absurd hparts (split_ne_nil p s)
        | cons first parts =>
            rw [hparts] at h ih
            rcases List.mem_cons.mp h with rfl | h
            · have hfirst := ih first List.mem_cons_self
              refine ⟨hfirst.1.cons_cons c, List.forall_mem_cons.mpr ⟨?_, hfirst.2⟩⟩
              exact eq_false_of_ne_true hc
            · have hpart := ih part (List.mem_cons_of_mem first h)
              exact ⟨hpart.1.cons c, hpart.2⟩

end Text

namespace Url

/-- What divides the segments of a path. -/
def isSlash (c : Char) : Bool := c = '/' || c = '\\'

/-- What ends a path. -/
def isMark (c : Char) : Bool := c = '?' || c = '#'

/-- A text that is empty or starts with a slash. -/
def Slashed (s : List Char) : Prop := ∀ c ∈ s.head?, c = '/'

theorem slashed_replicate (k : Nat) : Slashed (List.replicate k '/') := by
  cases k with
  | zero => exact nofun
  | succ k => exact fun c hc => (Option.some.inj hc).symm

theorem slashed_cons (s : List Char) : Slashed ('/' :: s) :=
  fun _ hc => (Option.some.inj hc).symm

/-! ### Cuts -/

theorem takeWhile_append_slashed (p : Char → Bool) (hp : p '/' = false) (s t : List Char)
    (ht : Slashed t) :
    (s ++ t).takeWhile p = s.takeWhile p ∧ (s ++ t).dropWhile p = s.dropWhile p ++ t := by
  induction s with
  | nil =>
      cases t with
      | nil => exact ⟨rfl, rfl⟩
      | cons c t =>
          rcases ht c rfl with rfl
          have hstop := ne_true_of_eq_false hp
          exact ⟨List.takeWhile_cons_of_neg hstop, List.dropWhile_cons_of_neg hstop⟩
  | cons c s ih =>
      rw [List.cons_append]
      by_cases hc : p c = true
      · rw [List.takeWhile_cons_of_pos hc, List.takeWhile_cons_of_pos hc, ih.1,
          List.dropWhile_cons_of_pos hc, List.dropWhile_cons_of_pos hc, ih.2]
        exact ⟨rfl, rfl⟩
      · rw [List.takeWhile_cons_of_neg hc, List.takeWhile_cons_of_neg hc,
          List.dropWhile_cons_of_neg hc, List.dropWhile_cons_of_neg hc]
        exact ⟨rfl, rfl⟩

/-- What is cut off in front of a slash stays as it is, whatever stands behind
    the slash. -/
theorem cut_append (p : Char → Bool) (hp : p '/' = true) (s t : List Char) (ht : Slashed t) :
    cut p (s ++ t) = ((cut p s).1, (cut p s).2 ++ t) := by
  rcases takeWhile_append_slashed (fun c => !p c) (congrArg not hp) s t ht with ⟨htake, hdrop⟩
  rw [cut, htake, hdrop, cut]

/-- A text without an end of a cut is not cut. -/
theorem cut_of_none (p : Char → Bool) (s t : List Char) (h : ∀ c ∈ s, p c = false) :
    cut p (s ++ t) = (s ++ (cut p t).1, (cut p t).2) := by
  have hpass : ∀ c ∈ s, (!p c) = true := fun c hc => congrArg not (h c hc)
  rw [cut, List.takeWhile_append_of_pos hpass, List.dropWhile_append_of_pos hpass, cut]

/-- If a cut leaves nothing behind, then there is no end of a cut. -/
theorem of_cut_eq_nil (p : Char → Bool) (s : List Char) (h : (cut p s).2 = []) :
    (cut p s).1 = s ∧ ∀ c ∈ s, p c = false := by
  have hnone : ∀ c ∈ s, p c = false := fun c hc =>
    (Bool.not_eq_true' (p c)).mp (List.dropWhile_eq_nil_iff.mp h c hc)
  have hcut := cut_of_none p s [] hnone
  rw [List.append_nil] at hcut
  rw [hcut]
  exact ⟨List.append_nil s, hnone⟩

theorem head?_cut (p : Char → Bool) (s : List Char) : ∀ c ∈ (cut p s).2.head?, p c = true := by
  intro c hc
  have hstop := List.head?_dropWhile_not (fun c => !p c) s
  rw [cut] at hc
  rw [hc] at hstop
  exact (Bool.not_eq_false' (b := p c)).mp hstop

/-- What starts with a mark is a query or a fragment. -/
theorem eq_nil_of_tail (special : Bool) (s : List Char) (hmark : ∀ c ∈ s.head?, isMark c = true)
    (hquery : (tail special s).1 = none) (hfragment : (tail special s).2 = none) : s = [] := by
  cases s with
  | nil => rfl
  | cons c s =>
      have hmark := hmark c rfl
      rw [isMark, Bool.or_eq_true, decide_eq_true_eq, decide_eq_true_eq] at hmark
      rcases hmark with rfl | rfl
      · cases hquery
      · cases hfragment

/-! ### Blanks and line breaks -/

/-- What is dropped at both ends of a text. -/
def isEdge (c : Char) : Bool := c.toNat ≤ 0x20

/-- What is kept inside a text. -/
def isKept (c : Char) : Bool := c ≠ '\t' && c ≠ '\n' && c ≠ '\r'

/-- A text without the blanks in front of it and the line breaks inside it. -/
def core (s : List Char) : List Char := (s.dropWhile isEdge).filter isKept

theorem dropWhile_of_head {α : Type} (p : α → Bool) (s : List α)
    (h : ∀ c ∈ s.head?, p c = false) : s.dropWhile p = s := by
  cases s with
  | nil => rfl
  | cons c s => exact List.dropWhile_cons_of_neg (ne_true_of_eq_false (h c rfl))

/-- If two texts do not end with a blank, then of the second only line breaks are
    dropped. -/
theorem clean_append (s t : List Char) (hs : ∃ c ∈ s.getLast?, isEdge c = false)
    (ht : ∀ c ∈ t.getLast?, isEdge c = false) : clean (s ++ t) = core s ++ t.filter isKept := by
  rcases hs with ⟨c, hc, hedge⟩
  have hne : s.dropWhile isEdge ≠ [] := fun hnil =>
    ne_true_of_eq_false hedge (List.dropWhile_eq_nil_iff.mp hnil c (List.mem_of_getLast? hc))
  have hfront : (s ++ t).dropWhile isEdge = s.dropWhile isEdge ++ t := by
    rw [List.dropWhile_append, if_neg fun hempty => hne (List.isEmpty_iff.mp hempty)]
  have hlast : ∀ d ∈ (s.dropWhile isEdge).getLast?, d ∈ s.getLast? := by
    intro d hd
    rw [← List.takeWhile_append_dropWhile (p := isEdge) (l := s), List.getLast?_append, hd]
    rfl
  -- The last character is that of the second text, or of the first if the second is
  -- empty, and neither is an edge.
  have hend : ∀ d ∈ (s.dropWhile isEdge ++ t).reverse.head?, isEdge d = false := by
    intro d hd
    rw [List.head?_reverse, List.getLast?_append] at hd
    cases hmore : t.getLast? with
    | some e =>
        rw [hmore] at hd
        exact ht d (hmore.trans hd)
    | none =>
        rw [hmore] at hd
        rcases Option.some.inj (hc.symm.trans (hlast d hd)) with rfl
        exact hedge
  have hclean : clean (s ++ t) =
      ((((s ++ t).dropWhile isEdge).reverse.dropWhile isEdge).reverse).filter isKept := rfl
  rw [hclean, hfront, dropWhile_of_head isEdge _ hend, List.reverse_reverse,
    List.filter_append, core]

/-! ### Segments in place -/

namespace Path

/-- Put a segment in place behind which more are put. -/
def settle (done : List (List Char)) (raw : List Char) : List (List Char) :=
  if plainDots raw = ['.', '.'] then dropSegment done
  else if plainDots raw = ['.'] then done
  else done ++ [Percent.encode isPathEscaped raw]

theorem isPrefix_dropSegment (done : List (List Char)) : dropSegment done <+: done := by
  rw [dropSegment]
  split
  · split_ifs
    · exact List.prefix_rfl
    · exact List.dropLast_prefix done
  · exact List.nil_prefix

theorem length_settle_dots (done : List (List Char)) (raw : List Char)
    (h : plainDots raw = ['.'] ∨ plainDots raw = ['.', '.']) :
    (settle done raw).length ≤ done.length := by
  rw [settle]
  split_ifs with htwo hone
  · exact (isPrefix_dropSegment done).length_le
  · exact Nat.le_refl _
  · exact absurd h (not_or.mpr ⟨hone, htwo⟩)

theorem mem_drop_settle (done : List (List Char)) (raw : List Char) (n : Nat)
    (segment : List Char) (h : segment ∈ (settle done raw).drop n) :
    segment ∈ done.drop n ∨ segment = Percent.encode isPathEscaped raw := by
  rw [settle] at h
  split_ifs at h
  · rcases isPrefix_dropSegment done with ⟨last, hlast⟩
    rw [← hlast, List.drop_append]
    exact Or.inl (List.mem_append_left _ h)
  · exact Or.inl h
  · rw [List.drop_append] at h
    rcases List.mem_append.mp h with h | h
    · exact Or.inl h
    · exact Or.inr (List.mem_singleton.mp (List.mem_of_mem_drop h))

/-- A segment that comes behind those in place is one of those that are settled,
    by induction on these. -/
theorem mem_drop_foldl_settle (done parts : List (List Char)) (n : Nat) (segment : List Char)
    (h : segment ∈ (parts.foldl settle done).drop n) :
    segment ∈ done.drop n ∨ ∃ raw ∈ parts, segment = Percent.encode isPathEscaped raw := by
  induction parts generalizing done with
  | nil => exact Or.inl h
  | cons first parts ih =>
      rcases ih (settle done first) h with hmem | ⟨raw, hraw, hsegment⟩
      · rcases mem_drop_settle done first n segment hmem with hmem | hsegment
        · exact Or.inl hmem
        · exact Or.inr ⟨first, List.mem_cons_self, hsegment⟩
      · exact Or.inr ⟨raw, List.mem_cons_of_mem first hraw, hsegment⟩

/-- If one segment comes behind those in place, then it is one of those that are
    settled. -/
theorem exists_of_settled (done parts : List (List Char)) (segment : List Char)
    (h : parts.foldl settle done = done ++ [segment]) :
    ∃ raw ∈ parts, segment = Percent.encode isPathEscaped raw := by
  have hdrop : segment ∈ (parts.foldl settle done).drop done.length := by
    rw [h, List.drop_left]
    exact List.mem_singleton_self segment
  rcases mem_drop_foldl_settle done parts _ segment hdrop with hnone | hraw
  · rw [List.drop_length] at hnone
    cases hnone
  · exact hraw

theorem place_cons (done : List (List Char)) (raw : List Char) (rest : List (List Char))
    (hrest : rest ≠ []) : place done (raw :: rest) = place (settle done raw) rest := by
  have hmore : rest.isEmpty = false := List.isEmpty_eq_false_iff.mpr hrest
  rw [place, hmore]
  simp only [Bool.and_false, Bool.false_eq_true, if_false]
  rfl

/-- Segments are settled if more stand behind them, by induction on the
    segments. -/
theorem place_append (done parts rest : List (List Char)) (hrest : rest ≠ []) :
    place done (parts ++ rest) = place (parts.foldl settle done) rest := by
  induction parts generalizing done with
  | nil => rfl
  | cons raw parts ih =>
      rw [List.cons_append, place_cons done raw _ (List.append_ne_nil_of_right_ne_nil parts hrest),
        ih, List.foldl_cons]

/-- A segment that is no dots is put behind those in place. -/
theorem place_plain (done : List (List Char)) (raw : List Char) (rest : List (List Char))
    (hone : plainDots raw ≠ ['.']) (htwo : plainDots raw ≠ ['.', '.']) :
    place done (raw :: rest) = place (done ++ [Percent.encode isPathEscaped raw]) rest := by
  have hdots : (decide (plainDots raw = ['.', '.']) || decide (plainDots raw = ['.'])) = false := by
    rw [decide_eq_false htwo, decide_eq_false hone]
    rfl
  rw [place, hdots, if_neg htwo, if_neg hone]
  rfl

theorem place_empties (done : List (List Char)) (k : Nat) :
    place done (List.replicate k []) = done ++ List.replicate k [] := by
  induction k generalizing done with
  | zero => exact (List.append_nil done).symm
  | succ k ih =>
      rw [List.replicate_succ, place_plain done [] _ nofun nofun, ih, List.append_assoc]
      rfl

/-- Dots at the end leave an empty segment, and nothing else does. -/
theorem exists_place (done parts : List (List Char)) :
    ∃ k, place done parts = parts.foldl settle done ++ List.replicate k [] := by
  induction parts generalizing done with
  | nil => exact ⟨0, (List.append_nil done).symm⟩
  | cons raw parts ih =>
      cases parts with
      | nil =>
          have hlast : place done [raw] =
              if plainDots raw = ['.', '.'] || plainDots raw = ['.'] then settle done raw ++ [[]]
              else settle done raw := by
            rw [place, List.isEmpty_nil, Bool.and_true, place]
            rfl
          rw [hlast, List.foldl_cons, List.foldl_nil]
          split_ifs
          · exact ⟨1, rfl⟩
          · exact ⟨0, (List.append_nil _).symm⟩
      | cons next parts =>
          rw [place_cons done raw _ (List.cons_ne_nil next parts), List.foldl_cons]
          exact ih _

end Path

end Url

end StreamRoster
