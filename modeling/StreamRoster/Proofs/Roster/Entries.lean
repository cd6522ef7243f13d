import StreamRoster.Proofs.Roster.NameOrder
import StreamRoster.Roster.Basic

/-!
# Entries as a Map

The entries of a roster stand for a map from names to items. They do so only
while each key names the item behind it and the keys stand in strictly
increasing byte order, which `Filed` says. Every operation keeps that, so it
is assumed freely wherever entries are looked at.

A strict order does two jobs. It leaves no key twice, so looking a name up
and finding it in the list are the same thing. And it leaves only one way to
write a map down: entries that answer every lookup alike are the same list,
whatever order the names came in. `eq_of_find?_eq` is that fact, and it is
what makes a roster forget how its names were interleaved.

## Main definitions

* `Filed`: Entries are written down as a map is.

## Theorems

* `find?_cons`: Looking a name up in the first entry and behind it.
* `key_of_mem_upsert`: Setting a count adds no key but the one it names.
* `filed_upsert`: Setting a count keeps the entries filed.
* `filed_remove`: Removing an entry keeps the entries filed.
* `find?_upsert`: Setting a count changes one lookup.
* `find?_remove`: Removing an entry changes one lookup.
* `find?_eq_some_iff`: A lookup finds what the list holds.
* `eq_of_find?_eq`: Lookups determine the entries.
-/

namespace StreamRoster

namespace Roster

open Std

/-- Entries are written down as a map is: each key names its item, and the
    keys stand in strictly increasing byte order. -/
structure Filed (entries : List (String × Item)) : Prop where
  keyed : ∀ e ∈ entries, e.2.name = e.1
  ordered : entries.Pairwise fun a b => compareCodes a.1.toList b.1.toList = .lt

theorem filed_nil : Filed [] :=
  ⟨fun e he => absurd he (by simp only [List.not_mem_nil, not_false_eq_true]), List.Pairwise.nil⟩

theorem filed_cons_iff (e : String × Item) (rest : List (String × Item)) :
    Filed (e :: rest) ↔ e.2.name = e.1 ∧
      (∀ b ∈ rest, compareCodes e.1.toList b.1.toList = .lt) ∧ Filed rest := by
  constructor
  · intro h
    have hordered := List.pairwise_cons.mp h.ordered
    exact ⟨h.keyed e List.mem_cons_self, hordered.1,
      fun b hb => h.keyed b (List.mem_cons_of_mem e hb), hordered.2⟩
  · intro h
    rcases h with ⟨hkey, hfirst, hrest⟩
    refine ⟨fun b hb => ?_, List.pairwise_cons.mpr ⟨hfirst, hrest.ordered⟩⟩
    rcases List.mem_cons.mp hb with rfl | hb
    · exact hkey
    · exact hrest.keyed b hb

/-- Two names of different places in the byte order are two names. -/
theorem ne_of_compareCodes_lt {a b : String} (h : compareCodes a.toList b.toList = .lt) :
    a ≠ b := by
  intro hab
  have heq : compareCodes a.toList b.toList = .eq := by
    rw [hab]
    exact ReflCmp.compare_self
  rw [h] at heq
  exact absurd heq (by simp only [reduceCtorEq, not_false_eq_true])

theorem find?_cons (e : String × Item) (rest : List (String × Item)) (n : String) :
    find? (e :: rest) n = if e.1 = n then some e.2 else find? rest n := by
  by_cases hn : e.1 = n
  · simp only [find?, List.find?_cons, hn, decide_true, Option.map_some, if_true]
  · simp only [find?, List.find?_cons, hn, decide_false, if_false]

theorem key_of_mem_upsert (entries : List (String × Item)) (name : String) (count : UInt64)
    (b : String × Item) (hb : b ∈ upsert entries name count) :
    b.1 = name ∨ ∃ e ∈ entries, e.1 = b.1 := by
  induction entries with
  | nil =>
      rw [upsert, List.mem_singleton] at hb
      exact Or.inl (by rw [hb])
  | cons e rest ih =>
      rw [upsert] at hb
      split at hb
      · rcases List.mem_cons.mp hb with rfl | hb
        · exact Or.inl rfl
        · exact Or.inr ⟨b, hb, rfl⟩
      · rcases List.mem_cons.mp hb with rfl | hb
        · exact Or.inr ⟨e, List.mem_cons_self, rfl⟩
        · exact Or.inr ⟨b, List.mem_cons_of_mem e hb, rfl⟩
      · rcases List.mem_cons.mp hb with rfl | hb
        · exact Or.inr ⟨b, List.mem_cons_self, rfl⟩
        · rcases ih hb with hname | ⟨c, hc, hcb⟩
          · exact Or.inl hname
          · exact Or.inr ⟨c, List.mem_cons_of_mem e hc, hcb⟩

theorem filed_upsert (entries : List (String × Item)) (name : String) (count : UInt64)
    (h : Filed entries) : Filed (upsert entries name count) := by
  induction entries with
  | nil =>
      rw [upsert, filed_cons_iff]
      exact ⟨rfl, fun b hb => absurd hb (by simp only [List.not_mem_nil, not_false_eq_true]),
        filed_nil⟩
  | cons e rest ih =>
      have he := (filed_cons_iff e rest).mp h
      rcases he with ⟨hkey, hfirst, hrest⟩
      rw [upsert]
      split
      -- The name comes before all entries that are left.
      next hlt =>
        rw [filed_cons_iff]
        refine ⟨rfl, fun b hb => ?_, h⟩
        rcases List.mem_cons.mp hb with rfl | hb
        · exact hlt
        · exact TransCmp.lt_trans hlt (hfirst b hb)
      next => exact (filed_cons_iff _ _).mpr ⟨hkey, hfirst, hrest⟩
      -- It goes further back, where no key but its own is new.
      next hgt =>
        rw [filed_cons_iff]
        refine ⟨hkey, fun b hb => ?_, ih hrest⟩
        rcases key_of_mem_upsert rest name count b hb with hname | ⟨c, hc, hcb⟩
        · rw [hname]
          exact OrientedCmp.lt_of_gt hgt
        · rw [← hcb]
          exact hfirst c hc

theorem filed_remove (entries : List (String × Item)) (name : String) (h : Filed entries) :
    Filed (remove entries name) :=
  ⟨fun e he => h.keyed e ((List.mem_filter.mp he).1), h.ordered.filter _⟩

/-- Setting a count changes the lookup of its name and no other. -/
theorem find?_upsert (entries : List (String × Item)) (name : String) (count : UInt64)
    (h : Filed entries) (n : String) :
    find? (upsert entries name count) n
      = if name = n then some ⟨name, count⟩ else find? entries n := by
  induction entries with
  | nil => rw [upsert, find?_cons]
  | cons e rest ih =>
      rcases (filed_cons_iff e rest).mp h with ⟨hkey, hfirst, hrest⟩
      rw [upsert]
      split
      next => rw [find?_cons]
      next heq =>
        have hname : name = e.1 := String.toList_inj.mp (LawfulEqCmp.eq_of_compare heq)
        rw [find?_cons, find?_cons, hname, ← hkey]
        by_cases hn : e.2.name = n
        · rw [if_pos hn, if_pos hn]
        · rw [if_neg hn, if_neg hn, if_neg hn]
      next hgt =>
        have hne : e.1 ≠ name := ne_of_compareCodes_lt (OrientedCmp.lt_of_gt hgt)
        rw [find?_cons, find?_cons, ih hrest]
        by_cases hn : e.1 = n
        · rw [if_pos hn, if_pos hn, if_neg (fun hc => hne (hn.trans hc.symm))]
        · rw [if_neg hn, if_neg hn]

/-- Removing an entry makes its name unknown and changes no other lookup. -/
theorem find?_remove (entries : List (String × Item)) (name n : String) :
    find? (remove entries name) n = if name = n then none else find? entries n := by
  induction entries with
  | nil => exact (ite_self none).symm
  | cons e rest ih =>
      by_cases he : e.1 = name
      · have hgone : remove (e :: rest) name = remove rest name := by
          rw [remove, remove, List.filter_cons, if_neg (by simp only [he, ne_eq,
            not_true_eq_false, decide_false, Bool.false_eq_true, not_false_eq_true])]
        rw [hgone, ih, find?_cons, he]
        by_cases hn : name = n
        · rw [if_pos hn, if_pos hn]
        · rw [if_neg hn, if_neg hn, if_neg hn]
      · have hkept : remove (e :: rest) name = e :: remove rest name := by
          rw [remove, remove, List.filter_cons, if_pos (decide_eq_true he)]
        rw [hkept, find?_cons, find?_cons, ih]
        by_cases hn : e.1 = n
        · rw [if_pos hn, if_pos hn, if_neg (fun hc => he (hn.trans hc.symm))]
        · rw [if_neg hn, if_neg hn]

/-- A lookup finds what the list holds. No key is there twice, so the first
    match is the only one. -/
theorem find?_eq_some_iff (entries : List (String × Item)) (h : Filed entries) (n : String)
    (item : Item) : find? entries n = some item ↔ (n, item) ∈ entries := by
  induction entries with
  | nil => simp only [find?, List.find?_nil, Option.map_none, reduceCtorEq, List.not_mem_nil]
  | cons e rest ih =>
      rcases (filed_cons_iff e rest).mp h with ⟨_, hfirst, hrest⟩
      rw [find?_cons, List.mem_cons]
      by_cases hn : e.1 = n
      · rw [if_pos hn, Option.some.injEq]
        constructor
        · intro hitem
          exact Or.inl (by rw [← hn, ← hitem])
        · intro hmem
          rcases hmem with heq | hmem
          · rw [← heq]
          · exact absurd hn (ne_of_compareCodes_lt (hfirst _ hmem))
      · rw [if_neg hn, ih hrest]
        constructor
        · exact Or.inr
        · intro hmem
          rcases hmem with heq | hmem
          · exact absurd (by rw [← heq]) hn
          · exact hmem

/-- No key is there twice. -/
theorem keys_nodup_of_filed (entries : List (String × Item)) (h : Filed entries) :
    (entries.map Prod.fst).Nodup :=
  List.pairwise_map.mpr (h.ordered.imp ne_of_compareCodes_lt)

theorem nodup_of_filed (entries : List (String × Item)) (h : Filed entries) : entries.Nodup :=
  h.ordered.imp fun hlt hab => ne_of_compareCodes_lt hlt (congrArg Prod.fst hab)

/-- Lookups determine the entries: a strict order of the keys leaves one way
    to write a map down. -/
theorem eq_of_find?_eq (left right : List (String × Item)) (hleft : Filed left)
    (hright : Filed right) (h : ∀ n, find? left n = find? right n) : left = right := by
  have hmem : ∀ e, e ∈ left ↔ e ∈ right := by
    intro e
    rw [← find?_eq_some_iff left hleft e.1 e.2, h, find?_eq_some_iff right hright]
  have hperm : left.Perm right :=
    (List.perm_ext_iff_of_nodup (nodup_of_filed left hleft) (nodup_of_filed right hright)).mpr hmem
  -- Two different keys cannot each come before the other.
  refine List.Perm.eq_of_pairwise (fun a b _ _ hab hba => ?_) hleft.ordered hright.ordered hperm
  exact absurd rfl (ne_of_compareCodes_lt (TransCmp.lt_trans hab hba))

end Roster

end StreamRoster
