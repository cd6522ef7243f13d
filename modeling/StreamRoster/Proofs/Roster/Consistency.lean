import StreamRoster.Proofs.Roster.Entries

/-!
# Consistency of a Roster

Every roster that steps can reach publishes exactly the items it holds, in
strictly increasing order of their names.

The steps differ in how much they change before they publish: an event
changes one entry or none, and a seed any number. `Step.events` takes that
difference away. It reads a seed as so many creations, and `write` is what
one event does to the entries, so the entries after any run are one fold of
`write`. What holds of the empty entries and is kept by `write` holds after
every run.

The published list needs no such argument. Each step either publishes, and
then the list is the sorted entries by definition, or changes nothing at all.
`Consistent` keeps the two facts together.

## Main definitions

* `write`: What an event does to the entries.
* `Step.events`: A step as a list of events.
* `Consistent`: The entries are filed and the list is their sorted items.

## Theorems

* `entries_step`: A step writes its events into the entries.
* `entries_run`: A run writes the events of its steps in order.
* `filed_foldl_write`: Writing events keeps the entries filed.
* `consistent_run`: A run keeps a roster consistent.
* `perm_sorted`: Sorting drops and doubles nothing.
* `pairwise_sorted`: The sorted items of filed entries increase strictly.
* `mem_sorted_iff`: A sorted list holds what the lookups find.
* `listing_of_run`: What every reachable roster publishes.
-/

namespace StreamRoster

namespace Roster

open Std

/-- What an event does to the entries. -/
def write (entries : List (String × Item)) (event : Event) : List (String × Item) :=
  match event.kind with
  | .created | .updated => upsert entries event.name event.count
  | .deleted => remove entries event.name
  | .other _ => entries

/-- A step as a list of events: a seeded item stands for its creation. -/
def Step.events : Step → List Event
  | .seed items => items.map fun item => ⟨.created, item.name, item.count⟩
  | .event e => [e]

theorem entries_step (r : Roster) (s : Step) :
    (r.step s).entries = s.events.foldl write r.entries := by
  cases s with
  | seed items => rw [Step.events, List.foldl_map]; rfl
  | event event =>
      rw [step, apply, Step.events, List.foldl_cons, List.foldl_nil, write]
      cases event.kind <;> rfl

theorem entries_run (r : Roster) (steps : List Step) :
    (r.run steps).entries = (steps.flatMap Step.events).foldl write r.entries := by
  induction steps generalizing r with
  | nil => rfl
  | cons s steps ih =>
      rw [List.flatMap_cons, List.foldl_append, ← entries_step]
      exact ih (r.step s)

theorem filed_write (entries : List (String × Item)) (event : Event) (h : Filed entries) :
    Filed (write entries event) := by
  rw [write]
  cases event.kind with
  | created => exact filed_upsert entries event.name event.count h
  | updated => exact filed_upsert entries event.name event.count h
  | deleted => exact filed_remove entries event.name h
  | other tag => exact h

theorem filed_foldl_write (events : List Event) (entries : List (String × Item))
    (h : Filed entries) : Filed (events.foldl write entries) := by
  induction events generalizing entries with
  | nil => exact h
  | cons event events ih => exact ih (write entries event) (filed_write entries event h)

/-- The entries are filed, and the published list is their sorted items. -/
structure Consistent (r : Roster) : Prop where
  filed : Filed r.entries
  listed : r.snapshot = sorted r.entries

theorem consistent_empty : Consistent empty :=
  ⟨filed_nil, by rw [sorted, empty, List.map_nil, List.mergeSort_nil]; rfl⟩

theorem consistent_step (r : Roster) (s : Step) (h : Consistent r) : Consistent (r.step s) := by
  refine ⟨?_, ?_⟩
  · rw [entries_step]
    exact filed_foldl_write s.events r.entries h.filed
  · cases s with
    | seed items => rfl
    | event event =>
        -- An event of an unknown kind publishes nothing, but changes nothing either.
        rw [step, apply]
        cases event.kind with
        | created => rfl
        | updated => rfl
        | deleted => rfl
        | other tag => exact h.listed

/-- A run keeps a roster consistent, by induction along its steps. -/
theorem consistent_run (r : Roster) (steps : List Step) (h : Consistent r) :
    Consistent (r.run steps) := by
  induction steps generalizing r with
  | nil => exact h
  | cons s steps ih => exact ih (r.step s) (consistent_step r s h)

/-- Sorting drops and doubles nothing. -/
theorem perm_sorted (entries : List (String × Item)) :
    (sorted entries).Perm (entries.map Prod.snd) :=
  List.mergeSort_perm _ _

theorem names_nodup_sorted (entries : List (String × Item)) (h : Filed entries) :
    ((sorted entries).map Item.name).Nodup := by
  have hnames : (entries.map Prod.snd).map Item.name = entries.map Prod.fst := by
    rw [List.map_map]
    exact List.map_congr_left h.keyed
  rw [((perm_sorted entries).map Item.name).nodup_iff, hnames]
  exact keys_nodup_of_filed entries h

/-- The sorted items of filed entries increase strictly. Sorting alone leaves
    neighbours that may be tied. -/
theorem pairwise_sorted (entries : List (String × Item)) (h : Filed entries) :
    (sorted entries).Pairwise fun a b => compareNames a.name b.name = .lt := by
  have hle : (sorted entries).Pairwise
      fun a b => (compareNames a.name b.name).isLE = true := by
    refine List.pairwise_mergeSort (fun a b c => TransCmp.isLE_trans) (fun a b => ?_) _
    rw [Bool.or_eq_true]
    by_cases hab : (compareNames a.name b.name).isLE = true
    · exact Or.inl hab
    · exact Or.inr (Ordering.isLE_of_eq_lt (OrientedCmp.lt_of_not_isLE hab))
  -- A tie between two neighbours would be one name twice.
  have hne : (sorted entries).Pairwise fun a b => a.name ≠ b.name :=
    List.pairwise_map.mp (names_nodup_sorted entries h)
  exact (hle.and hne).imp fun hab => (compareNames_lt_iff _ _).mpr hab

/-- A sorted list holds what the lookups find. -/
theorem mem_sorted_iff (entries : List (String × Item)) (h : Filed entries) (item : Item) :
    item ∈ sorted entries ↔ find? entries item.name = some item := by
  rw [(perm_sorted entries).mem_iff, find?_eq_some_iff entries h, List.mem_map]
  constructor
  · intro hmem
    rcases hmem with ⟨e, he, rfl⟩
    rw [h.keyed e he]
    exact he
  · intro hmem
    exact ⟨(item.name, item), hmem, rfl⟩

/-- What every reachable roster publishes: its items, each once, in strictly
    increasing order of their names. Each entry stands under the name of its
    item and no two stand under one, and the size and the emptiness of the
    roster are those of the list. -/
theorem listing_of_run (steps : List Step) :
    (∀ e ∈ (empty.run steps).entries, e.2.name = e.1) ∧
      ((empty.run steps).entries.map Prod.fst).Nodup ∧
      (empty.run steps).snapshot.Perm ((empty.run steps).entries.map Prod.snd) ∧
      ((empty.run steps).snapshot.map Item.name).Nodup ∧
      (empty.run steps).snapshot.Pairwise (fun a b => compareNames a.name b.name = .lt) ∧
      (empty.run steps).size = (empty.run steps).snapshot.length ∧
      ((empty.run steps).isEmpty = true ↔ (empty.run steps).snapshot = []) := by
  have h := consistent_run empty steps consistent_empty
  have hperm : (empty.run steps).snapshot.Perm ((empty.run steps).entries.map Prod.snd) := by
    rw [h.listed]
    exact perm_sorted _
  have hlength : (empty.run steps).size = (empty.run steps).snapshot.length := by
    rw [hperm.length_eq, List.length_map, size]
  refine ⟨h.filed.keyed, keys_nodup_of_filed _ h.filed, hperm, ?_, ?_, hlength, ?_⟩
  · rw [h.listed]
    exact names_nodup_sorted _ h.filed
  · rw [h.listed]
    exact pairwise_sorted _ h.filed
  · rw [isEmpty, List.isEmpty_iff_length_eq_zero, ← List.length_eq_zero_iff, ← hlength, size]

end Roster

end StreamRoster
