import Mathlib.Data.List.Induction
import StreamRoster.Proofs.Roster.Consistency

/-!
# A Roster Remembers the Last Word on Each Name

What a roster lists is settled name by name. Of all that was said about a
name, by a seed or by an event, only the last word counts: a deletion takes
the name off the list, and anything else puts it there with its count.

`history` is what was said about one name. Its definition looks at the steps
alone and never at a roster, so `find?_run` compares two things of different
kinds: a store that was changed over and over, and the last entry of a
filtered list.

Names do not see each other. Two runs that tell each name the same story end
with the same list, however the stories were woven together. This is more
than saying that the lists have the same members, and rests on there being
one way to file a map (`eq_of_find?_eq`): once the lookups agree the entries
do, and sorting equal entries gives equal lists.

## Main definitions

* `countsFor`: Whether an event says something about a name.
* `leaves?`: The item that stays behind an event.
* `history`: What a run says about a name.

## Theorems

* `find?_write`: An event changes the lookup of its own name only.
* `find?_foldl_write`: The last event about a name decides its lookup.
* `find?_run`: The last word about a name decides what a run leaves of it.
* `leaves?_eq_some_iff`: What an event about a name leaves behind.
* `snapshot_of_history`: The list is settled by the last word on each name.
-/

namespace StreamRoster

namespace Roster

/-- Whether an event says something about a name: it names it, and is of a
    known kind. -/
def countsFor (n : String) (event : Event) : Bool :=
  match event.kind with
  | .created | .updated | .deleted => event.name = n
  | .other _ => false

/-- The item that stays behind an event, if one does. -/
def leaves? (event : Event) : Option Item :=
  match event.kind with
  | .created | .updated => some ⟨event.name, event.count⟩
  | .deleted | .other _ => none

/-- What a run says about a name, in order. -/
def history (n : String) (steps : List Step) : List Event :=
  (steps.flatMap Step.events).filter (countsFor n)

theorem find?_write (entries : List (String × Item)) (event : Event) (n : String)
    (h : Filed entries) :
    find? (write entries event) n
      = if countsFor n event then leaves? event else find? entries n := by
  rw [write, countsFor, leaves?]
  cases event.kind with
  | created => simp only [find?_upsert entries event.name event.count h, decide_eq_true_eq]
  | updated => simp only [find?_upsert entries event.name event.count h, decide_eq_true_eq]
  | deleted => simp only [find?_remove, decide_eq_true_eq]
  | other tag => simp only [Bool.false_eq_true, if_false]

/-- The last event about a name decides its lookup; without one the lookup is
    as it was. The induction runs from the last event backwards, where the
    decision is made. -/
theorem find?_foldl_write (entries : List (String × Item)) (events : List Event) (n : String)
    (h : Filed entries) :
    find? (events.foldl write entries) n
      = match (events.filter (countsFor n)).getLast? with
        | some event => leaves? event
        | none => find? entries n := by
  induction events using List.reverseRecOn with
  | nil => rfl
  | append_singleton events event ih =>
      rw [List.foldl_append, List.foldl_cons, List.foldl_nil,
        find?_write _ event n (filed_foldl_write events entries h), List.filter_append]
      by_cases hn : countsFor n event = true
      · rw [if_pos hn, List.filter_cons_of_pos hn, List.filter_nil, List.getLast?_concat]
      · rw [if_neg hn, List.filter_cons_of_neg hn, List.filter_nil, List.append_nil, ih]

/-- The last word about a name decides what a run leaves of it. -/
theorem find?_run (steps : List Step) (n : String) :
    find? (empty.run steps).entries n = (history n steps).getLast?.bind leaves? := by
  rw [entries_run, find?_foldl_write _ _ n consistent_empty.filed, ← history]
  cases (history n steps).getLast? with
  | none => rfl
  | some event => rfl

/-- What an event about a name leaves behind. -/
theorem leaves?_eq_some_iff (n : String) (event : Event) (h : countsFor n event = true)
    (c : UInt64) :
    leaves? event = some ⟨n, c⟩ ↔ event.kind ≠ .deleted ∧ event.count = c := by
  rw [countsFor] at h
  rw [leaves?]
  cases hkind : event.kind with
  | deleted => simp only [reduceCtorEq, ne_eq, not_true_eq_false, false_and]
  | other tag => rw [hkind] at h; exact absurd h (by simp only [Bool.false_eq_true,
      not_false_eq_true])
  | created =>
      rw [hkind] at h
      simp only [of_decide_eq_true h, Option.some.injEq, Item.mk.injEq, true_and, ne_eq,
        reduceCtorEq, not_false_eq_true]
  | updated =>
      rw [hkind] at h
      simp only [of_decide_eq_true h, Option.some.injEq, Item.mk.injEq, true_and, ne_eq,
        reduceCtorEq, not_false_eq_true]

/-- The published list is settled by the last word on each name. A stream is
    listed with a count just when the last that was said about it is no
    deletion and carries that count; and runs that say the same about each
    name, however they weave the names together, publish the same list. -/
theorem snapshot_of_history (steps : List Step) :
    (∀ n c, ⟨n, c⟩ ∈ (empty.run steps).snapshot ↔
        ∃ event, (history n steps).getLast? = some event ∧ event.kind ≠ .deleted ∧
          event.count = c) ∧
      ∀ other : List Step, (∀ n, history n steps = history n other) →
        (empty.run steps).snapshot = (empty.run other).snapshot := by
  have hsteps := consistent_run empty steps consistent_empty
  refine ⟨fun n c => ?_, fun other hother => ?_⟩
  · rw [hsteps.listed, mem_sorted_iff _ hsteps.filed, find?_run, Option.bind_eq_some_iff]
    have hlast : ∀ event, (history n steps).getLast? = some event → countsFor n event = true :=
      fun event he => (List.mem_filter.mp (List.mem_of_getLast? he)).2
    constructor
    · intro h
      rcases h with ⟨event, he, hleaves⟩
      exact ⟨event, he, (leaves?_eq_some_iff n event (hlast event he) c).mp hleaves⟩
    · intro h
      rcases h with ⟨event, he, hkind⟩
      exact ⟨event, he, (leaves?_eq_some_iff n event (hlast event he) c).mpr hkind⟩
  -- Equal histories leave the same under each name, so they leave the same map.
  · have hrest := consistent_run empty other consistent_empty
    have hfind : ∀ n, find? (empty.run steps).entries n = find? (empty.run other).entries n := by
      intro n
      rw [find?_run, find?_run, hother]
    rw [hsteps.listed, hrest.listed, eq_of_find?_eq _ _ hsteps.filed hrest.filed hfind]

/-- A seed of two streams and an update of one of them end as the same events
    in another weave do. -/
theorem snapshot_of_rewoven :
    (∀ n, history n [.seed [⟨"tm", 1⟩, ⟨"PP", 2⟩], .event ⟨.updated, "tm", 5⟩]
        = history n [.event ⟨.created, "tm", 1⟩, .event ⟨.updated, "tm", 5⟩,
          .event ⟨.other "RENAMED", "tm", 9⟩, .event ⟨.created, "PP", 2⟩]) ∧
      (empty.run [.seed [⟨"tm", 1⟩, ⟨"PP", 2⟩], .event ⟨.updated, "tm", 5⟩]).snapshot
        = (empty.run [.event ⟨.created, "tm", 1⟩, .event ⟨.updated, "tm", 5⟩,
          .event ⟨.other "RENAMED", "tm", 9⟩, .event ⟨.created, "PP", 2⟩]).snapshot := by
  have h : ∀ n, history n [.seed [⟨"tm", 1⟩, ⟨"PP", 2⟩], .event ⟨.updated, "tm", 5⟩]
      = history n [.event ⟨.created, "tm", 1⟩, .event ⟨.updated, "tm", 5⟩,
        .event ⟨.other "RENAMED", "tm", 9⟩, .event ⟨.created, "PP", 2⟩] := by
    intro n
    by_cases htm : "tm" = n
    · subst htm
      simp [history, Step.events, countsFor]
    · by_cases hpp : "PP" = n <;> simp [history, Step.events, countsFor, htm, hpp]
  exact ⟨h, (snapshot_of_history _).2 _ h⟩

end Roster

end StreamRoster
