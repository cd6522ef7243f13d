import Mathlib.Data.List.Induction
import Mathlib.Data.List.Infix
import StreamRoster.Proofs.Roster.Consistency

/-!
# The Lists a Roster Publishes

What others see of a roster is its list and the version of that list. Here it is
said which lists they see, over a whole run and not only at its end.

A step does several things one after the other, and whoever watches may look
between any two of them. `Act` is what is done without a break, one change of
the entries or one publish, and `Step.acts` takes a step apart. An act is where
a seed of many items could be caught half done. It never is, since a step first
changes entries, which nobody sees, and publishes last (`acts_cases`).

`published` follows the acts with a watcher that misses nothing, who looks after
each act and notes the list whenever the version moved on. What it notes is then
computed without acts: `fronts` are the starts of the run that end with an input
that publishes, and for each of them there is one list, the entries of that
moment in order (`published_feed`).

Inputs may also be texts. A text that is no event is refused before it comes to
the roster, and so it makes no step at all, while an event of an unknown kind
makes a step that does nothing. Neither has an act, so nothing is left to be
seen of them, neither in the roster nor by a watcher (`accept_of_silent`).

## Main definitions

* `Input`: What is handed to a roster.
* `Input.publishes`: Whether an input is published.
* `accept`, `feed`: The roster after one input, and after several.
* `Act`, `act`: What is done without a break.
* `Input.acts`: The acts of an input.
* `published`: The lists that some acts publish.
* `fronts`: The starts of a run that end with an input that publishes.
* `TakenWhole`: How an input looks to those who watch.

## Theorems

* `foldl_act_acts`: The acts of a step lead where the step leads.
* `acts_cases`: An input publishes once, at the end, or does nothing.
* `published_acts`: The lists that one input publishes.
* `published_feed`: The lists that a run publishes.
* `takenWhole_accept`: An input is seen as a whole.
* `publications_of_run`: All of this over every run.
-/

namespace StreamRoster

/-- Whether a watcher that saw a version last has something new to see. -/
def Publication.isNews {α : Type} (p : Publication α) (seen : Nat) : Bool := seen ≠ p.version

namespace Roster

open Json

/-! ### Inputs -/

/-- What is handed to a roster: a list to seed, an event, or the text of one. -/
inductive Input where
  | seed (items : List Item)
  | event (event : Event)
  | text (text : String)

/-- The step that an input makes. A text that is no event makes none. -/
def Input.step? : Input → Option Step
  | .seed items => some (.seed items)
  | .event e => some (.event e)
  | .text s => (readAll (Event.read topRoom) s).toOption.map .event

/-- The roster after an input. -/
def accept (r : Roster) (i : Input) : Roster := i.step?.elim r r.step

/-- The roster after several inputs. -/
def feed (r : Roster) (inputs : List Input) : Roster := inputs.foldl accept r

/-- Whether an event is of a known kind. -/
def isKnown (event : Event) : Bool :=
  match event.kind with
  | .created | .updated | .deleted => true
  | .other _ => false

/-- Whether an input is published: every seed is, and every event of a known
    kind, also one that is given as a text. -/
def Input.publishes : Input → Bool
  | .seed _ => true
  | .event e => isKnown e
  | .text s => (readAll (Event.read topRoom) s).toOption.any isKnown

theorem feed_eq_run (r : Roster) (inputs : List Input) :
    r.feed inputs = r.run (inputs.filterMap Input.step?) := by
  induction inputs generalizing r with
  | nil => rfl
  | cons i inputs ih =>
      rw [feed, List.foldl_cons, ← feed, ih, accept]
      cases h : i.step? with
      | none => rw [List.filterMap_cons_none h, Option.elim_none]
      | some s => rw [List.filterMap_cons_some h, Option.elim_some, run, run, List.foldl_cons]

/-! ### Acts -/

/-- What is done without a break: an entry is set, an entry is removed, or the
    entries are published. -/
inductive Act where
  | set (item : Item)
  | drop (name : String)
  | publish

/-- The roster after an act. -/
def act (r : Roster) : Act → Roster
  | .set item => { r with entries := upsert r.entries item.name item.count }
  | .drop name => { r with entries := remove r.entries name }
  | .publish => r.publish

/-- The acts of a step, in their order. -/
def Step.acts : Step → List Act
  | .seed items => items.map .set ++ [.publish]
  | .event e =>
    match e.kind with
    | .created | .updated => [.set ⟨e.name, e.count⟩, .publish]
    | .deleted => [.drop e.name, .publish]
    | .other _ => []

/-- The acts of an input. -/
def Input.acts (i : Input) : List Act := i.step?.elim [] Step.acts

theorem foldl_act_set (r : Roster) (items : List Item) :
    (items.map Act.set).foldl act r = { r with
      entries := items.foldl (fun entries item => upsert entries item.name item.count)
        r.entries } := by
  induction items generalizing r with
  | nil => rfl
  | cons item items ih =>
      rw [List.map_cons, List.foldl_cons, ih]
      rfl

/-- The acts of a step lead where the step leads. -/
theorem foldl_act_acts (r : Roster) (s : Step) : s.acts.foldl act r = r.step s := by
  cases s with
  | seed items =>
      rw [Step.acts, List.foldl_append, foldl_act_set]
      rfl
  | event event =>
      rw [Step.acts, step, apply]
      cases event.kind <;> rfl

theorem foldl_acts (r : Roster) (i : Input) : i.acts.foldl act r = r.accept i := by
  rw [Input.acts, accept]
  cases i.step? with
  | none => rfl
  | some s => exact foldl_act_acts r s

theorem foldl_flatMap_acts (r : Roster) (inputs : List Input) :
    (inputs.flatMap Input.acts).foldl act r = r.feed inputs := by
  induction inputs generalizing r with
  | nil => rfl
  | cons i inputs ih =>
      rw [List.flatMap_cons, List.foldl_append, foldl_acts, ih]
      rfl

theorem acts_of_event (e : Event) :
    (isKnown e = true ∧ ∃ changes, (Step.event e).acts = changes ++ [.publish] ∧
        .publish ∉ changes) ∨
      (isKnown e = false ∧ (Step.event e).acts = []) := by
  rw [isKnown, Step.acts]
  cases e.kind with
  | created | updated | deleted => exact Or.inl ⟨rfl, [_], rfl, nofun⟩
  | other tag => exact Or.inr ⟨rfl, rfl⟩

/-- An input changes entries and then publishes once, or does nothing. -/
theorem acts_cases (i : Input) :
    (i.publishes = true ∧ ∃ changes, i.acts = changes ++ [.publish] ∧ .publish ∉ changes) ∨
      (i.publishes = false ∧ i.acts = []) := by
  cases i with
  | seed items =>
      refine Or.inl ⟨rfl, items.map .set, rfl, fun hmem => ?_⟩
      rcases List.mem_map.mp hmem with ⟨item, _, hset⟩
      cases hset
  | event e => exact acts_of_event e
  | text s =>
      rw [Input.publishes, Input.acts, Input.step?]
      cases (readAll (Event.read topRoom) s).toOption with
      | none => exact Or.inr ⟨rfl, rfl⟩
      | some e => exact acts_of_event e

/-! ### What the acts publish -/

/-- The lists that some acts publish, in order: whenever the version moves on,
    the list of that moment. -/
def published (r : Roster) : List Act → List (List Item)
  | [] => []
  | a :: acts =>
    if (r.act a).listing.version = r.listing.version then published (r.act a) acts
    else (r.act a).snapshot :: published (r.act a) acts

theorem published_append (r : Roster) (acts later : List Act) :
    published r (acts ++ later) = published r acts ++ published (acts.foldl act r) later := by
  induction acts generalizing r with
  | nil => rfl
  | cons a acts ih =>
      rw [List.cons_append, published, published, List.foldl_cons, ih]
      split
      · rfl
      · rw [List.cons_append]

theorem listing_act (r : Roster) (a : Act) (h : a ≠ .publish) : (r.act a).listing = r.listing := by
  cases a with
  | set item => rfl
  | drop name => rfl
  | publish => exact absurd rfl h

/-- Nobody sees changes before they are published. -/
theorem unseen_changes (r : Roster) (changes : List Act) (h : .publish ∉ changes) :
    (changes.foldl act r).listing = r.listing ∧ published r changes = [] := by
  induction changes generalizing r with
  | nil => exact ⟨rfl, rfl⟩
  | cons a changes ih =>
      have hfirst := listing_act r a fun ha => h (ha ▸ List.mem_cons_self)
      have hrest := ih (r.act a) fun hmem => h (List.mem_cons_of_mem a hmem)
      refine ⟨hrest.1.trans hfirst, ?_⟩
      rw [published, if_pos (congrArg Publication.version hfirst)]
      exact hrest.2

/-- An input that publishes ends with a publish, and so with a new version. -/
theorem accept_of_publishes (r : Roster) (i : Input) (h : i.publishes = true) :
    (r.accept i).listing = r.listing.publish (sorted (r.accept i).entries) ∧
      published r i.acts = [sorted (r.accept i).entries] := by
  rcases acts_cases i with ⟨_, changes, hacts, hchanges⟩ | ⟨hsilent, _⟩
  · have hunseen := unseen_changes r changes hchanges
    have haccept : r.accept i = (changes.foldl act r).publish := by
      rw [← foldl_acts, hacts, List.foldl_append]
      rfl
    have hmoves : (changes.foldl act r).publish.listing.version
        ≠ (changes.foldl act r).listing.version := Nat.succ_ne_self _
    rw [hacts, published_append, hunseen.2, haccept, ← hunseen.1]
    exact ⟨rfl, if_neg hmoves⟩
  · rw [h] at hsilent
    cases hsilent

/-- An input that does not publish leaves no trace. -/
theorem accept_of_silent (r : Roster) (i : Input) (h : i.publishes = false) :
    r.accept i = r ∧ published r i.acts = [] := by
  rcases acts_cases i with ⟨hpublishes, _⟩ | ⟨_, hacts⟩
  · rw [h] at hpublishes
    cases hpublishes
  · rw [← foldl_acts, hacts]
    exact ⟨rfl, rfl⟩

/-- The starts of a run that end with an input that publishes. -/
def fronts (inputs : List Input) : List (List Input) :=
  inputs.inits.filter fun front => front.getLast?.any Input.publishes

theorem fronts_concat (inputs : List Input) (i : Input) :
    fronts (inputs ++ [i])
      = fronts inputs ++ if i.publishes then [inputs ++ [i]] else [] := by
  have hinits : (inputs ++ [i]).inits = inputs.inits ++ [inputs ++ [i]] := List.inits_append _ _
  rw [fronts, hinits, List.filter_append, ← fronts, List.filter_singleton, List.getLast?_concat,
    Option.any_some]
  cases i.publishes <;> rfl

theorem feed_concat (r : Roster) (inputs : List Input) (i : Input) :
    r.feed (inputs ++ [i]) = (r.feed inputs).accept i := List.foldl_concat ..

/-- A run publishes one list for each input that is published, the entries of
    that moment, and moves the version on as often. The induction adds an input
    at the end, where its list is added. -/
theorem published_feed (r : Roster) (inputs : List Input) :
    published r (inputs.flatMap Input.acts)
        = (fronts inputs).map (fun front => sorted (r.feed front).entries) ∧
      (r.feed inputs).listing.version = r.listing.version + (fronts inputs).length := by
  induction inputs using List.reverseRecOn with
  | nil => exact ⟨rfl, rfl⟩
  | append_singleton inputs i ih =>
      rcases ih with ⟨hlists, hversion⟩
      rw [List.flatMap_append, List.flatMap_singleton, published_append, foldl_flatMap_acts, hlists,
        fronts_concat, List.map_append, List.length_append, feed_concat, ← Nat.add_assoc,
        ← hversion]
      cases h : i.publishes with
      | true =>
          have haccept := accept_of_publishes (r.feed inputs) i h
          rw [haccept.2, haccept.1]
          exact ⟨by rw [if_pos rfl, List.map_singleton, feed_concat], rfl⟩
      | false =>
          have haccept := accept_of_silent (r.feed inputs) i h
          rw [haccept.2, haccept.1]
          exact ⟨rfl, rfl⟩

/-! ### What others see of an input -/

/-- How an input looks to those who watch a roster. -/
structure TakenWhole (r : Roster) (i : Input) : Prop where
  /-- It is done by its acts. -/
  done : i.acts.foldl act r = r.accept i
  /-- Until the last of them the list is the old one. -/
  hidden : ∀ acts, acts <+: i.acts → acts ≠ i.acts → (acts.foldl act r).listing = r.listing
  /-- If it is published, there is a new list of the new entries. -/
  shown : i.publishes = true →
    (r.accept i).listing = r.listing.publish (sorted (r.accept i).entries)
  /-- If it is not, nothing at all has changed. -/
  silent : i.publishes = false → r.accept i = r
  /-- A watcher has news behind it exactly if it had before or it is published. -/
  news : ∀ seen ≤ r.listing.version,
    (r.accept i).listing.isNews seen = (r.listing.isNews seen || i.publishes)

/-- An input is seen as a whole, by every watcher and at every moment. -/
theorem takenWhole_accept (r : Roster) (i : Input) : TakenWhole r i where
  done := foldl_acts r i
  hidden acts hfront hne := by
    rcases acts_cases i with ⟨_, changes, hacts, hchanges⟩ | ⟨_, hacts⟩
    · -- What is missing is at least the publish at the end.
      rw [hacts, List.prefix_concat_iff] at hfront
      rcases hfront with hall | hfront
      · exact absurd (hall.trans hacts.symm) hne
      · exact (unseen_changes r acts fun hmem => hchanges (hfront.subset hmem)).1
    · rw [hacts] at hfront hne
      exact absurd (List.prefix_nil.mp hfront) hne
  shown h := (accept_of_publishes r i h).1
  silent h := (accept_of_silent r i h).1
  news seen hseen := by
    cases h : i.publishes with
    | true =>
        -- The new version is above all that a watcher can have seen.
        rw [(accept_of_publishes r i h).1, Bool.or_true, Publication.isNews, decide_eq_true_eq]
        exact Nat.ne_of_lt (Nat.lt_succ_of_le hseen)
    | false => rw [(accept_of_silent r i h).1, Bool.or_false]

/-- The lists that a roster publishes over any run of seeds, events and texts.
    For each seed and each event of a known kind there is one, which holds the
    entries of that moment, each once and in strictly increasing order, and
    there are no others. Whatever input comes next is seen by those who watch as
    a whole or, if it is not published, not at all. -/
theorem publications_of_run (inputs : List Input) :
    published empty (inputs.flatMap Input.acts)
        = (fronts inputs).map (fun front => sorted (empty.feed front).entries) ∧
      (empty.feed inputs).listing.version = (fronts inputs).length ∧
      (∀ front, (sorted (empty.feed front).entries).Perm ((empty.feed front).entries.map Prod.snd) ∧
        (sorted (empty.feed front).entries).Pairwise
          fun a b => compareNames a.name b.name = .lt) ∧
      ∀ i, TakenWhole (empty.feed inputs) i := by
  have hlists := published_feed empty inputs
  refine ⟨hlists.1, hlists.2.trans (Nat.zero_add _), fun front => ⟨perm_sorted _, ?_⟩,
    takenWhole_accept _⟩
  rw [feed_eq_run]
  exact pairwise_sorted _ (consistent_run empty _ consistent_empty).filed

/-- Two streams are seeded at once, and three lists are published: that of the
    seed, that of the deletion of a stream which is not there, and that of an
    empty seed. The unknown kind and the text without a name publish none. -/
theorem publications_of_refused_texts :
    ∃ inputs, inputs = [.seed [⟨"b", 2⟩, ⟨"A", 1⟩], .event ⟨.other "RENAMED", "b", 9⟩,
        .text "[\"DELETED\",\"zz\"]", .text "[\"DELETED\"]", .seed []] ∧
      published empty (inputs.flatMap Input.acts)
        = [[⟨"A", 1⟩, ⟨"b", 2⟩], [⟨"A", 1⟩, ⟨"b", 2⟩], [⟨"A", 1⟩, ⟨"b", 2⟩]] ∧
      (empty.feed inputs).listing.version = 3 ∧
      (Input.text "[\"DELETED\"]").publishes = false ∧
      (empty.feed inputs).accept (.text "[\"DELETED\"]") = empty.feed inputs := by
  refine ⟨_, rfl, ?_⟩
  rcases publications_of_run [.seed [⟨"b", 2⟩, ⟨"A", 1⟩], .event ⟨.other "RENAMED", "b", 9⟩,
    .text "[\"DELETED\",\"zz\"]", .text "[\"DELETED\"]", .seed []] with
    ⟨hlists, hversion, _, hwhole⟩
  have hrefused : (Input.text "[\"DELETED\"]").publishes = false := by decide +kernel
  have hentries : (fronts [.seed [⟨"b", 2⟩, ⟨"A", 1⟩], .event ⟨.other "RENAMED", "b", 9⟩,
      .text "[\"DELETED\",\"zz\"]", .text "[\"DELETED\"]", .seed []]).map
        (fun front => (empty.feed front).entries)
      = List.replicate 3 [("A", ⟨"A", 1⟩), ("b", ⟨"b", 2⟩)] := by decide +kernel
  have hsorted : sorted [("A", ⟨"A", 1⟩), ("b", ⟨"b", 2⟩)] = [⟨"A", 1⟩, ⟨"b", 2⟩] :=
    List.mergeSort_of_pairwise (by decide +kernel)
  refine ⟨?_, hversion.trans (by decide +kernel), hrefused, (hwhole _).silent hrefused⟩
  have heach := congrArg (List.map sorted) hentries
  rw [List.map_map, List.map_replicate, hsorted] at heach
  exact hlists.trans heach

end Roster

end StreamRoster
