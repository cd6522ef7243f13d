import StreamRoster.Log.Line
import StreamRoster.Roster.Event
import StreamRoster.Roster.NameOrder
import StreamRoster.Roster.Publication

/-!
# The Roster

The live list of streams, kept in step with a feed of events.

A roster holds one entry per name, in the byte order of the names. An event
or a seed changes the entries, and then the whole list is published anew,
sorted by name. Seeding changes any number of entries and publishes once. An
event with an unknown tag is reported and changes nothing, so it publishes
nothing either; a deletion of a name that is not there changes nothing but is
published all the same.

## Main definitions

* `Roster`: The entries and the published list.
* `Roster.seed`: Enters a list of items.
* `Roster.apply`: Applies an event.
* `Roster.notices`: What applying an event reports.
* `Roster.Step`: What can happen to a roster.
* `Roster.run`: The roster after several steps.
-/

namespace StreamRoster

/-- The entries of a roster in the byte order of their names, and the list it
    last published. -/
structure Roster where
  entries : List (String × Item)
  listing : Publication (List Item)
  deriving DecidableEq, Repr

namespace Roster

/-- A roster without streams. -/
def empty : Roster := ⟨[], .start []⟩

/-- The entry of a name. -/
def find? (entries : List (String × Item)) (name : String) : Option Item :=
  (entries.find? fun e => e.1 = name).map Prod.snd

/-- Set the count of an entry, which is made in its place if there is none. -/
def upsert (entries : List (String × Item)) (name : String) (count : UInt64) :
    List (String × Item) :=
  match entries with
  | [] => [(name, ⟨name, count⟩)]
  | e :: rest =>
    match compareCodes name.toList e.1.toList with
    | .lt => (name, ⟨name, count⟩) :: e :: rest
    | .eq => (e.1, { e.2 with count }) :: rest
    | .gt => e :: upsert rest name count

/-- Remove the entry of a name. -/
def remove (entries : List (String × Item)) (name : String) : List (String × Item) :=
  entries.filter fun e => e.1 ≠ name

/-- The items of some entries in the order of their names. -/
def sorted (entries : List (String × Item)) : List Item :=
  (entries.map Prod.snd).mergeSort fun a b => (compareNames a.name b.name).isLE

/-- Publish the current entries. -/
def publish (r : Roster) : Roster := { r with listing := r.listing.publish (sorted r.entries) }

/-- Enter a list of items as if each had been created, then publish once. -/
def seed (r : Roster) (items : List Item) : Roster :=
  publish { r with
    entries := items.foldl (fun entries item => upsert entries item.name item.count) r.entries }

/-- Apply an event and publish, unless its tag is unknown. -/
def apply (r : Roster) (event : Event) : Roster :=
  match event.kind with
  | .created | .updated =>
    publish { r with entries := upsert r.entries event.name event.count }
  | .deleted => publish { r with entries := remove r.entries event.name }
  | .other _ => r

/-- What applying an event reports. -/
def notices (r : Roster) (event : Event) : List Log.Line :=
  match event.kind with
  | .created | .updated => []
  | .deleted =>
    if (find? r.entries event.name).isSome then []
    else [.debug "Delete for unknown stream"]
  | .other _ => [.warn "Unexpected stream update type"]

/-- What can happen to a roster. -/
inductive Step where
  | seed (items : List Item)
  | event (event : Event)
  deriving DecidableEq, Repr

/-- The roster after a step. -/
def step (r : Roster) : Step → Roster
  | .seed items => r.seed items
  | .event event => r.apply event

/-- The roster after several steps. -/
def run (r : Roster) (steps : List Step) : Roster := steps.foldl step r

/-- The published list. -/
def snapshot (r : Roster) : List Item := r.listing.value

/-- The number of streams. -/
def size (r : Roster) : Nat := r.entries.length

/-- Whether there is no stream. -/
def isEmpty (r : Roster) : Bool := r.entries.isEmpty

end Roster

end StreamRoster
