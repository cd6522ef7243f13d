import StreamRoster.Api.Response
import StreamRoster.Parameter.Basic
import StreamRoster.Proofs.Json.Gathering
import StreamRoster.Proofs.Parameter.ValueReading
import StreamRoster.Roster.Event
import StreamRoster.Timeline.Action

/-!
# The Records

The drafts of all types that are read as records, place by place.

A place is where one field goes, and how its value is read. Each type is shown to
have places of its own for its fields, with readers of one value in them
(`Record.Places`). What follows from that is said once, about places, and not
here: that fields may come in any order, and what a place holds in the end.

Most places hold an optional value twice over, since a field that was not met and
one that is `null` are different while a record is read.

## Main definitions

* `Item.slots`, `Event.slots`, `Parameter.slots`, `ParameterValue.slots`,
  `Action.slots`, `Response.slots`: The places of each type.

## Theorems

* `Item.lawful`, `Event.lawful`, `Parameter.lawful`, `ParameterValue.lawful`,
  `Action.lawful`, `Response.lawful`: Their fields are lawful.
-/

namespace StreamRoster

open Json

namespace Json

/-- A string is one value, since it could be read as a tree. -/
theorem oneValue_anyText : OneValue anyText :=
  (readsTree_text "a string" 0).oneValue

theorem oneValue_nullableText : OneValue (nullable anyText) :=
  oneValue_nullable anyText oneValue_anyText

/-- A truth value is one value for the same reason. -/
theorem oneValue_boolean : OneValue boolean :=
  (readsTree_boolean 0).oneValue

/-- A float is a number of either kind, brought to a float behind it. -/
theorem oneValue_double : OneValue double :=
  oneValue_bind _ (fun n => some n.toDouble) _ (readsTree_anyNumber "f64" 0).oneValue fun _ _ => rfl

end Json

/-- A timestamp is a string that is looked at, and it may be `null`. -/
theorem Timestamp.oneValue_nullable : OneValue (nullable Timestamp.readJson) :=
  Json.oneValue_nullable _ (Timestamp.readsTree 0).oneValue

/-- Any string is the tag of an event. -/
theorem EventKind.oneValue : OneValue EventKind.read :=
  oneValue_bind _ (fun tag => some (EventKind.ofTag tag)) _ oneValue_anyText fun _ _ => rfl

/-- A count is made of a tree of any kind, which is read before. -/
theorem Count.oneValue (room : Nat) : OneValue (Count.read room) := by
  refine oneValue_bind _ (fun t => (Count.ofTree t).toOption) _ (readsTree_tree room).oneValue
    fun t s => ?_
  -- Whether the tree is a count does not depend on the text behind it.
  cases hcount : Count.ofTree t <;> simp only [hcount] <;> rfl

namespace Item

/-- The name of an item. A list has to have it. -/
def nameSlot : Record.Slot Draft :=
  ⟨String, "name", true, Draft.name, fun name d => { d with name := some name }, fun _ => anyText⟩

/-- The count of an item, which a list may leave out. -/
def countSlot : Record.Slot Draft :=
  ⟨UInt64, "dataCount", false, Draft.count, fun count d => { d with count := some count },
    Count.read⟩

/-- The places in the draft of an item. -/
def slots : List (Record.Slot Draft) :=
  [nameSlot, countSlot]

/-- Two readers of one value, and two keys that differ. That one place does not
    change the other shows by computing. -/
theorem places : Record.Places slots where
  fits x hx := by
    simp only [slots, List.mem_cons, List.not_mem_nil, or_false] at hx
    rcases hx with rfl | rfl
    · exact ⟨fun _ => oneValue_anyText, fun _ _ => rfl⟩
    · exact ⟨Count.oneValue, fun _ _ => rfl⟩
  apart := by
    simp only [slots, List.pairwise_cons, List.mem_cons, forall_eq, List.not_mem_nil, or_false,
      false_imp_iff, implies_true, List.Pairwise.nil, and_true]
    exact ⟨fun _ _ => rfl, fun _ _ => rfl, fun _ _ _ => rfl⟩
  keys := by decide

/-- The fields of an item are those of its places. -/
theorem lawful : Record.Lawful record.fields :=
  places.lawful slots

/-- An item is what is made of the block that stands there. -/
theorem readsBlock (room : Nat) : ReadsBlock (read room) (record.ofBlock? room) :=
  record.readsBlock lawful.oneValue room

/-- An item is one value, so there are lists of them. -/
theorem oneValue (room : Nat) : OneValue (read room) :=
  (readsBlock room).oneValue

end Item

namespace Event

/-- The kind of an event, as a tag. -/
def kindSlot : Record.Slot Draft :=
  ⟨EventKind, "type", true, Draft.kind, fun kind d => { d with kind := some kind },
    fun _ => EventKind.read⟩

/-- The name of the stream that an event is about. -/
def nameSlot : Record.Slot Draft :=
  ⟨String, "name", true, Draft.name, fun name d => { d with name := some name }, fun _ => anyText⟩

/-- The count that an event brings. -/
def countSlot : Record.Slot Draft :=
  ⟨UInt64, "dataCount", false, Draft.count, fun count d => { d with count := some count },
    Count.read⟩

/-- The places in the draft of an event. -/
def slots : List (Record.Slot Draft) :=
  [kindSlot, nameSlot, countSlot]

/-- The three places of an event are apart, pair by pair. -/
theorem places : Record.Places slots where
  fits x hx := by
    simp only [slots, List.mem_cons, List.not_mem_nil, or_false] at hx
    rcases hx with rfl | rfl | rfl
    · exact ⟨fun _ => EventKind.oneValue, fun _ _ => rfl⟩
    · exact ⟨fun _ => oneValue_anyText, fun _ _ => rfl⟩
    · exact ⟨Count.oneValue, fun _ _ => rfl⟩
  apart := by
    simp only [slots, List.pairwise_cons, List.mem_cons, forall_eq_or_imp, forall_eq,
      List.not_mem_nil, or_false, false_imp_iff, implies_true, List.Pairwise.nil, and_true]
    -- Kind and name, kind and count, name and count.
    refine ⟨⟨?_, ?_⟩, ?_⟩
    all_goals exact ⟨fun _ _ => rfl, fun _ _ => rfl, fun _ _ _ => rfl⟩
  keys := by decide

theorem lawful : Record.Lawful record.fields :=
  places.lawful slots

end Event

namespace Parameter

/-- The qualified name of a parameter. -/
def nameSlot : Record.Slot Draft :=
  ⟨String, "qualifiedName", true, Draft.qualifiedName,
    fun name d => { d with qualifiedName := some name }, fun _ => anyText⟩

/-- The short description of a parameter, which may be `null`. -/
def descriptionSlot : Record.Slot Draft :=
  ⟨Option String, "shortDescription", false, Draft.shortDescription,
    fun text d => { d with shortDescription := some text }, fun _ => nullable anyText⟩

/-- The units of a parameter, which may be `null`. -/
def unitsSlot : Record.Slot Draft :=
  ⟨Option String, "units", false, Draft.units, fun text d => { d with units := some text },
    fun _ => nullable anyText⟩

/-- The places in the draft of a parameter. -/
def slots : List (Record.Slot Draft) :=
  [nameSlot, descriptionSlot, unitsSlot]

theorem places : Record.Places slots where
  fits x hx := by
    simp only [slots, List.mem_cons, List.not_mem_nil, or_false] at hx
    rcases hx with rfl | rfl | rfl
    · exact ⟨fun _ => oneValue_anyText, fun _ _ => rfl⟩
    · exact ⟨fun _ => oneValue_nullableText, fun _ _ => rfl⟩
    · exact ⟨fun _ => oneValue_nullableText, fun _ _ => rfl⟩
  apart := by
    simp only [slots, List.pairwise_cons, List.mem_cons, forall_eq_or_imp, forall_eq,
      List.not_mem_nil, or_false, false_imp_iff, implies_true, List.Pairwise.nil, and_true]
    refine ⟨⟨?_, ?_⟩, ?_⟩
    all_goals exact ⟨fun _ _ => rfl, fun _ _ => rfl, fun _ _ _ => rfl⟩
  keys := by decide

theorem lawful : Record.Lawful record.fields :=
  places.lawful slots

end Parameter

namespace ParameterValue

/-- The raw value, which is an object or a list itself. -/
def rawSlot : Record.Slot Draft :=
  ⟨Value, "rawValue", true, Draft.raw, fun value d => { d with raw := some value }, Value.read⟩

def engineeringSlot : Record.Slot Draft :=
  ⟨Value, "engValue", true, Draft.engineering, fun value d => { d with engineering := some value },
    Value.read⟩

/-- The time of generation, which may be `null`. -/
def timeSlot : Record.Slot Draft :=
  ⟨Option Timestamp, "generationTime", false, Draft.generationTime,
    fun time d => { d with generationTime := some time }, fun _ => nullable Timestamp.readJson⟩

/-- The places in the draft of a parameter value. -/
def slots : List (Record.Slot Draft) :=
  [rawSlot, engineeringSlot, timeSlot]

theorem places : Record.Places slots where
  fits x hx := by
    simp only [slots, List.mem_cons, List.not_mem_nil, or_false] at hx
    rcases hx with rfl | rfl | rfl
    · exact ⟨Value.oneValue, fun _ _ => rfl⟩
    · exact ⟨Value.oneValue, fun _ _ => rfl⟩
    · exact ⟨fun _ => Timestamp.oneValue_nullable, fun _ _ => rfl⟩
  apart := by
    simp only [slots, List.pairwise_cons, List.mem_cons, forall_eq_or_imp, forall_eq,
      List.not_mem_nil, or_false, false_imp_iff, implies_true, List.Pairwise.nil, and_true]
    refine ⟨⟨?_, ?_⟩, ?_⟩
    all_goals exact ⟨fun _ _ => rfl, fun _ _ => rfl, fun _ _ _ => rfl⟩
  keys := by decide

theorem lawful : Record.Lawful record.fields :=
  places.lawful slots

end ParameterValue

namespace Action

/-- The kind of an action, by name. -/
def kindSlot : Record.Slot Draft :=
  ⟨ActionType, "type", true, Draft.kind, fun kind d => { d with kind := some kind },
    ActionType.read⟩

/-- The target of an action, which may be `null`. -/
def targetSlot : Record.Slot Draft :=
  ⟨Option String, "target", false, Draft.target, fun target d => { d with target := some target },
    fun _ => nullable anyText⟩

/-- The first coordinate of the place of an action. -/
def xSlot : Record.Slot Draft :=
  ⟨Double, "clientX", true, Draft.clientX, fun x d => { d with clientX := some x }, fun _ => double⟩

def ySlot : Record.Slot Draft :=
  ⟨Double, "clientY", true, Draft.clientY, fun y d => { d with clientY := some y }, fun _ => double⟩

/-- Whether the action grabs something. -/
def grabbingSlot : Record.Slot Draft :=
  ⟨Bool, "grabbing", true, Draft.grabbing, fun grabbing d => { d with grabbing := some grabbing },
    fun _ => boolean⟩

/-- The date of an action, which may be `null`. -/
def dateSlot : Record.Slot Draft :=
  ⟨Option Timestamp, "date", false, Draft.date, fun date d => { d with date := some date },
    fun _ => nullable Timestamp.readJson⟩

/-- The places in the draft of an action. -/
def slots : List (Record.Slot Draft) :=
  [kindSlot, targetSlot, xSlot, ySlot, grabbingSlot, dateSlot]

/-- The six places of an action are apart, which is fifteen pairs. -/
theorem places : Record.Places slots where
  fits x hx := by
    simp only [slots, List.mem_cons, List.not_mem_nil, or_false] at hx
    rcases hx with rfl | rfl | rfl | rfl | rfl | rfl
    · exact ⟨oneValue_variant ActionType.names, fun _ _ => rfl⟩
    · exact ⟨fun _ => oneValue_nullableText, fun _ _ => rfl⟩
    · exact ⟨fun _ => oneValue_double, fun _ _ => rfl⟩
    · exact ⟨fun _ => oneValue_double, fun _ _ => rfl⟩
    · exact ⟨fun _ => oneValue_boolean, fun _ _ => rfl⟩
    · exact ⟨fun _ => Timestamp.oneValue_nullable, fun _ _ => rfl⟩
  apart := by
    simp only [slots, List.pairwise_cons, List.mem_cons, forall_eq_or_imp, forall_eq,
      List.not_mem_nil, or_false, false_imp_iff, implies_true, List.Pairwise.nil, and_true]
    -- Each place with all that come behind it.
    refine ⟨⟨?_, ?_, ?_, ?_, ?_⟩, ⟨?_, ?_, ?_, ?_⟩, ⟨?_, ?_, ?_⟩, ⟨?_, ?_⟩, ?_⟩
    all_goals exact ⟨fun _ _ => rfl, fun _ _ => rfl, fun _ _ _ => rfl⟩
  keys := by decide

theorem lawful : Record.Lawful record.fields :=
  places.lawful slots

end Action

namespace Response

/-- Whether an answer is a success. -/
def successSlot : Record.Slot (Draft (List Item)) :=
  ⟨Bool, "success", true, Draft.success, fun success d => { d with success := some success },
    fun _ => boolean⟩

/-- The items of an answer, or `null`. -/
def dataSlot : Record.Slot (Draft (List Item)) :=
  ⟨Option (List Item), "data", true, Draft.data, fun data d => { d with data := some data },
    fun room => nullable (list Item.read room)⟩

/-- The message of an answer, or `null`. -/
def errorSlot : Record.Slot (Draft (List Item)) :=
  ⟨Option String, "error", true, Draft.error, fun error d => { d with error := some error },
    fun _ => nullable anyText⟩

/-- The places in the draft of the answer to a list request. -/
def slots : List (Record.Slot (Draft (List Item))) :=
  [successSlot, dataSlot, errorSlot]

theorem places : Record.Places slots where
  fits x hx := by
    simp only [slots, List.mem_cons, List.not_mem_nil, or_false] at hx
    rcases hx with rfl | rfl | rfl
    · exact ⟨fun _ => oneValue_boolean, fun _ _ => rfl⟩
    · -- A list of items is one value because an item is.
      exact ⟨fun room => oneValue_nullable _ (oneValue_list Item.read Item.oneValue room),
        fun _ _ => rfl⟩
    · exact ⟨fun _ => oneValue_nullableText, fun _ _ => rfl⟩
  apart := by
    simp only [slots, List.pairwise_cons, List.mem_cons, forall_eq_or_imp, forall_eq,
      List.not_mem_nil, or_false, false_imp_iff, implies_true, List.Pairwise.nil, and_true]
    refine ⟨⟨?_, ?_⟩, ?_⟩
    all_goals exact ⟨fun _ _ => rfl, fun _ _ => rfl, fun _ _ _ => rfl⟩
  keys := by decide

theorem lawful : Record.Lawful record.fields :=
  places.lawful slots

end Response

end StreamRoster
