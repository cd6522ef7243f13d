import StreamRoster.Proofs.Json.Records

/-!
# Members in Any Order

What is read from an object depends on its members and not on their order, and
members that a type does not know may be put in anywhere.

Both are said about texts. A text has members (`ObjectText`), which are determined
by it. Another text rearranges them if it has the same members and further unknown
ones in any order (`Rearranges`), however it is spaced. Then one is read as the
other is, or neither is read. The faults may differ, since the first one in a text
is reported.

For records this is what gathering in a draft comes to (`Record.gather_insert`).
A value is no record: its content is read as content of its type if the type is
known, and as a tree that is converted later if not. That both come to the same
is `Value.ofMembers?_insert`.

## Main definitions

* `Rearranges`: The same members, and unknown ones, in any order.
* `OrderFree`: A reader that reads rearranged texts alike.

## Theorems

* `Record.orderFree`, `Value.orderFree`: Records and values.
* `read_rearranged`: All types that are read from objects.
-/

namespace StreamRoster

open Json

variable {α σ : Type}

namespace Json

/-- Two object texts are read alike if their members make the same. -/
theorem readAll_congr (read : Reader α) (value : Block → Option α) (h : ReadsBlock read value)
    (text other : String) (ms others : List Member) (htext : ObjectText text ms)
    (hother : ObjectText other others) (hsame : value (.object others) = value (.object ms))
    (a : α) :
    readAll read text = .ok a ↔ readAll read other = .ok a := by
  rw [readAll_of_block read value h text _ htext, readAll_of_block read value h other _ hother,
    hsame]

/-- A text has the given members in some order, and further ones of none of the
    given keys anywhere between them. -/
def Rearranges (ms : List Member) (keys : List String) (other : String) : Prop :=
  ∃ others extra, ObjectText other others ∧ (∀ m ∈ extra, Unknown keys m) ∧
    (ms ++ extra).Perm others

/-- A text of the given members is read as every text is that rearranges them. -/
def OrderFree (read : Reader α) (keys : List String) (text : String) (ms : List Member) : Prop :=
  ∀ other, Rearranges ms keys other → ∀ a, readAll read text = .ok a ↔ readAll read other = .ok a

theorem Record.ofBlock?_insert (r : Record σ α) (h : Lawful r.fields) (room : Nat)
    (ms extra others : List Member) (hextra : ∀ m ∈ extra, Unknown (r.fields.map Field.key) m)
    (hperm : (ms ++ extra).Perm others) :
    r.ofBlock? room (.object others) = r.ofBlock? room (.object ms) := by
  cases room with
  | zero => rfl
  | succ room =>
      rw [ofBlock?, ofBlock?, gather_insert r.fields h room r.start ms extra others hextra hperm]

/-- A record is read alike with its members in any order and unknown ones put in
    anywhere. -/
theorem Record.orderFree (r : Record σ α) (h : Lawful r.fields) (room : Nat) (text : String)
    (ms : List Member) (htext : ObjectText text ms) :
    OrderFree (r.read room) (r.fields.map Field.key) text ms := by
  intro other hother a
  rcases hother with ⟨others, extra, hother, hextra, hperm⟩
  exact readAll_congr _ _ (r.readsBlock h.oneValue room) text other ms others htext hother
    (r.ofBlock?_insert h room ms extra others hextra hperm) a

end Json

theorem Value.orderFree (room : Nat) (text : String) (ms : List Member)
    (htext : ObjectText text ms) : OrderFree (Value.read room) keys text ms := by
  intro other hother v
  rcases hother with ⟨others, extra, hother, hextra, hperm⟩
  refine readAll_congr _ _ (Value.readsBlock room) text other ms others htext hother ?_ v
  cases room with
  | zero => rfl
  | succ room => exact ofMembers?_insert room ms extra others hextra hperm

/-- A value whose content comes first is read as the one whose type does. -/
theorem Value.read_contentFirst (room : Nat) (type content : List Char)
    (htype : skip type = .ok ((), [])) (hcontent : skip content = .ok ((), [])) (v : Value) :
    readAll (Value.read room) (String.ofList (writeObject [("value", content), ("type", type)])) =
        .ok v ↔
      readAll (Value.read room) (String.ofList (writeObject [("type", type), ("value", content)])) =
        .ok v := by
  have hwhole : ∀ m ∈ [("value", content), ("type", type)], skip m.2 = .ok ((), []) := by
    intro m hm
    rcases List.mem_cons.mp hm with rfl | hm
    · exact hcontent
    · rcases List.mem_singleton.mp hm with rfl
      exact htype
  refine Value.orderFree room _ _ (objectText_written _ hwhole) _ ?_ v
  refine ⟨_, [], objectText_written [("type", type), ("value", content)] fun m hm => ?_, nofun, ?_⟩
  · exact hwhole m ((List.Perm.swap _ _ []).mem_iff.mp hm)
  · exact List.Perm.swap _ _ []

/-- Whatever is read from an object does not depend on the order of its members,
    and members of unknown keys may stand anywhere between them. -/
theorem read_rearranged (text : String) (t : List Char) (htext : WellFormed text)
    (hobject : skipSpace text.toList = '\x7b' :: t) :
    (∃ ms, ObjectText text ms ∧ (∀ others, ObjectText text others → others = ms) ∧
      OrderFree (Item.read topRoom) ["name", "dataCount"] text ms ∧
      OrderFree (Event.read topRoom) ["type", "name", "dataCount"] text ms ∧
      OrderFree (Parameter.read topRoom) ["qualifiedName", "shortDescription", "units"] text ms ∧
      OrderFree (ParameterValue.read topRoom) ["rawValue", "engValue", "generationTime"] text ms ∧
      OrderFree (Value.read topRoom) ["type", "value"] text ms ∧
      OrderFree (Action.read topRoom)
        ["type", "target", "clientX", "clientY", "grabbing", "date"] text ms ∧
      OrderFree (Response.read topRoom) ["success", "data", "error"] text ms) ∧
    ∀ type content : List Char, skip type = .ok ((), []) → skip content = .ok ((), []) →
      ∀ v, readAll (Value.read topRoom)
          (String.ofList (writeObject [("value", content), ("type", type)])) = .ok v ↔
        readAll (Value.read topRoom)
          (String.ofList (writeObject [("type", type), ("value", content)])) = .ok v := by
  refine ⟨?_, Value.read_contentFirst topRoom⟩
  rcases exists_objectText text t htext hobject with ⟨ms, hms⟩
  exact ⟨ms, hms, fun others hothers => objectText_unique text others ms hothers hms,
    Item.record.orderFree Item.lawful topRoom text ms hms,
    Event.record.orderFree Event.lawful topRoom text ms hms,
    Parameter.record.orderFree Parameter.lawful topRoom text ms hms,
    ParameterValue.record.orderFree ParameterValue.lawful topRoom text ms hms,
    Value.orderFree topRoom text ms hms,
    Action.record.orderFree Action.lawful topRoom text ms hms,
    Response.record.orderFree Response.lawful topRoom text ms hms⟩

/-- A value with its content in front is read as the one with its type in front
    and a member in between that no value has. -/
theorem read_rearranged_of_contentFirst :
    readAll (Value.read topRoom) (String.ofList (writeObject
      [("type", writeText "SINT64"), ("unit", "null".toList), ("value", ['5'])])) =
      .ok (.sint64 5) := by
  have htype : skip (writeText "SINT64") = .ok ((), []) := rfl
  have hunit : skip "null".toList = .ok ((), []) := rfl
  have hvalue : skip ['5'] = .ok ((), []) := rfl
  have htext : ObjectText _ _ := objectText_written
    [("value", ['5']), ("type", writeText "SINT64")]
    (List.forall_mem_cons.mpr ⟨hvalue, List.forall_mem_singleton.mpr htype⟩)
  have hother : ObjectText _ _ := objectText_written
    [("type", writeText "SINT64"), ("unit", "null".toList), ("value", ['5'])]
    (List.forall_mem_cons.mpr ⟨htype, List.forall_mem_cons.mpr
      ⟨hunit, List.forall_mem_singleton.mpr hvalue⟩⟩)
  have hread : readAll (Value.read topRoom) (String.ofList (writeObject
      [("value", ['5']), ("type", writeText "SINT64")])) = .ok (.sint64 5) := rfl
  rcases read_rearranged _ _ (wellFormed_of_blockText _ _ htext) rfl with
    ⟨⟨ms, _, hunique, _, _, _, _, hfree, _⟩, _⟩
  -- The members are the ones that were written, as a text has no others.
  rw [← hunique _ htext] at hfree
  refine (hfree _ ⟨_, [⟨some "unit", "null".toList⟩], hother, ?_, ?_⟩ _).mp hread
  · intro m hm
    rcases List.mem_singleton.mp hm with rfl
    exact ⟨"unit", rfl, by decide⟩
  · exact (List.Perm.swap _ _ _).trans ((List.Perm.swap _ _ _).cons _)

end StreamRoster
