import StreamRoster.Proofs.Feed.Calls
import StreamRoster.Proofs.Json.Rereading

/-!
# What the Server Reads

The texts that a source puts on its connections, over every run.

The server sees texts, and what it makes of them is up to its own reader. Both
texts that there are have a tree, and the tree is all that a reader can know of
them. So nothing is lost on the way: from the text of a message its kind and its
number can be told, and of an opening the instance too, whatever characters are in
it.

With the calls in order this says what the server reads of a connection as a whole.
It is a start of two trees, the opening and the cancel of the recorded call. The
close has no text; it is a frame of its own, and comes last.

## Main definitions

* `ClientMessage.tree?`: The tree of a message, if it has a text.
* `Connection.texts`: The texts on a connection.

## Theorems

* `ClientMessage.readAll_json?`: The text of a message is read as its tree.
* `ClientMessage.json?_injective`: No two messages have the same text.
* `sent_prefix_of_run`: On every connection there is a start of its script.
* `texts_of_run`: What the server reads on the connections of any run.
-/

namespace StreamRoster

open Json

namespace Feed

namespace ClientMessage

/-- The tree of a message, if it has a text. -/
def tree? : ClientMessage → Option Tree
  | .openCall id inst => some (.object [("type", .text Frame.topic),
      ("id", .number (.integer id.toNat)), ("options", .object [("instance", .text inst)])])
  | .cancel call => some (.object [("type", .text "cancel"),
      ("options", .object [("call", .number (.integer call.toNat))])])
  | .close => none

theorem json?_eq (m : ClientMessage) : m.json? = m.tree?.map Tree.json := by
  cases m with
  | openCall id inst =>
      rw [json?, ← json_integer]
      rfl
  | cancel call =>
      rw [json?, ← json_integer]
      rfl
  | close => rfl

theorem plain_number (room : Nat) (n : UInt32) : Plain room (.number (.integer n.toNat)) :=
  Plain.number room _ (Nat.lt_trans n.toNat_lt (by decide))

/-- The numbers and texts of a message fit into its tree, which is two levels
    deep. -/
theorem plain_tree? (m : ClientMessage) (t : Tree) (h : m.tree? = some t) : Plain topRoom t := by
  cases m with
  | close => cases h
  | openCall id inst =>
      rcases Option.some.inj h with rfl
      refine Plain.object 126 _ fun member hmember => ?_
      simp only [List.mem_cons, List.not_mem_nil, or_false] at hmember
      rcases hmember with rfl | rfl | rfl
      · exact Plain.text 126 _
      · exact plain_number 126 id
      · refine Plain.object 125 _ fun option hoption => ?_
        rcases List.mem_singleton.mp hoption with rfl
        exact Plain.text 125 inst
  | cancel call =>
      rcases Option.some.inj h with rfl
      refine Plain.object 126 _ fun member hmember => ?_
      simp only [List.mem_cons, List.not_mem_nil, or_false] at hmember
      rcases hmember with rfl | rfl
      · exact Plain.text 126 _
      · refine Plain.object 125 _ fun option hoption => ?_
        rcases List.mem_singleton.mp hoption with rfl
        exact plain_number 125 call

/-- The text of a message is read as its tree. -/
theorem readAll_json? (m : ClientMessage) (t : Tree) (h : m.tree? = some t) :
    ∃ text, m.json? = some text ∧ readAll (tree topRoom) (String.ofList text) = .ok t := by
  refine ⟨t.json, ?_, readAll_json topRoom t (plain_tree? m t h)⟩
  rw [json?_eq, h, Option.map_some]

theorem number_inj (n k : UInt32)
    (h : Tree.number (.integer n.toNat) = .number (.integer k.toNat)) : n = k := by
  have hnat := Number.integer.inj (Tree.number.inj h)
  exact UInt32.toNat_inj.mp (Int.ofNat.inj hnat)

theorem tree?_injective : Function.Injective tree? := by
  intro m k h
  -- Messages of two kinds differ in the number of their members.
  cases m with
  | openCall id inst =>
      cases k with
      | openCall id' inst' =>
          have hmembers := Tree.object.inj (Option.some.inj h)
          simp only [List.cons.injEq, Prod.mk.injEq, Tree.object.injEq, Tree.text.injEq,
            true_and, and_true] at hmembers
          rw [number_inj id id' hmembers.1, hmembers.2]
      | cancel call => exact absurd (Tree.object.inj (Option.some.inj h)) (by simp)
      | close => cases h
  | cancel call =>
      cases k with
      | openCall id' inst' => exact absurd (Tree.object.inj (Option.some.inj h)) (by simp)
      | cancel call' =>
          have hmembers := Tree.object.inj (Option.some.inj h)
          simp only [List.cons.injEq, Prod.mk.injEq, Tree.object.injEq, true_and,
            and_true] at hmembers
          rw [number_inj call call' hmembers]
      | close => cases h
  | close =>
      cases k with
      | openCall | cancel => cases h
      | close => rfl

/-- No two messages have the same text, and only the close has none. -/
theorem json?_injective : Function.Injective json? := by
  intro m k h
  rw [json?_eq, json?_eq] at h
  refine tree?_injective ?_
  cases hm : m.tree? with
  | none =>
      rw [hm] at h
      exact (Option.map_eq_none_iff.mp h.symm).symm
  | some t =>
      cases hk : k.tree? with
      | none =>
          rw [hm, hk] at h
          cases h
      | some u =>
          -- The two texts are one, and so are the trees that are read off it.
          rw [hm, hk] at h
          have ht := readAll_json topRoom t (plain_tree? m t hm)
          rw [Option.some.inj h, readAll_json topRoom u (plain_tree? k u hk)] at ht
          rw [Except.ok.inj ht]

end ClientMessage

/-- The texts on a connection. -/
def Connection.texts (c : Connection) : List (List Char) := c.sent.filterMap ClientMessage.json?

namespace Session

/-- On every connection of a run there is a start of what there is to say on it. -/
theorem sent_prefix_of_run (source : Source) (moves : List Move) (c : Connection)
    (hc : c ∈ ((start source).run moves).connections) : c.sent <+: c.script source.inst := by
  have hspoken := spoken_run (start source) moves ⟨nofun, nofun⟩
  have hkept := (numbered_run source moves).kept
  rcases List.mem_append.mp hc with hreleased | hactive
  · rcases List.mem_map.mp hreleased with ⟨r, hr, rfl⟩
    rw [← hkept]
    exact r.sent_prefix_script _ (hspoken.released r hr)
  · have hbegun := (hspoken.active c (Option.mem_toList.mp hactive)).begun
    rw [hkept] at hbegun
    exact hbegun.trans (List.prefix_append [_] _)

/-- What the server reads on a connection of any run: a start of the opening, with
    the number of the connection and the instance of the source, and the cancel of
    the call that is recorded there, if one is. -/
theorem texts_of_run (source : Source) (moves : List Move) (c : Connection)
    (hc : c ∈ ((start source).run moves).connections) :
    ∃ trees, c.texts.map (fun text => readAll (tree topRoom) (String.ofList text)) =
        trees.map .ok ∧
      trees <+: .object [("type", .text Frame.topic), ("id", .number (.integer c.id.toNat)),
          ("options", .object [("instance", .text source.inst)])] ::
        (c.call.toList.map fun call => .object [("type", .text "cancel"),
          ("options", .object [("call", .number (.integer call.toNat))])]) := by
  refine ⟨c.sent.filterMap ClientMessage.tree?, ?_, ?_⟩
  · rw [Connection.texts, List.map_filterMap, List.map_filterMap]
    refine List.filterMap_congr fun m _ => ?_
    cases htree : m.tree? with
    | none =>
        rw [m.json?_eq, htree]
        rfl
    | some t =>
        rcases m.readAll_json? t htree with ⟨text, htext, hread⟩
        rw [htext, Option.map_some, Option.map_some, hread]
  · refine ((sent_prefix_of_run source moves c hc).filterMap ClientMessage.tree?).trans ?_
    rw [Connection.script]
    cases c.call with
    | none | some => exact List.prefix_rfl

end Session

end Feed

end StreamRoster
