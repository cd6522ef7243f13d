import StreamRoster.Proofs.Api.Moves
import StreamRoster.Proofs.Api.Surfaces

/-!
# What a Client Reads

The texts that are queued for a client, and what the client can tell from them.

Lists and answers go through one queue, and on the connection there is only text.
A client knows neither versions nor which task a text came from. It reads a tree,
and a pushed list has a type where an answer has its success. `texts_of_run` says
that this is enough: whatever the tasks did and in whatever order, a client that
reads the texts one by one gets the pushed lists in their order, with all items
and counts, and between them the answers.

That an answer can be read is not a fact about every tree that an answer could
carry. It has to be known where the answers of the queue come from, and they come
from texts that arrived (`replies_run`).

## Main definitions

* `Item.ofRow?`: The item that a row of a list is.
* `Views.snapshotTree`: A pushed list as a tree.
* `Views.listed?`: The list that a text carries, if it is a pushed list.
* `Views.answered?`: The answer that a text is, if it is no pushed list.
* `Client.Outgoing.tree`: What is sent, as a tree.

## Theorems

* `Views.readAll_snapshotFrame`: A pushed list can be read.
* `Views.listed?_snapshotFrame`: A pushed list is read back.
* `Request.plain_response`: An answer to a text can be read.
* `Client.replies_run`: The answers of a queue are answers to texts.
* `Client.texts_of_run`: What a client reads in any run.
-/

namespace StreamRoster

open Json

/-! ### Pushed lists -/

namespace Item

/-- The item that a row of a list is. -/
def ofRow? (row : Tree) : Option Item := do
  let name ← (row.get? "name").bind Tree.text?
  let count ← row.get? "dataCount"
  match count with
  | .number (.integer n) => some ⟨name, UInt64.ofNat n.toNat⟩
  | _ => none

theorem ofRow?_row (item : Item) : ofRow? item.row = some item := by
  have hcount : UInt64.ofNat (item.count.toNat : Int).toNat = item.count := by
    rw [Int.toNat_natCast, UInt64.ofNat_toNat]
  show some (Item.mk item.name (UInt64.ofNat (item.count.toNat : Int).toNat)) = some item
  rw [hcount]

theorem mapM_ofRow? (items : List Item) : (items.map row).mapM ofRow? = some items := by
  induction items with
  | nil => rfl
  | cons item items ih =>
      rw [List.map_cons, List.mapM_cons, ofRow?_row, ih]
      rfl

end Item

namespace Views

/-- A pushed list as a tree. -/
def snapshotTree (snapshot : List Item) : Tree :=
  .object [("type", .text "snapshot"), ("streams", .array (snapshot.map Item.row))]

/-- The list that a tree carries, if it has the type of a pushed list. -/
def listing? (t : Tree) : Option (List Item) :=
  if (t.get? "type").bind Tree.text? = some "snapshot" then
    match t.get? "streams" with
    | some (.array rows) => rows.mapM Item.ofRow?
    | _ => none
  else none

/-- The list that a text carries, if it is a pushed list. -/
def listed? (text : List Char) : Option (List Item) :=
  (readAll (tree topRoom) (String.ofList text)).toOption.bind listing?

/-- The answer that a text is, if it has a tree and is no pushed list. -/
def answered? (text : List Char) : Option Tree :=
  (readAll (tree topRoom) (String.ofList text)).toOption.filter fun t => (listing? t).isNone

theorem snapshotFrame_eq (snapshot : List Item) :
    snapshotFrame snapshot = (snapshotTree snapshot).json := by
  rw [snapshotFrame, Item.listJson_eq_row]
  rfl

theorem plain_snapshotTree (snapshot : List Item) : Plain topRoom (snapshotTree snapshot) := by
  refine Plain.object 126 _ fun m hm => ?_
  simp only [List.mem_cons, List.not_mem_nil, or_false] at hm
  rcases hm with rfl | rfl
  · exact Plain.text 126 _
  · exact Item.plain_items 125 _ (Item.plain_row 124) snapshot

/-- A pushed list can be read. -/
theorem readAll_snapshotFrame (snapshot : List Item) :
    readAll (tree topRoom) (String.ofList (snapshotFrame snapshot)) =
      .ok (snapshotTree snapshot) := by
  rw [snapshotFrame_eq]
  exact readAll_json topRoom _ (plain_snapshotTree snapshot)

theorem listing?_snapshotTree (snapshot : List Item) :
    listing? (snapshotTree snapshot) = some snapshot := by
  have hrows : listing? (snapshotTree snapshot) = (snapshot.map Item.row).mapM Item.ofRow? := rfl
  rw [hrows, Item.mapM_ofRow?]

/-- A pushed list is read back, and not taken for an answer. -/
theorem listed?_snapshotFrame (snapshot : List Item) :
    listed? (snapshotFrame snapshot) = some snapshot ∧
      answered? (snapshotFrame snapshot) = none := by
  rw [listed?, answered?, readAll_snapshotFrame]
  refine ⟨listing?_snapshotTree snapshot, ?_⟩
  rw [Except.toOption, Option.filter_some, listing?_snapshotTree]
  rfl

end Views

/-! ### Answers -/

namespace Response

/-- An answer has no type, so it is not taken for a pushed list. -/
theorem listing?_toTree {α : Type} (convert : α → Tree) (r : Response α) :
    Views.listing? (r.toTree convert) = none :=
  if_neg nofun

/-- An answer that can be read is read back, and not taken for a pushed list. -/
theorem answered?_json (r : Response Tree) (h : Plain topRoom (r.toTree id)) :
    Views.answered? (r.json Tree.json) = some (r.toTree id) ∧
      Views.listed? (r.json Tree.json) = none := by
  have hread : readAll (tree topRoom) (String.ofList (r.json Tree.json)) = .ok (r.toTree id) := by
    rw [json_eq Tree.json id r fun _ => rfl]
    exact readAll_json topRoom _ h
  rw [Views.answered?, Views.listed?, hread]
  refine ⟨?_, listing?_toTree id r⟩
  rw [Except.toOption, Option.filter_some, listing?_toTree]
  rfl

end Response

/-- An answer to a text can be read: it carries items, or none. -/
theorem Request.plain_response (snapshot : List Item) (text : String) :
    Plain topRoom ((Request.response snapshot text).toTree id) := by
  have hitem (item : Item) : Plain 126 item.tree := item.plain_tree 125
  have hitems := Item.plain_items 125 Item.tree (Item.plain_tree 124)
  rw [response]
  cases readAll Request.read text with
  | error f => exact Response.plain_toTree 126 (fun _ => .null) (.failed _) fun _ => Plain.null 126
  | ok request =>
      cases request with
      | listStreams =>
          simp only [answer, Response.toTree_map]
          exact Response.plain_toTree 126 _ _ hitems
      | getStream name =>
          simp only [answer, Response.toTree_map]
          exact Response.plain_toTree 126 _ _ hitem

/-! ### The queue of a client -/

namespace Client

/-- What is sent, as a tree. -/
def Outgoing.tree : Outgoing → Tree
  | .listing p => Views.snapshotTree p.value
  | .answer response => response.toTree id

/-- Whether an answer is the answer to a text, from some list. -/
def IsReply (response : Response Tree) : Prop :=
  ∃ snapshot text, response = Request.response snapshot text

/-- The answers of a queue, and the one in hand, are answers to texts. -/
structure Replies (c : Client) : Prop where
  queued : ∀ response, .answer response ∈ c.queue → IsReply response
  ready : ∀ response, c.answering = .answering response → IsReply response

theorem replies_step (c c' : Client) (m : Move) (h : Replies c) (hstep : c.step m = some c') :
    Replies c' := by
  cases leads_of_step c c' m hstep with
  | publish | closePublisher | read | failPush | wake | finish | dropPushing | send | cutOff =>
      exact ⟨h.queued, h.ready⟩
  | receiveText | receiveOther | receiveEnd | loseAnswer | dropAnswering => exact ⟨h.queued, nofun⟩
  -- Here an answer is made; everywhere else answers are only handed on.
  | handle frame =>
      refine ⟨h.queued, fun response hready => ?_⟩
      rcases Answering.answering.inj hready with rfl
      exact ⟨_, frame, rfl⟩
  | push list =>
      refine ⟨fun response hmem => ?_, h.ready⟩
      rcases List.mem_append.mp hmem with hmem | hlast
      · exact h.queued response hmem
      · cases List.mem_singleton.mp hlast
  | answer response hanswering =>
      refine ⟨fun other hmem => ?_, nofun⟩
      rcases List.mem_append.mp hmem with hmem | hlast
      · exact h.queued other hmem
      · rcases Outgoing.answer.inj (List.mem_singleton.mp hlast) with rfl
        exact h.ready other hanswering

/-- Every run queues answers to texts, and nothing else for an answer. -/
theorem replies_run (first : Publication (List Item)) (seen : Nat) (publishing : Bool)
    (moves : List Move) (c : Client) (h : (start first seen publishing).run moves = some c) :
    Replies c := by
  refine run_induct (fun _ c => Replies c) _ ⟨fun _ hmem => absurd hmem List.not_mem_nil, ?_⟩
    (fun _ m c c' hreplies hstep => replies_step c c' m hreplies hstep) moves c h
  rintro response ⟨⟩

/-- What a client can tell from one text that is sent. -/
theorem told_of_outgoing (out : Outgoing)
    (h : ∀ response, out = .answer response → IsReply response) :
    Views.listed? out.text = out.listing?.map Publication.value ∧
      Views.answered? out.text = out.answer?.map (Response.toTree id) := by
  cases out with
  | listing p => exact Views.listed?_snapshotFrame p.value
  | answer response =>
      rcases h response rfl with ⟨snapshot, text, rfl⟩
      exact (Response.answered?_json _ (Request.plain_response snapshot text)).symm

/-- What a client reads in any run, whatever arrives from it and whatever is
    published, pushed and answered in between. The texts that carry a list carry the
    lists that were pushed, in order, and all others are the answers, in order. Each
    text is one or the other. -/
theorem texts_of_run (first : Publication (List Item)) (seen : Nat) (publishing : Bool)
    (moves : List Move) (c : Client) (h : (start first seen publishing).run moves = some c) :
    (c.queue.map Outgoing.text).filterMap Views.listed? = c.pushed.map Publication.value ∧
      (c.queue.map Outgoing.text).filterMap Views.answered? =
        c.answers.map (Response.toTree id) ∧
      ∀ text ∈ c.queue.map Outgoing.text,
        (Views.listed? text).isSome = !(Views.answered? text).isSome := by
  have htold (out : Outgoing) (hout : out ∈ c.queue) :=
    told_of_outgoing out fun response heq => (replies_run first seen publishing moves c h).queued
      response (heq ▸ hout)
  -- Both sides go through the queue, one by texts and one by what they stand for.
  rw [pushed, answers, List.filterMap_map, List.filterMap_map, List.map_filterMap,
    List.map_filterMap]
  refine ⟨List.filterMap_congr fun out hout => (htold out hout).1,
    List.filterMap_congr fun out hout => (htold out hout).2, fun text htext => ?_⟩
  rcases List.mem_map.mp htext with ⟨out, hout, rfl⟩
  rw [(htold out hout).1, (htold out hout).2]
  cases out <;> rfl

end Client

end StreamRoster
