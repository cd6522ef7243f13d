import Mathlib.Data.List.Forall2
import StreamRoster.Api.Request
import StreamRoster.Api.Router
import StreamRoster.Proofs.Json.Rereading
import StreamRoster.Proofs.Roster.Consistency
import StreamRoster.Proofs.Roster.Delivery

/-!
# Two Surfaces, One Answer

The local API can be asked over HTTP and over a WebSocket, and the answers are
the same values.

They are written in different ways. Over HTTP an item is written directly, its
name first. Over a WebSocket a tree is made of it before, whose members are
sorted by their keys. So the texts differ, and what they have in common is what
a reader makes of them: two trees that differ in the order of members and in
nothing else. Both trees can be named, `Response.toTree` with the one or the
other tree of an item, and that the texts are read as these trees is the theorem
on written trees: an item has no floats and is not nested deeply.

A stream is found by going through the published list up to the first item with
the name. On the list of a consistent roster that is the same as looking the
entry up, because the list holds the items of the entries and nothing else. All
rosters that steps can reach are consistent, and so is that of a session at each
moment, since it only takes events.

## Main definitions

* `Tree.Alike`: Whether trees are the same up to the order of members.
* `IsAnswer`: Whether a tree is a success with data or a failure with an error.
* `Response.Settled`: The same of an answer.
* `Response.toTree`: The tree of an answer.
* `SameAnswer`: Whether two texts are the same answer.
* `Request.json`: The text of a request.
* `Views.body`: What HTTP answers to a request.
* `SurfacesAgree`: Whether both surfaces give the same answers from a list.
* `FindsEntries`: Whether the list of a roster finds its entries.

## Theorems

* `sameAnswer_of_settled`: Two texts of one settled answer.
* `Request.read_json`: Each request can be asked.
* `mem_snapshot_iff`: What is listed is the entry of its own name.
* `find?_snapshot`: The first item of a name is the entry of the name.
* `findsEntries_of_consistent`: A consistent roster finds its entries.
* `surfaces_agree`: Both surfaces agree, and find the entries.
-/

namespace StreamRoster

open Json

namespace Json

namespace Tree

/-- Whether two trees are the same up to the order of members. -/
inductive Alike : Tree → Tree → Prop where
  | refl (t : Tree) : Alike t t
  | array (items others : List Tree) (h : List.Forall₂ Alike items others) :
      Alike (.array items) (.array others)
  | object (ms reordered ns : List (String × Tree))
      (hkeys : ms.map Prod.fst = reordered.map Prod.fst)
      (hvalues : List.Forall₂ Alike (ms.map Prod.snd) (reordered.map Prod.snd))
      (hperm : reordered.Perm ns) : Alike (.object ms) (.object ns)

end Tree

end Json

/-! ### Answers as trees -/

/-- A tree that is an answer: `success` is true exactly if there are data, and
    exactly if there is no error. -/
structure IsAnswer (t : Tree) : Prop where
  shape : ∃ success data error,
    t = .object [("success", .boolean success), ("data", data), ("error", error)] ∧
      (success = true ↔ data ≠ .null) ∧ (success = true ↔ error = .null)

namespace Response

variable {α β : Type}

/-- An answer is a success with data or a failure with an error. -/
inductive Settled : Response α → Prop where
  | ok (data : α) : Settled (.ok data)
  | failed (message : String) : Settled (.failed message)

/-- An answer as a tree. -/
def toTree (convert : α → Tree) (r : Response α) : Tree :=
  .object [("success", .boolean r.success), ("data", (r.data.map convert).getD .null),
    ("error", (r.error.map Tree.text).getD .null)]

/-- The text of an answer is that of its tree. -/
theorem json_eq (write : α → List Char) (convert : α → Tree) (r : Response α)
    (h : ∀ a, write a = (convert a).json) : r.json write = (r.toTree convert).json := by
  have hdata : writeNullable write r.data = ((r.data.map convert).getD .null).json := by
    cases r.data with
    | none => rfl
    | some a => exact h a
  have herror : writeNullable writeText r.error = ((r.error.map Tree.text).getD .null).json := by
    cases r.error <;> rfl
  rw [json, hdata, herror]
  rfl

theorem toTree_map (convert : β → Tree) (f : α → β) (r : Response α) :
    (r.map f).toTree convert = r.toTree fun a => convert (f a) := by
  rcases r with ⟨success, data, error⟩
  cases data <;> rfl

theorem plain_toTree (room : Nat) (convert : α → Tree) (r : Response α)
    (h : ∀ a, Plain room (convert a)) : Plain (room + 1) (r.toTree convert) := by
  refine Plain.object room _ fun m hm => ?_
  simp only [List.mem_cons, List.not_mem_nil, or_false] at hm
  rcases hm with rfl | rfl | rfl
  · exact Plain.boolean room r.success
  · cases r.data with
    | none => exact Plain.null room
    | some a => exact h a
  · cases r.error with
    | none => exact Plain.null room
    | some message => exact Plain.text room message

theorem isAnswer_toTree (convert : α → Tree) (r : Response α) (h : Settled r)
    (hconvert : ∀ a, convert a ≠ .null) : IsAnswer (r.toTree convert) := by
  cases h with
  | ok data =>
      exact ⟨true, convert data, .null, rfl, iff_of_true rfl (hconvert data),
        iff_of_true rfl rfl⟩
  | failed message =>
      exact ⟨false, .null, .text message, rfl,
        iff_of_false Bool.false_ne_true fun hne => hne rfl,
        iff_of_false Bool.false_ne_true fun heq => Tree.noConfusion heq⟩

theorem alike_toTree (convert other : α → Tree) (r : Response α)
    (h : ∀ a, Tree.Alike (convert a) (other a)) :
    Tree.Alike (r.toTree convert) (r.toTree other) := by
  have hdata : Tree.Alike ((r.data.map convert).getD .null) ((r.data.map other).getD .null) := by
    cases r.data with
    | none => exact Tree.Alike.refl _
    | some a => exact h a
  exact Tree.Alike.object _ [("success", _), ("data", (r.data.map other).getD .null), ("error", _)]
    _ rfl (List.Forall₂.cons (Tree.Alike.refl _)
      (List.Forall₂.cons hdata (List.Forall₂.cons (Tree.Alike.refl _) List.Forall₂.nil)))
    (List.Perm.refl _)

end Response

namespace Item

/-- An item as a tree, its name first. -/
def row (item : Item) : Tree :=
  .object [("name", .text item.name), ("dataCount", .number (.integer item.count.toNat))]

theorem json_eq_row (item : Item) : item.json = item.row.json := by
  rw [json, ← json_integer]
  rfl

theorem listJson_eq_row (items : List Item) :
    listJson items = (Tree.array (items.map row)).json := by
  rw [listJson, json_array, writeArray, List.map_map]
  exact congrArg (fun texts => '[' :: separated texts ++ [']'])
    (List.map_congr_left fun item _ => json_eq_row item)

theorem count_lt_limit (item : Item) : item.count.toNat < Number.limit := item.count.toNat_lt

theorem plain_row (room : Nat) (item : Item) : Plain (room + 1) item.row := by
  refine Plain.object room _ fun m hm => ?_
  simp only [List.mem_cons, List.not_mem_nil, or_false] at hm
  rcases hm with rfl | rfl
  · exact Plain.text room item.name
  · exact Plain.number room _ item.count_lt_limit

theorem plain_tree (room : Nat) (item : Item) : Plain (room + 1) item.tree := by
  refine Plain.object room _ fun m hm => ?_
  simp only [List.mem_cons, List.not_mem_nil, or_false] at hm
  rcases hm with rfl | rfl
  · exact Plain.number room _ item.count_lt_limit
  · exact Plain.text room item.name

/-- Items in a list are one level deeper. -/
theorem plain_items (room : Nat) (convert : Item → Tree) (h : ∀ item, Plain room (convert item))
    (items : List Item) : Plain (room + 1) (.array (items.map convert)) := by
  refine Plain.array room _ fun t ht => ?_
  rcases List.mem_map.mp ht with ⟨item, _, rfl⟩
  exact h item

/-- The two trees of an item have the same members. -/
theorem alike_row_tree (item : Item) : Tree.Alike item.row item.tree := by
  refine Tree.Alike.object _ _ _ rfl ?_ (List.Perm.swap _ _ _)
  exact List.Forall₂.cons (Tree.Alike.refl _)
    (List.Forall₂.cons (Tree.Alike.refl _) List.Forall₂.nil)

end Item

/-! ### One answer in two texts -/

/-- Whether two texts are the same answer: each is read as a tree, the trees are
    the same up to the order of members, and each is an answer. -/
structure SameAnswer (body reply : List Char) : Prop where
  trees : ∃ t u, readAll (tree topRoom) (String.ofList body) = .ok t ∧
    readAll (tree topRoom) (String.ofList reply) = .ok u ∧ Tree.Alike t u ∧ IsAnswer t ∧
      IsAnswer u

/-- What is written of a settled answer in two ways is the same answer. -/
theorem sameAnswer_of_settled {α : Type} (r : Response α) (write : α → List Char)
    (row other : α → Tree) (hsettled : r.Settled) (hwrite : ∀ a, write a = (row a).json)
    (hrow : ∀ a, Plain 126 (row a)) (hother : ∀ a, Plain 126 (other a))
    (halike : ∀ a, Tree.Alike (row a) (other a)) (hnull : ∀ a, row a ≠ .null ∧ other a ≠ .null) :
    SameAnswer (r.json write) ((r.map other).json Tree.json) := by
  have hreply : (r.map other).json Tree.json = (r.toTree other).json := by
    rw [Response.json_eq Tree.json id (r.map other) fun _ => rfl, Response.toTree_map]
    rfl
  rw [Response.json_eq write row r hwrite, hreply]
  exact ⟨_, _, readAll_json topRoom _ (Response.plain_toTree 126 row r hrow),
    readAll_json topRoom _ (Response.plain_toTree 126 other r hother),
    Response.alike_toTree row other r halike,
    Response.isAnswer_toTree row r hsettled fun a => (hnull a).1,
    Response.isAnswer_toTree other r hsettled fun a => (hnull a).2⟩

theorem settled_find (snapshot : List Item) (name : String) :
    (Views.find snapshot name).Settled := by
  rw [Views.find]
  cases snapshot.find? fun item => item.name = name with
  | none => exact Response.Settled.failed _
  | some item => exact Response.Settled.ok item

theorem sameAnswer_find (snapshot : List Item) (name : String) :
    SameAnswer ((Views.find snapshot name).json Item.json)
      (((Views.find snapshot name).map Item.tree).json Tree.json) :=
  sameAnswer_of_settled _ Item.json Item.row Item.tree (settled_find snapshot name)
    Item.json_eq_row (Item.plain_row 125) (Item.plain_tree 125) Item.alike_row_tree
    fun _ => ⟨fun h => Tree.noConfusion h, fun h => Tree.noConfusion h⟩

theorem sameAnswer_list (snapshot : List Item) :
    SameAnswer ((Views.list snapshot).json Item.listJson)
      (((Views.list snapshot).map fun items => Tree.array (items.map Item.tree)).json
        Tree.json) := by
  refine sameAnswer_of_settled _ Item.listJson (fun items => .array (items.map Item.row)) _
    (Response.Settled.ok snapshot) Item.listJson_eq_row
    (Item.plain_items 125 _ (Item.plain_row 124)) (Item.plain_items 125 _ (Item.plain_tree 124))
    (fun items => ?_) fun _ => ⟨fun h => Tree.noConfusion h, fun h => Tree.noConfusion h⟩
  refine Tree.Alike.array _ _ ?_
  rw [List.forall₂_map_left_iff, List.forall₂_map_right_iff]
  exact List.forall₂_same.mpr fun item _ => item.alike_row_tree

/-! ### Requests as texts -/

namespace Request

/-- The text of a request. -/
def json : Request → List Char
  | .listStreams => writeObject [("type", writeText "ListStreams")]
  | .getStream name => writeObject [("type", writeText "GetStream"), ("name", writeText name)]

theorem variantName_written {α : Type} (variants : List (String × α)) (name : String) (a : α)
    (rest : List Char) (h : pickVariant variants name = .ok a) :
    variantName variants (writeText name ++ rest) = .ok (a, rest) := by
  have htext : text "variant identifier" (writeText name ++ rest) = .ok (name, rest) :=
    string_takes name rest trivial
  simp only [variantName, htext, ok_bind, h]

/-- The tag is read back, and then more. -/
theorem readMembers_tag (room fuel : Nat) (first : Bool) (name : String) (tag : Tag)
    (s rest : List Char) (x : (Option Tag × List (String × Tree)) × List Char)
    (hpick : pickVariant tags name = .ok tag)
    (hmember : hasMember first s = .ok (true, keyed tagKey (writeText name ++ rest)))
    (hrest : readMembers room fuel false (some tag) rest = .ok x) :
    readMembers room (fuel + 1) first none s = .ok x := by
  have hname := variantName_written tags name tag rest hpick
  simp only [readMembers, hmember, string_keyed, ok_bind, memberColon_cons, hname, hrest, if_true,
    Option.isSome_none, Bool.false_eq_true, if_false]

/-- A field is read back, and then more. -/
theorem readMembers_field (room fuel : Nat) (first : Bool) (key : String) (t : Tree)
    (tag tag' : Option Tag) (others : List (String × Tree)) (s rest u : List Char)
    (hkey : key ≠ tagKey) (ht : Takes Ends (tree room) t.json t) (hends : Ends rest)
    (hmember : hasMember first s = .ok (true, keyed key (t.json ++ rest)))
    (hrest : readMembers room fuel false tag rest = .ok ((tag', others), u)) :
    readMembers room (fuel + 1) first tag s = .ok ((tag', (key, t) :: others), u) := by
  simp only [readMembers, hmember, string_keyed, ok_bind, if_neg hkey, memberColon_cons,
    ht rest hends, hrest]

/-- An object whose members make a request, with nothing behind it. -/
theorem readAll_object (s : List Char) (tag : Tag) (others : List (String × Tree))
    (request : Request)
    (hmembers : readMembers (topRoom - 1) (s.length + 1) true none s =
      .ok ((some tag, others), ['\x7d']))
    (hfields : ofFields tag (.object others) = .ok request) :
    readAll read (String.ofList ('\x7b' :: s)) = .ok request := by
  have htagged : readTagged ('\x7b' :: s) = .ok ((tag, .object others), []) := by
    refine (congrArg (· >>= _) hmembers).trans ?_
    rfl
  rw [readAll, String.toList_ofList, read, htagged, ok_bind]
  simp only [hfields]
  rfl

/-- A request is read off its text. -/
theorem read_json (request : Request) :
    readAll read (String.ofList request.json) = .ok request := by
  cases request with
  | listStreams => rfl
  | getStream name =>
      have hname := takes_of_local _ (tree_local (topRoom - 1)) _ _
        (tree_json (topRoom - 1) (.text name) (Plain.text _ name))
      -- The text is split behind the tag, where the reader stops.
      have htext : (getStream name).json = '\x7b' :: (writeMember (tagKey, writeText "GetStream") ++
          (',' :: (writeMember ("name", writeText name) ++ ['\x7d']))) :=
        congrArg ('\x7b' :: ·) (List.append_assoc _ _ _)
      rw [writeMember_append, writeMember_append] at htext
      rw [htext]
      refine readAll_object _ .getStream [("name", .text name)] _ ?_ rfl
      refine readMembers_tag _ _ true "GetStream" .getStream _
        (',' :: '"' :: keyed "name" (writeText name ++ ['\x7d'])) _ rfl rfl ?_
      refine readMembers_field _ _ false "name" (.text name) (some .getStream) (some .getStream) []
        _ ['\x7d'] ['\x7d'] (by decide) hname (ends_afterCommas [] '\x7d' [] rfl) rfl rfl

end Request

namespace Views

/-- The body of what HTTP answers to the same question. -/
def body (snapshot : List Item) : Request → List Char
  | .listStreams => (list snapshot).json Item.listJson
  | .getStream name => (find snapshot name).json Item.json

end Views

/-- Whether both surfaces give the same answers from a published list: each text
    that is read as a request gets the answer that the body is, there is such a
    text for each request, and the bodies are what the routes send. -/
structure SurfacesAgree (snapshot : List Item) : Prop where
  same : ∀ text request, readAll Request.read text = .ok request →
    SameAnswer (Views.body snapshot request) (Request.reply snapshot text)
  asked : ∀ request, ∃ text, readAll Request.read text = .ok request
  listed : (Route.get snapshot .list).body = Views.body snapshot .listStreams
  routed : ∀ segment name, Route.nameOf? segment = some name →
    (Route.get snapshot (.stream segment)).body = Views.body snapshot (.getStream name)

theorem surfacesAgree_any (snapshot : List Item) : SurfacesAgree snapshot where
  same text request h := by
    rw [Request.reply, Request.response, h]
    cases request with
    | listStreams => exact sameAnswer_list snapshot
    | getStream name => exact sameAnswer_find snapshot name
  asked request := ⟨_, Request.read_json request⟩
  listed := rfl
  routed segment name h := by
    rw [Route.get, Route.streamReply, h]
    rfl

/-! ### Entries and answers -/

/-- Whether the list that a roster published last finds its entries: a stream is
    answered exactly if there is an entry of its name, and with that entry. -/
structure FindsEntries (r : Roster) : Prop where
  found : ∀ name item, Views.find r.snapshot name = .ok item ↔
    Roster.find? r.entries name = some item
  success : ∀ name, (Views.find r.snapshot name).success = true ↔
    (Roster.find? r.entries name).isSome = true

/-- What is listed is the entry of its own name. -/
theorem mem_snapshot_iff (r : Roster) (h : Roster.Consistent r) (item : Item) :
    item ∈ r.snapshot ↔ Roster.find? r.entries item.name = some item := by
  rw [h.listed]
  exact Roster.mem_sorted_iff r.entries h.filed item

/-- The first item of a name in the list is the entry of the name. -/
theorem find?_snapshot (r : Roster) (h : Roster.Consistent r) (name : String) :
    (r.snapshot.find? fun item => item.name = name) = Roster.find? r.entries name := by
  have hmem := mem_snapshot_iff r h
  cases hfirst : r.snapshot.find? fun item => item.name = name with
  | some item =>
      have hname : item.name = name := by
        have hdecide := List.find?_some hfirst
        exact of_decide_eq_true hdecide
      rw [← hname]
      exact ((hmem item).mp (List.mem_of_find?_eq_some hfirst)).symm
  | none =>
      cases hentry : Roster.find? r.entries name with
      | none => rfl
      | some item =>
          -- The entry would be listed, under this name.
          have hname : item.name = name :=
            h.filed.keyed _ ((Roster.find?_eq_some_iff _ h.filed name item).mp hentry)
          have hlisted : item ∈ r.snapshot := (hmem item).mpr (hname.symm ▸ hentry)
          exact absurd (decide_eq_true hname) (List.find?_eq_none.mp hfirst item hlisted)

/-- A consistent roster finds its entries. -/
theorem findsEntries_of_consistent (r : Roster) (h : Roster.Consistent r) : FindsEntries r := by
  refine ⟨fun name item => ?_, fun name => ?_⟩
  · rw [Views.find, find?_snapshot r h name]
    cases Roster.find? r.entries name with
    | none => exact iff_of_false nofun nofun
    | some other =>
        have hother : Response.ok other = Response.ok item ↔ other = item :=
          ⟨fun heq => Option.some.inj (congrArg Response.data heq), congrArg Response.ok⟩
        exact hother.trans (Option.some.injEq _ _).symm.to_iff
  · rw [Views.find, find?_snapshot r h name]
    cases Roster.find? r.entries name with
    | none => exact iff_of_false nofun nofun
    | some item => exact iff_of_true rfl rfl

/-- The roster of a session is consistent if the one it started with is. -/
theorem consistent_of_session (first : Roster) (h : Roster.Consistent first) (room : Nat)
    (moves : List Roster.Move) (s : Roster.Session)
    (hrun : (Roster.Session.start first room).run moves = some s) :
    Roster.Consistent s.roster := by
  have hsteps : s.roster = first.run ((Roster.Session.applied moves).map Roster.Step.event) := by
    rw [(Roster.Session.delivered_run first room moves s hrun).roster, Roster.run, List.foldl_map]
    rfl
  rw [hsteps]
  exact Roster.consistent_run first _ h

/-- The two surfaces of the API agree. From every published list, a text that is
    a request gets over WebSocket the answer that HTTP gives as a body, up to the
    order of members; each of the two is a success exactly if it has data, and
    exactly if it has no error. And the answer about a stream is the entry of
    its name, whatever seeds and events the roster went through, and at each
    moment of a session that keeps it. -/
theorem surfaces_agree :
    (∀ snapshot, SurfacesAgree snapshot) ∧
      (∀ steps, FindsEntries (Roster.empty.run steps)) ∧
      ∀ steps room moves s,
        (Roster.Session.start (Roster.empty.run steps) room).run moves = some s →
          FindsEntries s.roster := by
  have hconsistent (steps : List Roster.Step) : Roster.Consistent (Roster.empty.run steps) :=
    Roster.consistent_run Roster.empty steps Roster.consistent_empty
  refine ⟨surfacesAgree_any, fun steps => ?_, fun steps room moves s hrun => ?_⟩
  · exact findsEntries_of_consistent _ (hconsistent steps)
  · exact findsEntries_of_consistent _
      (consistent_of_session _ (hconsistent steps) room moves s hrun)

/-- A seeded stream with the largest count is asked for while a session runs, the
    name in front of the type. -/
theorem answer_of_seeded_stream :
    ∃ s, (Roster.Session.start (Roster.empty.run [.seed [⟨"tm", 18446744073709551615⟩]]) 64).run
        [.subscribe, .arrive ⟨.updated, "hk", 5⟩, .take] = some s ∧
      Views.find s.snapshot "tm" = .ok ⟨"tm", 18446744073709551615⟩ ∧
      SameAnswer (Views.body s.snapshot (.getStream "tm"))
        (Request.reply s.snapshot "\x7b\"name\":\"tm\",\"type\":\"GetStream\"\x7d") := by
  refine ⟨_, rfl, ?_, ?_⟩
  · have h := surfaces_agree.2.2 [.seed [⟨"tm", 18446744073709551615⟩]] 64
      [.subscribe, .arrive ⟨.updated, "hk", 5⟩, .take] _ rfl
    exact (h.found "tm" _).mpr rfl
  · exact (surfaces_agree.1 _).same _ (.getStream "tm") rfl

end StreamRoster
