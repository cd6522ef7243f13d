import StreamRoster.Proofs.Json.Written

/-!
# A Field Supplied to a Record

How a record changes when one more field is supplied to it.

A field is supplied in one of two ways. In the object form a member with its key
is put in anywhere, and in the list form a value is put behind the others. The
first is settled by the order of members, which does not matter: the new member
may as well be the last one (`gather_supplied`). The second needs the field to be
the last one of the record, and one that a list may leave out, and goes through
by induction on the fields in front of it (`arrange_supplied`).

Either way the draft is that of the other fields, with the place of the new one
filled if its value can be read. So what is read then is known from what is read
without it.

## Main definitions

* `Lacks`: A block that says nothing about a field.
* `Supplied`: A block to which a field is supplied.
* `Record.draft?`: The draft of a block.

## Theorems

* `Record.gather_supplied`, `Record.arrange_supplied`: The two forms.
* `Record.draft?_supplied`: The draft of the fields with one supplied.
* `Record.get_of_lacks`: The place of a field that is left out is free.
* `Record.readAll_supplied`: The record with a field supplied.
-/

namespace StreamRoster

namespace Json

variable {α σ : Type}

/-- A block that says nothing about a field, which has a key, and a place in the
    list form. -/
def Lacks (key : String) (place : Nat) : Block → Prop
  | .object ms => ∀ m ∈ ms, m.key ≠ some key
  | .sequence values => values.length ≤ place

/-- A block in which a field has a value, and the same block without the field. -/
inductive Supplied (key : String) (place : Nat) (value : List Char) : Block → Block → Prop where
  | object (front behind : List Member) (hlacks : ∀ m ∈ front ++ behind, m.key ≠ some key) :
      Supplied key place value (.object (front ++ ⟨some key, value⟩ :: behind))
        (.object (front ++ behind))
  | sequence (values : List (List Char)) (hplace : values.length = place) :
      Supplied key place value (.sequence (values ++ [value])) (.sequence values)

theorem Supplied.lacks (key : String) (place : Nat) (value : List Char) (b rest : Block)
    (h : Supplied key place value b rest) : Lacks key place rest := by
  cases h with
  | object front behind hlacks => exact hlacks
  | sequence values hplace => exact Nat.le_of_eq hplace

namespace Record

/-- The draft of a block. -/
def draft? (fields : List (Field σ)) (room : Nat) (start : σ) : Block → Option σ
  | .object ms => gather fields room start ms
  | .sequence values => arrange room fields start values

theorem ofBlock?_eq (r : Record σ α) (room : Nat) (b : Block) :
    r.ofBlock? (room + 1) b =
      (draft? r.fields room r.start b).bind fun d => (r.finish d).toOption := by
  cases b <;> rfl

theorem take?_field (x : Slot σ) (room : Nat) (value : List Char) :
    take? (x.field.read room) value = (take? (x.read room) value).map x.set := by
  refine Option.ext fun put => ?_
  rw [take?_eq_some_iff, Option.map_eq_some_iff]
  refine ⟨fun h => ?_, fun h => ?_⟩
  · rcases (bind_eq_ok _ _ _).mp h with ⟨⟨a, rest⟩, hread, hput⟩
    rcases Prod.mk.inj (Except.ok.inj hput) with ⟨rfl, rfl⟩
    exact ⟨a, (take?_eq_some_iff _ _ _).mpr hread, rfl⟩
  · rcases h with ⟨a, ha, rfl⟩
    exact (bind_eq_ok _ _ _).mpr ⟨(a, []), (take?_eq_some_iff _ _ _).mp ha, rfl⟩

/-! ### The object form -/

theorem get_of_gather_lacks (slots : List (Slot σ)) (hplaces : Places slots) (room : Nat)
    (draft last : σ) (ms : List Member)
    (h : gather (slots.map Slot.field) room draft ms = some last) (x : Slot σ) (hx : x ∈ slots)
    (hfree : x.get draft = none) (hlacks : ∀ m ∈ ms, m.key ≠ some x.key) : x.get last = none := by
  by_contra hset
  rcases exists_member_of_gather slots hplaces room draft last ms h x hx hfree hset with
    ⟨m, hm, hkey⟩
  exact hlacks m hm hkey

/-- A member with the key of a place that is free fills it, if its value can be
    read. -/
theorem put?_slot (slots : List (Slot σ)) (hplaces : Places slots) (room : Nat) (draft : σ)
    (x : Slot σ) (hx : x ∈ slots) (hfree : x.get draft = none) (value : List Char) :
    put? (slots.map Slot.field) room draft ⟨some x.key, value⟩ =
      (take? (x.read room) value).map fun a => x.set a draft := by
  have hunset : ¬x.field.isSet draft = true :=
    ne_true_of_eq_false (congrArg Option.isSome hfree)
  rw [put?, Option.bind_some, find?_slot slots hplaces x hx]
  simp only [putField?, if_neg hunset, take?_field, Option.map_map]
  rfl

/-- The member of a field may as well be the last one. -/
theorem gather_supplied (slots : List (Slot σ)) (hplaces : Places slots) (room : Nat) (draft : σ)
    (x : Slot σ) (hx : x ∈ slots) (hfree : x.get draft = none) (value : List Char)
    (front behind : List Member) (hlacks : ∀ m ∈ front ++ behind, m.key ≠ some x.key) :
    gather (slots.map Slot.field) room draft (front ++ ⟨some x.key, value⟩ :: behind) =
      (gather (slots.map Slot.field) room draft (front ++ behind)).bind fun d =>
        (take? (x.read room) value).map fun a => x.set a d := by
  have hperm : (front ++ ⟨some x.key, value⟩ :: behind).Perm
      ((front ++ behind) ++ [⟨some x.key, value⟩]) :=
    List.perm_middle.trans (List.perm_append_singleton _ _).symm
  rw [gather_perm _ (hplaces.lawful slots) room _ _ hperm draft, gather_append]
  refine Option.bind_congr fun d hd => ?_
  have hlast := get_of_gather_lacks slots hplaces room draft d _ hd x hx hfree hlacks
  rw [gather, put?_slot slots hplaces room d x hx hlast value]
  exact Option.bind_fun_some _

/-! ### The list form -/

section
variable (before : List (Slot σ)) (x : Slot σ) (hlist : x.inList = false)

include hlist

/-- The last field may be left out, by induction on the fields in front of it. -/
theorem arrange_short (room : Nat) (draft : σ) (values : List (List Char))
    (hlength : values.length ≤ before.length) :
    arrange room ((before ++ [x]).map Slot.field) draft values =
      arrange room (before.map Slot.field) draft values := by
  induction before generalizing draft values with
  | nil =>
      rcases List.length_eq_zero_iff.mp (Nat.le_zero.mp hlength) with rfl
      have hdefault : ¬x.field.inList = true := ne_true_of_eq_false hlist
      simp only [List.nil_append, List.map_cons, List.map_nil, arrange, if_neg hdefault]
  | cons y before ih =>
      rw [List.cons_append, List.map_cons, List.map_cons]
      cases values with
      | nil => simp only [arrange, ih draft [] (Nat.zero_le _)]
      | cons value values =>
          simp only [arrange, fun d => ih d values (Nat.le_of_succ_le_succ hlength)]

omit hlist in
/-- The last value goes to the last field, by induction on the fields in front of
    it. -/
theorem arrange_supplied (room : Nat) (draft : σ) (values : List (List Char)) (value : List Char)
    (hlength : values.length = before.length) :
    arrange room ((before ++ [x]).map Slot.field) draft (values ++ [value]) =
      (arrange room (before.map Slot.field) draft values).bind fun d =>
        (take? (x.read room) value).map fun a => x.set a d := by
  induction before generalizing draft values with
  | nil =>
      rcases List.length_eq_zero_iff.mp hlength with rfl
      rw [List.nil_append, List.map_singleton, List.nil_append, arrange, take?_field,
        List.map_nil, Option.bind_map, arrange, Option.bind_some]
      cases take? (x.read room) value <;> rfl
  | cons y before ih =>
      cases values with
      | nil => cases hlength
      | cons v values =>
          rw [List.cons_append, List.map_cons, List.map_cons, List.cons_append, arrange, arrange,
            Option.bind_assoc]
          exact Option.bind_congr fun put _ => ih (put draft) values (Nat.succ.inj hlength)

/-! ### Both forms -/

/-- The place of a field that is left out is free. -/
theorem get_of_lacks (hplaces : Places (before ++ [x])) (room : Nat) (start : σ)
    (hfree : x.get start = none) (b : Block) (hlacks : Lacks x.key before.length b) (d : σ)
    (h : draft? ((before ++ [x]).map Slot.field) room start b = some d) : x.get d = none := by
  have hx : x ∈ before ++ [x] := List.mem_append_right before List.mem_cons_self
  cases b with
  | object ms => exact get_of_gather_lacks _ hplaces room start d ms h x hx hfree hlacks
  | sequence values =>
      have harrange := (arrange_short before x hlist room start values hlacks).symm.trans h
      have hapart : ∀ y ∈ before, Slot.Apart x y := fun y hy =>
        ((List.pairwise_append.mp hplaces.apart).2.2 y hy x List.mem_cons_self).symm
      exact (get_of_arrange_others before room x hapart start d values harrange).trans hfree

/-- The draft with a field supplied is that of the others, with its place
    filled. -/
theorem draft?_supplied (hplaces : Places (before ++ [x])) (room : Nat) (start : σ)
    (hfree : x.get start = none) (value : List Char) (b rest : Block)
    (h : Supplied x.key before.length value b rest) :
    draft? ((before ++ [x]).map Slot.field) room start b =
      (draft? ((before ++ [x]).map Slot.field) room start rest).bind fun d =>
        (take? (x.read room) value).map fun a => x.set a d := by
  have hx : x ∈ before ++ [x] := List.mem_append_right before List.mem_cons_self
  cases h with
  | object front behind hlacks =>
      exact gather_supplied _ hplaces room start x hx hfree value front behind hlacks
  | sequence values hplace =>
      rw [draft?, draft?, arrange_supplied before x room start values value hplace,
        arrange_short before x hlist room start values (Nat.le_of_eq hplace)]

/-- A record with a field supplied is read if it is read without the field, and
    the value of the field is read. What the field changes in the record is up to
    how a draft is finished. -/
theorem readAll_supplied (r : Record σ α) (hplaces : Places (before ++ [x]))
    (hfields : r.fields = (before ++ [x]).map Slot.field) (hfree : x.get r.start = none)
    (a plain : α) (c : x.content)
    (hfinish : ∀ d c', x.get d = none →
      (r.finish (x.set c' d) = .ok a ↔ r.finish d = .ok plain ∧ c' = c))
    (room : Nat) (text rest : String) (b others : Block) (value : List Char)
    (htext : BlockText text b) (hrest : BlockText rest others)
    (h : Supplied x.key before.length value b others) :
    readAll (r.read (room + 1)) text = .ok a ↔
      readAll (r.read (room + 1)) rest = .ok plain ∧ take? (x.read room) value = some c := by
  have hone : ∀ room, ∀ f ∈ r.fields, OneValue (f.read room) := hfields ▸ hplaces.lawful.oneValue
  have hreads := r.readsBlock hone (room + 1)
  rw [readAll_of_block _ _ hreads text b htext, readAll_of_block _ _ hreads rest others hrest,
    ofBlock?_eq, ofBlock?_eq, hfields,
    draft?_supplied before x hlist hplaces room r.start hfree value b others h]
  -- Both sides now say which draft was gathered and what it was finished to.
  simp only [Option.bind_eq_some_iff, Option.map_eq_some_iff, toOption_eq_some_iff]
  have hlacks := h.lacks x.key before.length value b others
  have hplace := get_of_lacks before x hlist hplaces room r.start hfree others hlacks
  refine ⟨fun hread => ?_, fun hread => ?_⟩
  · rcases hread with ⟨_, ⟨d, hd, c', hc, rfl⟩, ha⟩
    rcases (hfinish d c' (hplace d hd)).mp ha with ⟨hplain, rfl⟩
    exact ⟨⟨d, hd, hplain⟩, hc⟩
  · rcases hread with ⟨⟨d, hd, hplain⟩, hc⟩
    exact ⟨_, ⟨d, hd, c, hc, rfl⟩, (hfinish d c (hplace d hd)).mpr ⟨hplain, rfl⟩⟩

/-- A record without a field is what its draft comes to with the place of the
    field free. -/
theorem exists_free_draft (r : Record σ α) (hplaces : Places (before ++ [x]))
    (hfields : r.fields = (before ++ [x]).map Slot.field) (hfree : x.get r.start = none)
    (room : Nat) (text : String) (b : Block) (htext : BlockText text b)
    (hlacks : Lacks x.key before.length b) (a : α)
    (hread : readAll (r.read (room + 1)) text = .ok a) :
    ∃ d, x.get d = none ∧ r.finish d = .ok a := by
  have hone : ∀ room, ∀ f ∈ r.fields, OneValue (f.read room) := hfields ▸ hplaces.lawful.oneValue
  have hreads := r.readsBlock hone (room + 1)
  rw [readAll_of_block _ _ hreads text b htext, ofBlock?_eq, hfields] at hread
  rcases Option.bind_eq_some_iff.mp hread with ⟨d, hd, ha⟩
  exact ⟨d, get_of_lacks before x hlist hplaces room r.start hfree b hlacks d hd,
    (toOption_eq_some_iff _ _).mp ha⟩

end

end Record

end Json

end StreamRoster
