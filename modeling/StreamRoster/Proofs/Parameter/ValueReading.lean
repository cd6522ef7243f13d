import Mathlib.Data.List.Basic
import StreamRoster.Parameter.Value
import StreamRoster.Proofs.Json.Gathering

/-!
# Reading a Value by Its Members

A value is read along one of two ways. Where its type comes first, the content is
read as content of that type. Where the content comes first, it is read as a
tree and converted when the type is known. Both ways come to the same, and this
is shown by saying what a value is in terms of the members of the text alone:
`ofMembers?` finds the two members that count, in either order, and reads their
texts. There is one equation for both ways (`readMembers_of_row`).

What makes the two ways agree is `readsTree_content`. Content of every type can
be read as a tree, and conversion makes of the tree what reading makes of the
text. Were there a number that one of them refuses, the order of the members
would decide.

Reading on to the next part is stated as a relation to the members that are left
(`Next`), so that each of the readers of the object form is followed once.

## Main definitions

* `Value.relevant`: The members that are not passed over.
* `Value.ofMembers?`, `Value.ofBlock?`: The value in an object, and in a block.
* `Value.Next`: How reading on to the next part ends.

## Theorems

* `Value.readsTree_content`: Reading content is converting a tree.
* `Value.next_of_row`: The next part is the next member that counts.
* `Value.readMembers_of_row`: The object form, whichever part comes first.
* `Value.readsBlock`: A value is read from the block that stands there.
* `Value.ofMembers?_insert`: The order of members and unknown ones do not matter.
-/

namespace StreamRoster

open Json

variable {α β : Type}

namespace Json

theorem readsTree_integer (low high : Int) (expected : String) (room : Nat) :
    ReadsTree room (integer low high expected) fun t =>
      t.number?.bind fun n => (n.within low high expected).toOption := by
  refine readsTree_bind room _ _ _ _ (readsTree_anyNumber expected room) fun n s => ?_
  cases hwithin : n.within low high expected <;> simp only [hwithin] <;> rfl

theorem readsTree_congr (room : Nat) (read : Reader α) (convert other : Tree → Option α)
    (h : ReadsTree room read convert) (hsame : ∀ t, convert t = other t) :
    ReadsTree room read other := by
  rw [← funext hsame]
  exact h

end Json

theorem Timestamp.readsTree (room : Nat) : ReadsTree room Timestamp.readJson fun t =>
    t.text?.bind fun s => (Timestamp.ofText s).toOption := by
  refine readsTree_bind room _ _ _ _ (readsTree_text Timestamp.wanted room) fun text s => ?_
  cases htime : Timestamp.ofText text <;> simp only [htime] <;> rfl

namespace Value

/-- Content of a known type is read as it is converted from a tree. -/
theorem readsTree_content (type : ValueType) (room : Nat) :
    ReadsTree room (readContent type) fun t => (ofTree type t).toOption := by
  cases type with
  | float =>
      -- Each type is a reader of scalars with a conversion behind it, and so is its tree.
      have hnumber := readsTree_bind room _ _ (fun n : Number => some n.toDouble)
        (fun x => .ok (x.1.toDouble, x.2)) (readsTree_anyNumber "f64" room) fun _ _ => rfl
      have hfloat := readsTree_bind room _ _ (fun x => some (float x))
        (fun x => .ok (float x.1, x.2)) hnumber fun _ _ => rfl
      refine readsTree_congr room _ _ _ hfloat fun t => ?_
      cases t <;> rfl
  | sint64 =>
      have hinteger := readsTree_bind room _ _ (fun n => some (sint64 (Int64.ofInt n)))
        (fun x => .ok (sint64 (Int64.ofInt x.1), x.2))
        (readsTree_integer (-0x8000000000000000) (0x8000000000000000 - 1) "i64" room) fun _ _ => rfl
      refine readsTree_congr room _ _ _ hinteger fun t => ?_
      cases t with
      | number n =>
          simp only [Tree.number?, Option.bind_some, ofTree, toOption_bind]
          rfl
      | null | boolean | text | array | object => rfl
  | uint64 =>
      have hinteger := readsTree_bind room _ _ (fun n : Int => some n.toNat)
        (fun x => .ok (x.1.toNat, x.2))
        (readsTree_integer 0 (0x10000000000000000 - 1) "u64" room) fun _ _ => rfl
      have hnatural := readsTree_bind room _ _ (fun n => some (uint64 (UInt64.ofNat n)))
        (fun x => .ok (uint64 (UInt64.ofNat x.1), x.2)) hinteger fun _ _ => rfl
      refine readsTree_congr room _ _ _ hnatural fun t => ?_
      cases t with
      | number n =>
          simp only [Tree.number?, Option.bind_some, ofTree, toOption_bind, Option.bind_assoc]
          rfl
      | null | boolean | text | array | object => rfl
  | boolean =>
      have hboolean := readsTree_bind room _ _ (fun b => some (boolean b))
        (fun x => .ok (boolean x.1, x.2)) (readsTree_boolean room) fun _ _ => rfl
      refine readsTree_congr room _ _ _ hboolean fun t => ?_
      cases t <;> rfl
  | text =>
      have htext := readsTree_bind room _ _ (fun s => some (text s))
        (fun x => .ok (text x.1, x.2)) (readsTree_text "a string" room) fun _ _ => rfl
      refine readsTree_congr room _ _ _ htext fun t => ?_
      cases t <;> rfl
  | timestamp =>
      have htime := readsTree_bind room _ _ (fun t => some (timestamp t))
        (fun x => .ok (timestamp x.1, x.2)) (Timestamp.readsTree room) fun _ _ => rfl
      refine readsTree_congr room _ _ _ htime fun t => ?_
      cases t with
      | text s =>
          simp only [Tree.text?, Option.bind_some, ofTree, toOption_bind]
          rfl
      | null | boolean | number | array | object => rfl

/-! ### The members that count -/

/-- Whether a member is passed over. One whose key is no text is not. -/
def isOther (m : Member) : Bool :=
  match m.key with
  | some key => (part? key).isNone
  | none => false

/-- The members that are not passed over. -/
def relevant (ms : List Member) : List Member := ms.filter fun m => !isOther m

/-- The value of a type and a content, given their texts. -/
def ofTexts? (room : Nat) (type content : List Char) : Option Value :=
  (take? (variant ValueType.names room) type).bind fun t => take? (readContent t) content

/-- The value in the members that count, which are two. -/
def ofParts? (room : Nat) : List Member → Option Value
  | [a, b] =>
    if a.key = some Part.type.key ∧ b.key = some Part.content.key then
      ofTexts? room a.value b.value
    else if a.key = some Part.content.key ∧ b.key = some Part.type.key then
      ofTexts? room b.value a.value
    else none
  | _ => none

/-- The value in the members of an object. -/
def ofMembers? (room : Nat) (ms : List Member) : Option Value := ofParts? room (relevant ms)

/-- The value in a block. -/
def ofBlock? : Nat → Block → Option Value
  | room + 1, .object ms => ofMembers? room ms
  | _ + 1, .sequence [type, content] =>
    (take? (variantName ValueType.names) type).bind fun t => take? (readContent t) content
  | _, _ => none

theorem part?_eq_some_iff (key : String) (p : Part) : part? key = some p ↔ key = p.key := by
  rw [part?]
  split_ifs with htype hvalue
  · cases p with
    | type => exact iff_of_true rfl htype
    | content => exact iff_of_false nofun fun h => absurd (htype.symm.trans h) (by decide)
  · cases p with
    | type => exact iff_of_false nofun fun h => htype h
    | content => exact iff_of_true rfl hvalue
  · cases p with
    | type => exact iff_of_false nofun htype
    | content => exact iff_of_false nofun hvalue

theorem relevant_other (m : Member) (ms : List Member) (key : String) (hkey : m.key = some key)
    (hpart : part? key = none) : relevant (m :: ms) = relevant ms := by
  have hother : isOther m = true := by simp only [isOther, hkey, hpart, Option.isNone_none]
  exact List.filter_cons_of_neg (by rw [hother]; exact nofun)

theorem relevant_part (m : Member) (ms : List Member) (p : Part) (hkey : m.key = some p.key) :
    relevant (m :: ms) = m :: relevant ms := by
  have hpart := (part?_eq_some_iff p.key p).mpr rfl
  have hother : isOther m = false := by simp only [isOther, hkey, hpart, Option.isNone_some]
  exact List.filter_cons_of_pos (by rw [hother]; rfl)

theorem relevant_fault (m : Member) (ms : List Member) (hkey : m.key = none) :
    relevant (m :: ms) = m :: relevant ms := by
  have hother : isOther m = false := by simp only [isOther, hkey]
  exact List.filter_cons_of_pos (by rw [hother]; rfl)

/-! ### Reading on to the next part -/

/-- How reading on to the next part ends: at the closing brace, behind the key of
    a part, or at a key that is no text. -/
inductive Next (rest : List Char) (ms : List Member) :
    Except Failure (Option Part × List Char) → Prop where
  | ended (hms : relevant ms = []) : Next rest ms (.ok (none, '\x7d' :: rest))
  | part (p : Part) (m : Member) (later : List Member) (colon behind : List Char)
      (hms : relevant ms = m :: relevant later) (hkey : m.key = some p.key)
      (hcolon : memberColon colon = .ok ((), m.value ++ behind))
      (hvalue : skip (m.value ++ behind) = .ok ((), behind))
      (hlater : Row rest false behind later) :
      Next rest ms (.ok (some p, colon))
  | fault (m : Member) (more : List Member) (e : Failure) (hms : relevant ms = m :: more)
      (hkey : m.key = none) : Next rest ms (.error e)

/-- Members that are passed over do not count for the next part. -/
theorem next_other (rest : List Char) (m : Member) (ms : List Member) (key : String)
    (hkey : m.key = some key) (hpart : part? key = none)
    (x : Except Failure (Option Part × List Char)) (h : Next rest ms x) :
    Next rest (m :: ms) x := by
  have hsame := relevant_other m ms key hkey hpart
  cases h with
  | ended hms => exact Next.ended (hsame.trans hms)
  | part p n later colon behind hms hnkey hcolon hvalue hlater =>
      exact Next.part p n later colon behind (hsame.trans hms) hnkey hcolon hvalue hlater
  | fault n more e hms hnkey => exact Next.fault n more e (hsame.trans hms) hnkey

theorem next_of_row (rest : List Char) (first : Bool) (s : List Char) (ms : List Member)
    (h : Row rest first s ms) (fuel : Nat) (hfuel : ms.length < fuel) :
    Next rest ms (nextPart fuel first s) := by
  induction h generalizing fuel with
  | close first s hs =>
      cases fuel with
      | zero => exact absurd hfuel (Nat.not_lt_zero _)
      | succ fuel =>
          rw [nextPart, (hasMember_eq_ok_iff _ _ _ _).mpr (HasKey.close rest hs)]
          exact Next.ended rfl
  | member first s key colon behind m ms hkey hname hm hcolon hvalue hms ih =>
      cases fuel with
      | zero => exact absurd hfuel (Nat.not_lt_zero _)
      | succ fuel =>
          rw [nextPart, (hasMember_eq_ok_iff _ _ _ _).mpr hkey]
          simp only [ok_bind]
          cases hstring : string key with
          | error e =>
              have hnone : m.key = none := by
                rw [hm, keyOf, hstring]
                rfl
              exact Next.fault m _ e (relevant_fault m ms hnone) hnone
          | ok x =>
              rcases x with ⟨name, t⟩
              have hfound : m.key = some name := by
                rw [hm, keyOf, hstring]
                rfl
              have hread := (keyOf_eq_some_iff key colon hname name).mp (hm.symm.trans hfound)
              rcases (Prod.mk.inj (Except.ok.inj (hstring.symm.trans hread))).2 with rfl
              simp only [ok_bind]
              cases hpart : part? name with
              | none =>
                  -- Passed over, and looked for behind it.
                  simp only [hcolon, hvalue, ok_bind]
                  exact next_other rest m ms name hfound hpart _
                    (ih fuel (Nat.lt_of_succ_lt_succ hfuel))
              | some p =>
                  rw [(part?_eq_some_iff name p).mp hpart] at hfound
                  exact Next.part p m ms t behind (relevant_part m ms p hfound) hfound hcolon hvalue
                    hms

theorem next_of_laterPart (rest behind : List Char) (ms : List Member)
    (h : Row rest false behind ms) : Next rest ms (laterPart behind) :=
  next_of_row rest false behind ms h _ (Nat.lt_succ_of_le (length_of_row rest false behind ms h))

/-- The members behind both parts have to be others. -/
theorem noMoreParts_of_row (rest behind : List Char) (ms : List Member)
    (h : Row rest false behind ms) : (noMoreParts behind).toOption =
      if (relevant ms).isEmpty then some ((), '\x7d' :: rest) else none := by
  rw [noMoreParts]
  generalize hnext : laterPart behind = next
  have hread := next_of_laterPart rest behind ms h
  rw [hnext] at hread
  cases hread with
  | ended hms =>
      rw [hms]
      rfl
  | part p m later colon after hms =>
      rw [hms]
      rfl
  | fault m more e hms =>
      rw [hms]
      rfl

/-! ### The object form -/

theorem ofTexts?_of_type (room : Nat) (type content : List Char)
    (h : take? (variant ValueType.names room) type = none) : ofTexts? room type content = none := by
  rw [ofTexts?, h, Option.bind_none]

/-- What is no tree is no content of any type. -/
theorem ofTexts?_of_content (room : Nat) (type content : List Char)
    (h : take? (tree room) content = none) : ofTexts? room type content = none := by
  refine Option.bind_eq_none_iff.mpr fun t _ => ?_
  cases hcontent : take? (readContent t) content with
  | none => rfl
  | some v =>
      rcases (readsTree_content t room).tree content v []
        ((take?_eq_some_iff _ _ _).mp hcontent) with ⟨found, hfound⟩
      rw [(take?_eq_some_iff _ _ _).mpr hfound] at h
      cases h

theorem take?_content (room : Nat) (type : ValueType) (content : List Char) (t : Tree)
    (h : take? (tree room) content = some t) :
    take? (readContent type) content = (ofTree type t).toOption := by
  have hconvert := (readsTree_content type room).toOption content t []
    ((take?_eq_some_iff _ _ _).mp h)
  refine Option.ext fun v => ?_
  rw [take?_eq_some_iff, ← toOption_eq_some_iff, hconvert]
  cases (ofTree type t).toOption with
  | none => exact iff_of_false nofun nofun
  | some w =>
      exact ⟨fun h => by rw [(Prod.mk.inj (Option.some.inj h)).1],
        fun h => by rw [Option.some.inj h]; rfl⟩

theorem ofParts?_typeFirst (room : Nat) (m n : Member) (hm : m.key = some Part.type.key)
    (hn : n.key = some Part.content.key) :
    ofParts? room [m, n] = ofTexts? room m.value n.value := by
  rw [ofParts?, if_pos ⟨hm, hn⟩]

theorem ofParts?_contentFirst (room : Nat) (m n : Member) (hm : m.key = some Part.content.key)
    (hn : n.key = some Part.type.key) :
    ofParts? room [m, n] = ofTexts? room n.value m.value := by
  have hne : ¬(m.key = some Part.type.key ∧ n.key = some Part.content.key) := by
    rw [hm]
    exact fun h => absurd (Option.some.inj h.1) (by decide)
  rw [ofParts?, if_neg hne, if_pos ⟨hm, hn⟩]

/-- Where two parts are no value, more of them are none either. -/
theorem ofParts?_of_pair (room : Nat) (m n : Member) (more : List Member)
    (h : ofParts? room [m, n] = none) : ofParts? room (m :: n :: more) = none := by
  cases more with
  | nil => exact h
  | cons k more => rfl

/-- A part cannot be there twice, and a key that is no text makes two parts of
    nothing. -/
theorem ofParts?_eq_none (room : Nat) (m n : Member) (more : List Member) (p : Part)
    (hm : m.key = some p.key) (hn : n.key = some p.key ∨ n.key = none) :
    ofParts? room (m :: n :: more) = none := by
  have hdiffer : Part.type.key ≠ Part.content.key := by decide
  refine ofParts?_of_pair room m n more ?_
  rw [ofParts?, if_neg, if_neg]
  all_goals
    rintro ⟨hmkey, hnkey⟩
    rcases hn with hn | hn
    · have hsame := (hm.symm.trans hmkey).symm.trans (hn.symm.trans hnkey)
      first
        | exact hdiffer (Option.some.inj hsame)
        | exact hdiffer (Option.some.inj hsame).symm
    · exact absurd (hn.symm.trans hnkey) nofun

theorem ofParts?_of_fault (room : Nat) (m : Member) (more : List Member) (hkey : m.key = none) :
    ofParts? room (m :: more) = none := by
  have hne : ∀ p : Part, ¬m.key = some p.key := by
    intro p hp
    exact absurd (hp.symm.trans hkey) (Option.some_ne_none _)
  cases more with
  | nil => rfl
  | cons n more =>
      refine ofParts?_of_pair room m n more ?_
      rw [ofParts?, if_neg fun hpair => hne Part.type hpair.1,
        if_neg fun hpair => hne Part.content hpair.1]

theorem ofParts?_of_type (room : Nat) (m : Member) (more : List Member)
    (hkey : m.key = some Part.type.key) (h : take? (variant ValueType.names room) m.value = none) :
    ofParts? room (m :: more) = none := by
  cases more with
  | nil => rfl
  | cons n more =>
      refine ofParts?_of_pair room m n more ?_
      rw [ofParts?]
      split_ifs with htype hcontent
      · exact ofTexts?_of_type room _ _ h
      · exact absurd (Option.some.inj (hkey.symm.trans hcontent.1)) (by decide)
      · rfl

theorem ofParts?_of_content (room : Nat) (m : Member) (more : List Member)
    (hkey : m.key = some Part.content.key) (h : take? (tree room) m.value = none) :
    ofParts? room (m :: more) = none := by
  cases more with
  | nil => rfl
  | cons n more =>
      refine ofParts?_of_pair room m n more ?_
      rw [ofParts?]
      split_ifs with htype hcontent
      · exact absurd (Option.some.inj (hkey.symm.trans htype.1)) (by decide)
      · exact ofTexts?_of_content room _ _ h
      · rfl

/-- Behind a value that was made, only the closing brace and other members may
    stand. -/
theorem noMoreParts_then (room : Nat) (rest behind : List Char) (m n : Member)
    (later : List Member) (v : Value) (hlater : Row rest false behind later)
    (hvalue : ofParts? room [m, n] = some v) :
    ((noMoreParts behind >>= fun x => .ok (v, x.2)) : Except Failure (Value × List Char)).toOption =
      (ofParts? room (m :: n :: relevant later)).map fun v => (v, '\x7d' :: rest) := by
  rw [toOption_bind, noMoreParts_of_row rest behind later hlater]
  cases relevant later with
  | nil =>
      rw [hvalue]
      rfl
  | cons k more => rfl

/-- What is left to read behind the key of the type, which comes first. -/
theorem readTypeFirst_of_row (room : Nat) (rest colon behind : List Char) (m : Member)
    (later : List Member) (hkey : m.key = some Part.type.key)
    (hcolon : memberColon colon = .ok ((), m.value ++ behind))
    (hvalue : skip (m.value ++ behind) = .ok ((), behind)) (hlater : Row rest false behind later) :
    (readTypeFirst room colon).toOption =
      (ofParts? room (m :: relevant later)).map fun v => (v, '\x7d' :: rest) := by
  have hends := ends_of_row rest behind later hlater
  have htype := toOption_append _ (oneValue_variant ValueType.names room) m.value behind hvalue
    hends
  rw [readTypeFirst, hcolon]
  simp only [ok_bind]
  rw [toOption_bind, htype]
  cases htake : take? (variant ValueType.names room) m.value with
  | none =>
      rw [ofParts?_of_type room m _ hkey htake]
      rfl
  | some type =>
      simp only [Option.map_some, Option.bind_some]
      have hnext := next_of_laterPart rest behind later hlater
      generalize laterPart behind = next at hnext ⊢
      cases hnext with
      | ended hms =>
          rw [hms]
          rfl
      | fault n more e hms hnone =>
          rw [hms, ofParts?_eq_none room m n more Part.type hkey (Or.inr hnone)]
          rfl
      | part p n later colon behind hms hnkey hcolon hvalue hlater =>
          rw [hms]
          cases p with
          | type =>
              rw [ofParts?_eq_none room m n _ Part.type hkey (Or.inl hnkey)]
              rfl
          | content =>
              have hends := ends_of_row rest behind later hlater
              have hread := toOption_append _ (readsTree_content type room).oneValue n.value behind
                hvalue hends
              -- The content is read at once, as content of the type that was found.
              have hpair := ofParts?_typeFirst room m n hkey hnkey
              rw [ofTexts?, htake, Option.bind_some] at hpair
              simp only [ok_bind, hcolon]
              rw [toOption_bind, hread]
              cases hcontent : take? (readContent type) n.value with
              | none =>
                  rw [hcontent] at hpair
                  rw [ofParts?_of_pair room m n _ hpair]
                  rfl
              | some v =>
                  rw [hcontent] at hpair
                  exact noMoreParts_then room rest behind m n later v hlater hpair

/-- What is left to read behind the key of the content, which comes first. -/
theorem readContentFirst_of_row (room : Nat) (rest colon behind : List Char) (m : Member)
    (later : List Member) (hkey : m.key = some Part.content.key)
    (hcolon : memberColon colon = .ok ((), m.value ++ behind))
    (hvalue : skip (m.value ++ behind) = .ok ((), behind)) (hlater : Row rest false behind later) :
    (readContentFirst room colon).toOption =
      (ofParts? room (m :: relevant later)).map fun v => (v, '\x7d' :: rest) := by
  have hends := ends_of_row rest behind later hlater
  have htree := toOption_append _ (readsTree_tree room).oneValue m.value behind hvalue hends
  rw [readContentFirst, hcolon]
  simp only [ok_bind]
  rw [toOption_bind, htree]
  cases htake : take? (tree room) m.value with
  | none =>
      rw [ofParts?_of_content room m _ hkey htake]
      rfl
  | some t =>
      simp only [Option.map_some, Option.bind_some]
      have hnext := next_of_laterPart rest behind later hlater
      generalize laterPart behind = next at hnext ⊢
      cases hnext with
      | ended hms =>
          rw [hms]
          rfl
      | fault n more e hms hnone =>
          rw [hms, ofParts?_eq_none room m n more Part.content hkey (Or.inr hnone)]
          rfl
      | part p n later colon behind hms hnkey hcolon hvalue hlater =>
          rw [hms]
          cases p with
          | content =>
              rw [ofParts?_eq_none room m n _ Part.content hkey (Or.inl hnkey)]
              rfl
          | type =>
              have hends := ends_of_row rest behind later hlater
              have hread := toOption_append _ (oneValue_variant ValueType.names room) n.value behind
                hvalue hends
              have hpair := ofParts?_contentFirst room m n hkey hnkey
              rw [ofTexts?] at hpair
              simp only [ok_bind, hcolon]
              rw [toOption_bind, hread]
              cases htype : take? (variant ValueType.names room) n.value with
              | none =>
                  rw [htype] at hpair
                  rw [ofParts?_of_pair room m n _ hpair]
                  rfl
              | some type =>
                  -- The type is known now, and the tree is made content of it.
                  rw [htype, Option.bind_some, take?_content room type m.value t htake] at hpair
                  simp only [Option.map_some, Option.bind_some]
                  cases hconvert : ofTree type t with
                  | error cause =>
                      rw [hconvert] at hpair
                      rw [ofParts?_of_pair room m n _ hpair]
                      rfl
                  | ok v =>
                      rw [hconvert] at hpair
                      exact noMoreParts_then room rest behind m n later v hlater hpair

/-- The object form, whichever part comes first. -/
theorem readMembers_of_row (room : Nat) (rest s : List Char) (ms : List Member)
    (h : Row rest true s ms) : (readMembers room s).toOption =
      (ofMembers? room ms).map fun v => (v, '\x7d' :: rest) := by
  have hnext := next_of_row rest true s ms h _ (Nat.lt_succ_of_le (length_of_row rest true s ms h))
  rw [readMembers, ofMembers?]
  generalize nextPart (s.length + 1) true s = next at hnext ⊢
  cases hnext with
  | ended hms =>
      rw [hms]
      rfl
  | fault m more e hms hnone =>
      rw [hms, ofParts?_of_fault room m more hnone]
      rfl
  | part p m later colon behind hms hkey hcolon hvalue hlater =>
      rw [hms]
      cases p with
      | type => exact readTypeFirst_of_row room rest colon behind m later hkey hcolon hvalue hlater
      | content =>
          exact readContentFirst_of_row room rest colon behind m later hkey hcolon hvalue hlater

/-! ### The members of a text that was read -/

theorem row_of_ended (fuel : Nat) (first : Bool) (s t : List Char)
    (h : nextPart fuel first s = .ok (none, t)) :
    ∃ rest ms, t = '\x7d' :: rest ∧ Row rest first s ms := by
  induction fuel generalizing first s with
  | zero => cases h
  | succ fuel ih =>
      rcases (bind_eq_ok _ _ _).mp h with ⟨⟨goes, key⟩, hgoes, h⟩
      rw [hasMember_eq_ok_iff] at hgoes
      cases goes with
      | false =>
          rcases Prod.mk.inj (Except.ok.inj h) with ⟨_, rfl⟩
          cases hgoes with
          | close rest hs => exact ⟨rest, [], rfl, Row.close first s hs⟩
      | true =>
          rcases (bind_eq_ok _ _ _).mp h with ⟨⟨name, colon⟩, hname, h⟩
          -- A key of a part would have been found, so this one is passed over.
          dsimp only at h
          split at h
          · cases h
          · rcases (bind_eq_ok _ _ _).mp h with ⟨⟨_, v⟩, hcolon, h⟩
            rcases (bind_eq_ok _ _ _).mp h with ⟨⟨_, behind⟩, hskip, h⟩
            rcases ih false behind h with ⟨rest, ms, rfl, hms⟩
            rcases row_cons rest first s key colon v behind ms hgoes
              (skipString_of_string key name colon hname) hcolon hskip hms with ⟨m, hrow⟩
            exact ⟨rest, m :: ms, rfl, hrow⟩

/-- Where a part was found, the members behind it make a row with it. -/
theorem row_of_part (rest : List Char) (fuel : Nat) (first : Bool) (s : List Char) (p : Part)
    (colon v behind : List Char) (later : List Member)
    (h : nextPart fuel first s = .ok (some p, colon)) (hcolon : memberColon colon = .ok ((), v))
    (hskip : skip v = .ok ((), behind)) (hlater : Row rest false behind later) :
    ∃ ms, Row rest first s ms := by
  induction fuel generalizing first s with
  | zero => cases h
  | succ fuel ih =>
      rcases (bind_eq_ok _ _ _).mp h with ⟨⟨goes, key⟩, hgoes, h⟩
      rw [hasMember_eq_ok_iff] at hgoes
      cases goes with
      | false => cases h
      | true =>
          rcases (bind_eq_ok _ _ _).mp h with ⟨⟨name, sign⟩, hname, h⟩
          have hquoted := skipString_of_string key name sign hname
          dsimp only at h
          -- Either this is the part, or a member that is passed over on the way to it.
          split at h
          · rcases Prod.mk.inj (Except.ok.inj h) with ⟨_, rfl⟩
            rcases row_cons rest first s key _ v behind later hgoes hquoted hcolon hskip hlater with
              ⟨m, hrow⟩
            exact ⟨m :: later, hrow⟩
          · rcases (bind_eq_ok _ _ _).mp h with ⟨⟨_, w⟩, hsign, h⟩
            rcases (bind_eq_ok _ _ _).mp h with ⟨⟨_, after⟩, hother, h⟩
            rcases ih false after h with ⟨ms, hms⟩
            rcases row_cons rest first s key sign w after ms hgoes hquoted hsign hother hms with
              ⟨m, hrow⟩
            exact ⟨m :: ms, hrow⟩

theorem row_of_noMoreParts (s t : List Char) (h : noMoreParts s = .ok ((), t)) :
    ∃ rest ms, t = '\x7d' :: rest ∧ Row rest false s ms := by
  rcases (bind_eq_ok _ _ _).mp h with ⟨⟨part, u⟩, hnext, h⟩
  cases part with
  | none =>
      rcases Prod.mk.inj (Except.ok.inj h) with ⟨_, rfl⟩
      exact row_of_ended _ false s u hnext
  | some p => cases h

theorem row_of_readTypeFirst (room : Nat) (colon : List Char) (v : Value) (t : List Char)
    (h : readTypeFirst room colon = .ok (v, t)) :
    ∃ rest w behind later, t = '\x7d' :: rest ∧ memberColon colon = .ok ((), w) ∧
      skip w = .ok ((), behind) ∧ Row rest false behind later := by
  rcases (bind_eq_ok _ _ _).mp h with ⟨⟨_, w⟩, hcolon, h⟩
  rcases (bind_eq_ok _ _ _).mp h with ⟨⟨type, behind⟩, htype, h⟩
  rcases (bind_eq_ok _ _ _).mp h with ⟨⟨part, sign⟩, hnext, h⟩
  -- Behind the type it is only the content that lets the reading go on.
  have hpart : part = some Part.content := by
    rcases part with _ | _ | _
    · cases h
    · cases h
    · rfl
  rcases hpart with rfl
  rcases (bind_eq_ok _ _ _).mp h with ⟨⟨_, x⟩, hsign, h⟩
  rcases (bind_eq_ok _ _ _).mp h with ⟨⟨content, after⟩, hcontent, h⟩
  rcases (bind_eq_ok _ _ _).mp h with ⟨⟨_, u⟩, hover, h⟩
  rcases Prod.mk.inj (Except.ok.inj h) with ⟨_, rfl⟩
  rcases row_of_noMoreParts after u hover with ⟨rest, ms, rfl, hms⟩
  have hread := (readsTree_content type room).oneValue.passes x content after hcontent
  rcases row_of_part rest _ false behind Part.content sign x after ms hnext hsign hread hms with
    ⟨later, hlater⟩
  exact ⟨rest, w, behind, later, rfl, hcolon,
    (oneValue_variant ValueType.names room).passes w type behind htype, hlater⟩

theorem row_of_readContentFirst (room : Nat) (colon : List Char) (v : Value) (t : List Char)
    (h : readContentFirst room colon = .ok (v, t)) :
    ∃ rest w behind later, t = '\x7d' :: rest ∧ memberColon colon = .ok ((), w) ∧
      skip w = .ok ((), behind) ∧ Row rest false behind later := by
  rcases (bind_eq_ok _ _ _).mp h with ⟨⟨_, w⟩, hcolon, h⟩
  rcases (bind_eq_ok _ _ _).mp h with ⟨⟨content, behind⟩, hcontent, h⟩
  rcases (bind_eq_ok _ _ _).mp h with ⟨⟨part, sign⟩, hnext, h⟩
  -- Behind the value only the tag may come, not the end and not a second value.
  have hpart : part = some Part.type := by
    rcases part with _ | _ | _
    · cases h
    · rfl
    · cases h
  rcases hpart with rfl
  rcases (bind_eq_ok _ _ _).mp h with ⟨⟨_, x⟩, hsign, h⟩
  rcases (bind_eq_ok _ _ _).mp h with ⟨⟨type, after⟩, htype, h⟩
  dsimp only at h
  split at h
  · cases h
  rcases (bind_eq_ok _ _ _).mp h with ⟨⟨_, u⟩, hover, h⟩
  rcases Prod.mk.inj (Except.ok.inj h) with ⟨_, rfl⟩
  rcases row_of_noMoreParts after u hover with ⟨rest, ms, rfl, hms⟩
  have hread := (oneValue_variant ValueType.names room).passes x type after htype
  rcases row_of_part rest _ false behind Part.type sign x after ms hnext hsign hread hms with
    ⟨later, hlater⟩
  exact ⟨rest, w, behind, later, rfl, hcolon, skip_of_tree room w content behind hcontent, hlater⟩

theorem row_of_readMembers (room : Nat) (s : List Char) (v : Value) (t : List Char)
    (h : readMembers room s = .ok (v, t)) :
    ∃ rest ms, t = '\x7d' :: rest ∧ Row rest true s ms := by
  rcases (bind_eq_ok _ _ _).mp h with ⟨⟨part, colon⟩, hnext, h⟩
  rcases part with _ | _ | _
  · cases h
  · rcases row_of_readTypeFirst room colon v t h with
      ⟨rest, w, behind, later, rfl, hcolon, hw, hlater⟩
    rcases row_of_part rest _ true s _ colon w behind later hnext hcolon hw hlater with ⟨ms, hms⟩
    exact ⟨rest, ms, rfl, hms⟩
  · rcases row_of_readContentFirst room colon v t h with
      ⟨rest, w, behind, later, rfl, hcolon, hw, hlater⟩
    rcases row_of_part rest _ true s _ colon w behind later hnext hcolon hw hlater with ⟨ms, hms⟩
    exact ⟨rest, ms, rfl, hms⟩

/-! ### The list form -/

/-- The list form is a name and content of that type. -/
theorem readElements_of_items (rest s : List Char) (values : List (List Char)) (room : Nat)
    (h : Items rest true s values) :
    (readElements s >>= fun x => closeList x.2 >>= fun y => .ok (x.1, y.2) :
        Except Failure (Value × List Char)).toOption =
      (ofBlock? (room + 1) (.sequence values)).map fun v => (v, rest) := by
  rw [readElements]
  cases h with
  | close _ _ hs =>
      rw [(hasElement_eq_ok_iff _ _ _ _).mpr (GoesOn.close rest hs)]
      rfl
  | item _ _ name behind values hgoes hname hvalues =>
      have hends := ends_of_items rest behind values hvalues
      have htype := toOption_append _ (oneValue_variantName ValueType.names) name behind hname hends
      rw [(hasElement_eq_ok_iff _ _ _ _).mpr hgoes]
      simp only [ok_bind]
      rw [toOption_bind, toOption_bind, htype]
      cases htake : take? (variantName ValueType.names) name with
      -- The first element is no type, so whatever follows does not matter.
      | none =>
          rcases values with _ | ⟨content, _ | ⟨k, more⟩⟩
          · rfl
          · rw [ofBlock?, htake]
            rfl
          · rfl
      | some type =>
          simp only [Option.map_some, Option.bind_some]
          cases hvalues with
          -- There is a type, but no content.
          | close _ _ hs =>
              rw [(hasElement_eq_ok_iff _ _ _ _).mpr (GoesOn.close rest hs)]
              rfl
          | item _ _ content after values hnext hcontent hlater =>
              have hafter := ends_of_items rest after values hlater
              have hread := toOption_append _ (readsTree_content type room).oneValue content after
                hcontent hafter
              rw [(hasElement_eq_ok_iff _ _ _ _).mpr hnext]
              simp only [ok_bind]
              rw [hread]
              cases hmade : take? (readContent type) content with
              -- The content is not one of the type.
              | none =>
                  cases values with
                  | nil =>
                      rw [ofBlock?, htake, Option.bind_some, hmade]
                      rfl
                  | cons k more => rfl
              -- Both are read, and nothing else may follow.
              | some v =>
                  simp only [Option.map_some, Option.bind_some, toOption_bind]
                  rw [closeList_of_items rest false after values hlater]
                  cases values with
                  | nil =>
                      rw [ofBlock?, htake, Option.bind_some, hmade]
                      rfl
                  | cons k more => rfl

theorem items_of_readElements (s : List Char) (v : Value) (t rest : List Char)
    (h : readElements s = .ok (v, t)) (hclose : skipSpace t = ']' :: rest) :
    ∃ values, Items rest true s values := by
  rcases (bind_eq_ok _ _ _).mp h with ⟨⟨goes, u⟩, hgoes, h⟩
  rw [hasElement_eq_ok_iff] at hgoes
  cases goes with
  | false => cases h
  | true =>
      rcases (bind_eq_ok _ _ _).mp h with ⟨⟨type, behind⟩, htype, h⟩
      rcases (bind_eq_ok _ _ _).mp h with ⟨⟨more, w⟩, hmore, h⟩
      rw [hasElement_eq_ok_iff] at hmore
      cases more with
      | false => cases h
      | true =>
          have hname := (oneValue_variantName ValueType.names).passes u type behind htype
          have hcontent := (readsTree_content type 0).oneValue.passes w v t h
          rcases exists_value_of_skip u behind hname with ⟨name, rfl⟩
          rcases exists_value_of_skip w t hcontent with ⟨content, rfl⟩
          exact ⟨[name, content], Items.item true s name behind _ hgoes hname
            (Items.item false behind content t [] hmore hcontent (Items.close false t hclose))⟩

/-! ### Both forms -/

theorem read_sequence (room : Nat) (s u : List Char) (hs : skipSpace s = '[' :: u) :
    read (room + 1) s =
      readElements u >>= fun x => closeList x.2 >>= fun y => .ok (x.1, y.2) := by
  rw [read, hs]
  rfl

theorem read_object (room : Nat) (s u : List Char) (hs : skipSpace s = '\x7b' :: u) :
    read (room + 1) s =
      readMembers room u >>= fun x => closeObject x.2 >>= fun y => .ok (x.1, y.2) := by
  rw [read, hs]
  rfl

/-- A value is read from the block that stands at the front of a text. -/
theorem readsBlock (room : Nat) : ReadsBlock (read room) (ofBlock? room) where
  block s v rest h := by
    -- What was read is followed back to the text: a list to its elements, an object
    -- to its members.
    rw [read] at h
    split at h
    · rename_i u hs
      cases room with
      | zero => cases h
      | succ room =>
          rcases (bind_eq_ok _ _ _).mp h with ⟨⟨w, t⟩, hread, h⟩
          rcases (bind_eq_ok _ _ _).mp h with ⟨⟨_, x⟩, hclose, h⟩
          rcases Prod.mk.inj (Except.ok.inj h) with ⟨_, rfl⟩
          rcases items_of_readElements u w t x hread ((Record.closeList_eq_ok_iff t () x).mp hclose) with
            ⟨values, hvalues⟩
          exact ⟨.sequence values, u, hs, hvalues⟩
    · rename_i u hs
      cases room with
      | zero => cases h
      | succ room =>
          rcases (bind_eq_ok _ _ _).mp h with ⟨⟨w, t⟩, hread, h⟩
          rcases (bind_eq_ok _ _ _).mp h with ⟨⟨_, x⟩, hclose, h⟩
          rcases Prod.mk.inj (Except.ok.inj h) with ⟨_, rfl⟩
          rcases row_of_readMembers room u w t hread with ⟨rest, ms, rfl, hms⟩
          rcases Prod.mk.inj (Except.ok.inj hclose) with ⟨_, rfl⟩
          exact ⟨.object ms, u, hs, hms⟩
    · exact absurd h (wrongKind_ne_ok _ _ _)
  toOption s rest b hb := by
    cases b with
    | sequence values =>
        rcases hb with ⟨u, hs, hitems⟩
        cases room with
        | zero =>
            -- Without room both sides are none.
            simp only [read, hs]
            rfl
        | succ room =>
            rw [read_sequence room s u hs]
            exact readElements_of_items rest u values room hitems
    | object ms =>
        rcases hb with ⟨u, hs, hrow⟩
        cases room with
        | zero =>
            simp only [read, hs]
            rfl
        | succ room =>
            rw [read_object room s u hs, toOption_bind, readMembers_of_row room rest u ms hrow,
              ofBlock?]
            cases ofMembers? room ms <;> rfl

theorem oneValue (room : Nat) : OneValue (read room) :=
  (readsBlock room).oneValue

/-! ### The order of members -/

/-- The keys of a value. -/
def keys : List String := [Part.type.key, Part.content.key]

theorem relevant_append (ms others : List Member) :
    relevant (ms ++ others) = relevant ms ++ relevant others :=
  List.filter_append ms others

theorem relevant_unknown (ms : List Member) (h : ∀ m ∈ ms, Unknown keys m) : relevant ms = [] := by
  refine List.filter_eq_nil_iff.mpr fun m hm => ?_
  rcases h m hm with ⟨key, hkey, hunknown⟩
  have hpart : part? key = none := by
    refine Option.eq_none_iff_forall_ne_some.mpr fun p hp => hunknown ?_
    rw [(part?_eq_some_iff key p).mp hp]
    cases p <;> decide
  simp only [isOther, hkey, hpart, Option.isNone_none]
  decide

/-- The two parts may be exchanged. -/
theorem ofParts?_swap (room : Nat) (m n : Member) :
    ofParts? room [m, n] = ofParts? room [n, m] := by
  have hdiffer : Part.type.key ≠ Part.content.key := by decide
  rw [ofParts?, ofParts?]
  by_cases hfirst : m.key = some Part.type.key ∧ n.key = some Part.content.key
  · have hne : ¬(n.key = some Part.type.key ∧ m.key = some Part.content.key) :=
      fun h => hdiffer (Option.some.inj (h.1.symm.trans hfirst.2))
    rw [if_pos hfirst, if_neg hne, if_pos hfirst.symm]
  · rw [if_neg hfirst]
    by_cases hsecond : m.key = some Part.content.key ∧ n.key = some Part.type.key
    · rw [if_pos hsecond, if_pos hsecond.symm]
    · rw [if_neg hsecond, if_neg fun h => hsecond h.symm, if_neg fun h => hfirst h.symm]

theorem ofParts?_of_length (room : Nat) (ms : List Member) (h : ms.length ≠ 2) :
    ofParts? room ms = none := by
  rcases ms with _ | ⟨m, _ | ⟨n, _ | ⟨k, ms⟩⟩⟩
  · rfl
  · rfl
  · exact absurd rfl h
  · rfl

theorem ofParts?_perm (room : Nat) (ms others : List Member) (h : ms.Perm others) :
    ofParts? room ms = ofParts? room others := by
  have hlength := h.length_eq
  by_cases htwo : ms.length = 2
  · rcases List.length_eq_two.mp htwo with ⟨m, n, rfl⟩
    rcases List.length_eq_two.mp (hlength.symm.trans htwo) with ⟨a, b, rfl⟩
    -- Two parts have two orders.
    rcases List.mem_cons.mp (h.mem_iff.mpr List.mem_cons_self) with rfl | ha
    · rw [List.singleton_inj.mp (List.perm_singleton.mp h.cons_inv)]
    · rcases List.mem_singleton.mp ha with rfl
      have hswap := (List.Perm.swap m a []).trans h
      rw [ofParts?_swap, List.singleton_inj.mp (List.perm_singleton.mp hswap.cons_inv)]
  · rw [ofParts?_of_length room ms htwo, ofParts?_of_length room others (hlength ▸ htwo)]

/-- Members may be exchanged and unknown ones put in anywhere. -/
theorem ofMembers?_insert (room : Nat) (ms extra others : List Member)
    (hextra : ∀ m ∈ extra, Unknown keys m) (hperm : (ms ++ extra).Perm others) :
    ofMembers? room others = ofMembers? room ms := by
  have hrelevant : (relevant ms).Perm (relevant others) := by
    have hfilter : (relevant (ms ++ extra)).Perm (relevant others) := hperm.filter _
    rw [relevant_append, relevant_unknown extra hextra, List.append_nil] at hfilter
    exact hfilter
  exact (ofParts?_perm room _ _ hrelevant).symm

end Value

end StreamRoster
