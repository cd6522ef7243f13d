import StreamRoster.Proofs.Json.Records
import StreamRoster.Proofs.Json.Supplied
import StreamRoster.Proofs.Number.NaturalText

/-!
# The Texts of a Count

A count is a natural of 64 bits. It is written as a number or as a string, since
not everyone can hold 64 bits in a number, and the two are told apart only after
the value was read whole. `Count.Spells` says which texts are which count. It is a
relation between texts and naturals, with no readers in it but the one of
strings: in a number the digits stand bare, and in a string they may have a
sign, leading zeros, and white space around them.

Reading agrees with it (`take?_read_iff`), and nothing is left to be rounded or
to wrap around, since no text is a count from `2 ^ 64` on. A value of any other
kind is no count, and so is a number that is written with a fraction or an
exponent or behind a minus sign.

What is read of a record then follows from what is read of it without its count
(`counts_read`).

## Main definitions

* `Count.Spells`: A value is the text of a count.

## Theorems

* `Count.ofText_eq_ok_iff`: The counts in strings.
* `Count.ofTree_eq_ok_iff`: The count in a tree is the one in its text.
* `Count.take?_read_iff`: The texts that are read as a count.
* `Count.spells_writeNat_iff`, `Count.spells_writeText_iff`: A natural and its
  decimal string.
* `counts_read`: All of this in the records that have a count.
-/

namespace StreamRoster

open Json

namespace Count

/-- The count in the text of a value: an integer behind blanks, or a string that
    holds a decimal natural with white space around it. -/
inductive Spells : List Char → Nat → Prop where
  | number (blanks ds : List Char) (n : Nat) (hblanks : ∀ c ∈ blanks, isSpace c = true)
      (hds : Whole ds) (hvalue : Nat.ofDigitChars 10 ds 0 = n) (hlimit : n < UInt64.size) :
      Spells (blanks ++ ds) n
  | string (value : List Char) (s : String) (front core behind : List Char) (n : Nat)
      (hvalue : anyText value = .ok (s, [])) (hs : s.toList = front ++ (core ++ behind))
      (hfront : ∀ c ∈ front, Text.isBlank c = true) (hbehind : ∀ c ∈ behind, Text.isBlank c = true)
      (hcore : Unsigned.Written core n) (hlimit : n < UInt64.size) : Spells value n

/-! ### Strings -/

theorem not_blank_of_written (core : List Char) (n : Nat) (h : Unsigned.Written core n) :
    ∀ c ∈ core, Text.isBlank c = false := by
  rcases h with ⟨sign, ds, rfl, hsign, _, hds, _⟩
  refine List.forall_mem_append.mpr ⟨fun c hc => ?_, fun c hc => ?_⟩
  · rcases hsign with rfl | rfl
    · exact absurd hc List.not_mem_nil
    · rcases List.mem_singleton.mp hc with rfl
      rfl
  · exact Timestamp.isBlank_of_isDigit c (hds c hc)

/-- A string is a count if a decimal natural of 64 bits is left of it when white
    space is taken off. -/
theorem ofText_eq_ok_iff (s : String) (n : UInt64) :
    ofText s = .ok n ↔ ∃ front core behind, s.toList = front ++ (core ++ behind) ∧
      (∀ c ∈ front, Text.isBlank c = true) ∧ (∀ c ∈ behind, Text.isBlank c = true) ∧
      Unsigned.Written core n.toNat := by
  have hread := fun core m => Unsigned.read_eq_ok_iff 0x10000000000000000 core m (by decide)
  refine ⟨fun h => ?_, fun h => ?_⟩
  · rw [ofText] at h
    split at h
    · rename_i m hm
      rcases Except.ok.inj h with rfl
      rcases (hread _ m).mp hm with ⟨hwritten, hlt⟩
      rcases Text.exists_padding s.toList with ⟨front, behind, hs, hfront, hbehind⟩
      rw [UInt64.toNat_ofNat_of_lt' hlt]
      exact ⟨front, _, behind, hs, hfront, hbehind, hwritten⟩
    · cases h
  · rcases h with ⟨front, core, behind, hs, hfront, hbehind, hcore⟩
    have htrim := Text.trim_padded front core behind hfront
      (not_blank_of_written core n.toNat hcore) hbehind
    rw [ofText, hs, htrim, (hread core n.toNat).mpr ⟨hcore, UInt64.toNat_lt n⟩]
    exact congrArg Except.ok UInt64.ofNat_toNat

/-! ### Numbers and strings -/

theorem ofTree_cases (t : Tree) (n : UInt64) (h : ofTree t = .ok n) :
    (∃ m : Nat, t = .number (.integer m) ∧ UInt64.ofNat m = n) ∨
      ∃ s, t = .text s ∧ ofText s = .ok n := by
  rw [ofTree.eq_def] at h
  split at h
  · rename_i m
    exact Or.inl ⟨m, rfl, Except.ok.inj h⟩
  · rename_i s
    exact Or.inr ⟨s, rfl, h⟩
  · cases h

/-- A natural that is read is written without a sign. -/
theorem digits_of_anyNumber (expected : String) (value : List Char) (m : Nat)
    (h : anyNumber expected value = .ok (.integer m, [])) :
    ∃ blanks ds, value = blanks ++ ds ∧ (∀ c ∈ blanks, isSpace c = true) ∧ Whole ds ∧
      Nat.ofDigitChars 10 ds 0 = m ∧ m < Number.limit := by
  rcases exists_blanks value with ⟨blanks, hvalue, hblanks⟩
  rw [anyNumber] at h
  split at h
  · have hnegative := negative_of_number _ _ _ h
    omega
  · rename_i c u _ hs
    rw [hs] at hvalue
    split_ifs at h with hdigit
    · exact ⟨blanks, c :: u, hvalue, hblanks, (number_eq_integer_iff _ m).mp h⟩
    · exact absurd h (wrongKind_ne_ok _ _ _)
  · cases h

theorem anyNumber_of_digits (expected : String) (blanks ds : List Char)
    (hblanks : ∀ c ∈ blanks, isSpace c = true) (hds : Whole ds)
    (hlimit : Nat.ofDigitChars 10 ds 0 < Number.limit) :
    anyNumber expected (blanks ++ ds) = .ok (.integer (Nat.ofDigitChars 10 ds 0 : Nat), []) := by
  have hread := (number_eq_integer_iff ds _).mpr ⟨hds, rfl, hlimit⟩
  cases ds with
  | nil => exact absurd rfl hds.ne_nil
  | cons c ds =>
      have hc := hds.digits c List.mem_cons_self
      have hminus := ne_of_isDigit c '-' hc rfl
      rw [anyNumber, skipSpace_append blanks _ hblanks,
        skipSpace_cons c ds (isSpace_of_isDigit c hc)]
      split
      · rename_i heq
        exact absurd (List.cons.inj heq).1 hminus
      · rename_i heq
        rcases List.cons.inj heq with ⟨rfl, rfl⟩
        rw [if_pos hc, hread]
      · rename_i heq
        cases heq

/-- The text of a count is a value. -/
theorem exists_tree (room : Nat) (value : List Char) (n : Nat) (h : Spells value n) :
    ∃ t, tree room value = .ok (t, []) := by
  cases h with
  | number blanks ds n hblanks hds hvalue hlimit =>
      rcases hvalue with rfl
      exact (readsTree_anyNumber "" room).tree _ _ _
        (anyNumber_of_digits "" blanks ds hblanks hds hlimit)
  | string value s front core behind n hvalue =>
      exact (readsTree_text "a string" room).tree _ _ _ hvalue

/-- The count in a tree is the one in the text of it. -/
theorem ofTree_eq_ok_iff (room : Nat) (value : List Char) (t : Tree)
    (h : tree room value = .ok (t, [])) (n : UInt64) :
    ofTree t = .ok n ↔ Spells value n.toNat := by
  have hnumber := (readsTree_anyNumber "" room).toOption value t [] h
  have htext := (readsTree_text "a string" room).toOption value t [] h
  refine ⟨fun hn => ?_, fun hn => ?_⟩
  · -- A number or a string was read, and its digits are found in the text.
    rcases ofTree_cases t n hn with ⟨m, rfl, rfl⟩ | ⟨s, rfl, hs⟩
    · rcases digits_of_anyNumber "" value m ((toOption_eq_some_iff _ _).mp hnumber) with
        ⟨blanks, ds, rfl, hblanks, hds, hvalue, hlimit⟩
      rw [UInt64.toNat_ofNat_of_lt' hlimit]
      exact Spells.number blanks ds m hblanks hds hvalue hlimit
    · rcases (ofText_eq_ok_iff s n).mp hs with ⟨front, core, behind, hs, hfront, hbehind, hcore⟩
      exact Spells.string value s front core behind n.toNat ((toOption_eq_some_iff _ _).mp htext) hs
        hfront hbehind hcore (UInt64.toNat_lt n)
  · -- The text decides which tree was read: all kinds but one would not be read from it.
    generalize hm : n.toNat = m at hn
    cases hn with
    | number blanks ds m hblanks hds hvalue hlimit =>
        rcases hvalue with rfl
        rw [anyNumber_of_digits "" blanks ds hblanks hds hlimit] at hnumber
        rcases Option.map_eq_some_iff.mp hnumber.symm with ⟨x, hx, heq⟩
        rcases Prod.mk.inj heq with ⟨rfl, _⟩
        cases t with
        | number y =>
            rcases Option.some.inj hx with rfl
            rw [← hm]
            exact congrArg Except.ok UInt64.ofNat_toNat
        | null | boolean b | text s | array items | object ms => cases hx
    | string value s front core behind m hvalue hs hfront hbehind hcore hlimit =>
        rw [← anyText, hvalue] at htext
        rcases Option.map_eq_some_iff.mp htext.symm with ⟨x, hx, heq⟩
        rcases Prod.mk.inj heq with ⟨rfl, _⟩
        cases t with
        | text y =>
            rcases Option.some.inj hx with rfl
            exact (ofText_eq_ok_iff _ n).mpr ⟨front, core, behind, hs, hfront, hbehind, hm ▸ hcore⟩
        | null | boolean b | number y | array items | object ms => cases hx

/-- A text is read as a count if it is one. -/
theorem take?_read_iff (room : Nat) (value : List Char) (n : UInt64) :
    take? (read room) value = some n ↔ Spells value n.toNat := by
  rw [take?_eq_some_iff]
  refine ⟨fun h => ?_, fun h => ?_⟩
  · rcases (bind_eq_ok _ _ _).mp h with ⟨⟨t, rest⟩, ht, h⟩
    dsimp only at h
    split at h
    · rename_i m hm
      rcases Prod.mk.inj (Except.ok.inj h) with ⟨rfl, rfl⟩
      exact (ofTree_eq_ok_iff room value t ht m).mp hm
    · cases h
  · rcases exists_tree room value _ h with ⟨t, ht⟩
    have hcount := (ofTree_eq_ok_iff room value t ht n).mpr h
    refine (bind_eq_ok _ _ _).mpr ⟨(t, []), ht, ?_⟩
    simp only [hcount]

/-! ### A natural and its decimal string -/

/-- Nothing stands around digits that is not among them. -/
theorem eq_nil_of_digits (p : Char → Bool) (hp : ∀ c, c.isDigit = true → p c = false)
    (part ds : List Char) (hpart : ∀ c ∈ part, p c = true) (hsub : ∀ c ∈ part, c ∈ ds)
    (hds : ∀ c ∈ ds, c.isDigit = true) : part = [] := by
  refine List.eq_nil_iff_forall_not_mem.mpr fun c hc => ?_
  exact absurd ((hpart c hc).symm.trans (hp c (hds c (hsub c hc)))) nofun

/-- The digits of a natural are the natural, if it has 64 bits. -/
theorem spells_writeNat_iff (n c : Nat) : Spells (writeNat n) c ↔ c = n ∧ n < UInt64.size := by
  have hwhole : Whole (writeNat n) := whole_toDigits n
  have hvalue : Nat.ofDigitChars 10 (writeNat n) 0 = n := Nat.ofDigitChars_ten_toDigits
  refine ⟨fun h => ?_, fun h => ?_⟩
  · generalize htext : writeNat n = value at h hwhole hvalue
    cases h with
    | number blanks ds c hblanks hds hc hlimit =>
        have hnone := eq_nil_of_digits isSpace isSpace_of_isDigit blanks _ hblanks
          (fun _ => List.mem_append_left ds) hwhole.digits
        rw [hnone, List.nil_append, hc] at hvalue
        exact ⟨hvalue, hvalue ▸ hlimit⟩
    | string value s front core behind c hread =>
        -- A number does not begin with a quote, so no string is read.
        have hquote := text_of_not_quote "a string" value fun u hu => ?_
        · rw [← anyText, hread] at hquote
          cases hquote
        · cases value with
          | nil => exact hwhole.ne_nil rfl
          | cons d ds =>
              have hd := hwhole.digits d List.mem_cons_self
              rw [skipSpace_cons d ds (isSpace_of_isDigit d hd)] at hu
              exact ne_of_isDigit d '"' hd rfl (List.cons.inj hu).1
  · rcases h with ⟨rfl, hlimit⟩
    exact Spells.number [] _ c nofun hwhole hvalue hlimit

/-- The decimal string of a natural is the natural, if it has 64 bits. -/
theorem spells_writeText_iff (n c : Nat) :
    Spells (writeText (toString n)) c ↔ c = n ∧ n < UInt64.size := by
  have hchars : (toString n).toList = Nat.toDigits 10 n := Nat.toList_repr
  have hwhole := whole_toDigits n
  have hvalue : Nat.ofDigitChars 10 (Nat.toDigits 10 n) 0 = n := Nat.ofDigitChars_ten_toDigits
  have hwritten := anyText_written (toString n)
  refine ⟨fun h => ?_, fun h => ?_⟩
  · generalize htext : writeText (toString n) = value at h hwritten
    cases h with
    | number blanks ds c hblanks hds =>
        -- A string opens with a quote, which is neither a blank nor a digit.
        have hquote := (congrArg skipSpace htext).symm.trans (skipSpace_cons '"' _ rfl)
        rw [skipSpace_append blanks ds hblanks] at hquote
        cases ds with
        | nil => exact absurd rfl hds.ne_nil
        | cons d ds =>
            have hd := hds.digits d List.mem_cons_self
            rw [skipSpace_cons d ds (isSpace_of_isDigit d hd)] at hquote
            exact absurd (List.cons.inj hquote).1 (ne_of_isDigit d '"' hd rfl)
    | string value s front core behind c hread hs hfront hbehind hcore hlimit =>
        rw [hwritten] at hread
        rcases Prod.mk.inj (Except.ok.inj hread) with ⟨rfl, _⟩
        rw [hchars] at hs
        have hdigits := hs ▸ hwhole.digits
        have hnofront := eq_nil_of_digits _ Timestamp.isBlank_of_isDigit front _ hfront
          (fun _ => List.mem_append_left _) hdigits
        have hnobehind := eq_nil_of_digits _ Timestamp.isBlank_of_isDigit behind _ hbehind
          (fun _ hc => List.mem_append_right _ (List.mem_append_right _ hc)) hdigits
        rw [hnofront, hnobehind, List.nil_append, List.append_nil] at hs
        rcases hcore with ⟨sign, ds, rfl, hsign, _, _, hc⟩
        rcases hsign with rfl | rfl
        · rw [hs, List.nil_append, hc] at hvalue
          exact ⟨hvalue, hvalue ▸ hlimit⟩
        · exact absurd hs (Unsigned.ne_plus_of_digits _ hwhole.digits ds)
  · rcases h with ⟨rfl, hlimit⟩
    refine Spells.string _ _ [] (Nat.toDigits 10 c) [] c hwritten ?_ nofun nofun ?_ hlimit
    · rw [hchars, List.nil_append, List.append_nil]
    · exact ⟨[], _, rfl, Or.inl rfl, hwhole.ne_nil, hwhole.digits, hvalue⟩

end Count

/-! ### Records with a count -/

/-- A reader of records takes the count of a record from the value that spells
    it, wherever that is supplied. The rest of the record is read as without a
    count, which is zero. -/
structure ReadsCount {α : Type} (read : Reader α) (place : Nat) (count : α → UInt64)
    (uncounted : α → α) : Prop where
  supplied : ∀ text rest b others value, BlockText text b → BlockText rest others →
    Supplied "dataCount" place value b others → ∀ a, readAll read text = .ok a ↔
      readAll read rest = .ok (uncounted a) ∧ Count.Spells value (count a).toNat
  absent : ∀ text b, BlockText text b → Lacks "dataCount" place b → ∀ a,
    readAll read text = .ok a → count a = 0

namespace Item

theorem finish_counted (d : Draft) (a : Item) (c : UInt64) (hfree : d.count = none) :
    record.finish { d with count := some c } = .ok a ↔
      record.finish d = .ok { a with count := 0 } ∧ c = a.count := by
  rcases d with ⟨name, count⟩
  rcases a with ⟨title, number⟩
  rcases hfree with rfl
  cases name with
  | none => exact iff_of_false nofun fun h => absurd h.1 nofun
  | some name =>
      refine ⟨fun h => ?_, fun h => ?_⟩
      · rcases Item.mk.inj (Except.ok.inj h) with ⟨rfl, rfl⟩
        exact ⟨rfl, rfl⟩
      · rcases h with ⟨h, rfl⟩
        rcases Item.mk.inj (Except.ok.inj h) with ⟨rfl, _⟩
        rfl

theorem count_of_finish (d : Draft) (a : Item) (hfree : d.count = none)
    (h : record.finish d = .ok a) : a.count = 0 := by
  rcases (bind_eq_ok _ _ _).mp h with ⟨name, _, h⟩
  rcases Except.ok.inj h with rfl
  exact congrArg (Option.getD · 0) hfree

theorem readsCount (room : Nat) :
    ReadsCount (read (room + 1)) 1 Item.count fun item => { item with count := 0 } where
  supplied text rest b others value htext hrest h a := by
    have hread := Record.readAll_supplied [nameSlot] countSlot rfl record places rfl rfl a _ a.count
      (fun d c hfree => finish_counted d a c hfree) room text rest b others value htext hrest h
    exact hread.trans (and_congr_right' (Count.take?_read_iff room value a.count))
  absent text b htext hlacks a hread := by
    rcases Record.exists_free_draft [nameSlot] countSlot rfl record places rfl rfl room text b htext
      hlacks a hread with ⟨d, hfree, hfinish⟩
    exact count_of_finish d a hfree hfinish

end Item

namespace Event

theorem finish_counted (d : Draft) (a : Event) (c : UInt64) (hfree : d.count = none) :
    record.finish { d with count := some c } = .ok a ↔
      record.finish d = .ok { a with count := 0 } ∧ c = a.count := by
  rcases d with ⟨kind, name, count⟩
  rcases a with ⟨sort, title, number⟩
  rcases hfree with rfl
  cases kind with
  | none => exact iff_of_false nofun fun h => absurd h.1 nofun
  | some kind =>
      cases name with
      | none => exact iff_of_false nofun fun h => absurd h.1 nofun
      | some name =>
          refine ⟨fun h => ?_, fun h => ?_⟩
          · rcases Event.mk.inj (Except.ok.inj h) with ⟨rfl, rfl, rfl⟩
            exact ⟨rfl, rfl⟩
          · rcases h with ⟨h, rfl⟩
            rcases Event.mk.inj (Except.ok.inj h) with ⟨rfl, rfl, _⟩
            rfl

theorem count_of_finish (d : Draft) (a : Event) (hfree : d.count = none)
    (h : record.finish d = .ok a) : a.count = 0 := by
  rcases (bind_eq_ok _ _ _).mp h with ⟨kind, _, h⟩
  rcases (bind_eq_ok _ _ _).mp h with ⟨name, _, h⟩
  rcases Except.ok.inj h with rfl
  exact congrArg (Option.getD · 0) hfree

theorem readsCount (room : Nat) :
    ReadsCount (read (room + 1)) 2 Event.count fun event => { event with count := 0 } where
  supplied text rest b others value htext hrest h a := by
    have hread := Record.readAll_supplied [kindSlot, nameSlot] countSlot rfl record places rfl rfl
      a _ a.count (fun d c hfree => finish_counted d a c hfree) room text rest b others value htext
      hrest h
    exact hread.trans (and_congr_right' (Count.take?_read_iff room value a.count))
  absent text b htext hlacks a hread := by
    rcases Record.exists_free_draft [kindSlot, nameSlot] countSlot rfl record places rfl rfl room
      text b htext hlacks a hread with ⟨d, hfree, hfinish⟩
    exact count_of_finish d a hfree hfinish

end Event

/-- Items and events take their counts from the values that spell them, whether
    they are read from a text or out of a tree. A natural and its decimal string
    spell the same count, which is the natural itself, if it has 64 bits. -/
theorem counts_read :
    (∀ room, ReadsCount (Item.read (room + 1)) 1 Item.count
        fun item => { item with count := 0 }) ∧
      (∀ room, ReadsCount (Event.read (room + 1)) 2 Event.count
        fun event => { event with count := 0 }) ∧
      (∀ room value t, tree room value = .ok (t, []) → ∀ n : UInt64,
        Count.ofTree t = .ok n ↔ Count.Spells value n.toNat) ∧
      ∀ n c, (Count.Spells (writeNat n) c ↔ c = n ∧ n < UInt64.size) ∧
        (Count.Spells (writeText (toString n)) c ↔ c = n ∧ n < UInt64.size) :=
  ⟨Item.readsCount, Event.readsCount, Count.ofTree_eq_ok_iff,
    fun n c => ⟨Count.spells_writeNat_iff n c, Count.spells_writeText_iff n c⟩⟩

/-- The largest count in a string, with all that may stand around it, and the
    number behind it, which is no count. -/
theorem counts_read_of_largest :
    readAll (Item.read topRoom) (String.ofList (writeObject [("name", writeText "a"),
        ("dataCount", writeText (String.ofList
          (' ' :: '+' :: '0' :: (writeNat 18446744073709551615 ++ ['\u3000']))))])) =
      .ok ⟨"a", 18446744073709551615⟩ ∧
    ∀ a, readAll (Item.read topRoom) (String.ofList (writeObject [("name", writeText "a"),
      ("dataCount", writeNat 18446744073709551616)])) ≠ .ok a := by
  have hname : skip (writeText "a") = .ok ((), []) :=
    oneValue_anyText.passes _ _ _ (anyText_written "a")
  have hrest : ObjectText (String.ofList (writeObject [("name", writeText "a")]))
      [⟨some "name", writeText "a"⟩] :=
    objectText_written [("name", writeText "a")] (List.forall_mem_singleton.mpr hname)
  have htext : ∀ value, skip value = .ok ((), []) →
      ObjectText (String.ofList (writeObject [("name", writeText "a"), ("dataCount", value)]))
        ([⟨some "name", writeText "a"⟩] ++ [⟨some "dataCount", value⟩]) := fun value hvalue =>
    objectText_written [("name", writeText "a"), ("dataCount", value)]
      (List.forall_mem_cons.mpr ⟨hname, List.forall_mem_singleton.mpr hvalue⟩)
  have hsupplied : ∀ value, Supplied "dataCount" 1 value
      (.object ([⟨some "name", writeText "a"⟩] ++ [⟨some "dataCount", value⟩]))
      (.object [⟨some "name", writeText "a"⟩]) := fun value =>
    Supplied.object [⟨some "name", writeText "a"⟩] [] (List.forall_mem_singleton.mpr (by decide))
  have hread := fun value hvalue => (counts_read.1 126).supplied _ _ _ _ value (htext value hvalue)
    hrest (hsupplied value)
  refine ⟨(hread _ ?_ _).mpr ⟨?_, ?_⟩, fun a ha => ?_⟩
  · exact oneValue_anyText.passes _ _ _ (anyText_written _)
  · refine readAll_of_read _ _ _ (Record.read_filled Item.record Item.lawful.oneValue 126 _
      ⟨some "a", none⟩ _ ?_ rfl)
    exact Record.Filled.set Item.slots 126 _ _ Item.nameSlot "a" _ _ rfl rfl (anyText_written _)
      (Record.Filled.nil _)
  · have hwhole := whole_toDigits 18446744073709551615
    have hvalue : Nat.ofDigitChars 10 ('0' :: writeNat 18446744073709551615) 0 =
        18446744073709551615 := Nat.ofDigitChars_ten_toDigits
    refine Count.Spells.string _ _ [' '] ('+' :: '0' :: writeNat 18446744073709551615) ['\u3000'] _
      (anyText_written _) String.toList_ofList (List.forall_mem_singleton.mpr rfl)
      (List.forall_mem_singleton.mpr rfl) ?_ (by decide)
    exact ⟨['+'], '0' :: writeNat 18446744073709551615, rfl, Or.inr rfl, List.cons_ne_nil _ _,
      List.forall_mem_cons.mpr ⟨rfl, hwhole.digits⟩, hvalue⟩
  · have hnumber : skip (writeNat 18446744073709551616) = .ok ((), []) := by decide
    have hcount := ((hread _ hnumber a).mp ha).2
    exact absurd ((counts_read.2.2.2 _ _).1.mp hcount).2 (by decide)

end StreamRoster
