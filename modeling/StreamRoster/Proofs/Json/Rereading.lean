import StreamRoster.Json.Writer
import StreamRoster.Proofs.Json.Conversion

/-!
# Reading What Was Written

The text of a tree is read back as that tree.

What is written has no blanks, and every value in it ends where the writer
stopped. So nothing has to be said about how far a reader goes: that a value is
read with nothing left over is enough, and `takes_of_local` puts whatever the
writer put behind it. The theorems below are therefore about the text of a value
alone, and only the fuel of strings, lists and objects looks further.

Floats are left out. Their text is read back only up to the rounding of the
reader, and none is ever written where this is used.

## Main definitions

* `Whole`: The whole part of a number.
* `Opens`: How the text of a value starts.
* `afterCommas`: Values with a comma in front of each.
* `Plain`: A tree without floats that is not nested too deeply.

## Theorems

* `writeChar_cases`: How a character is written.
* `string_takes`: A written string is read back.
* `number_whole`: The digits of a number are read.
* `number_digits`, `number_writeNat`: A written natural is read back.
* `elements_written`, `members_written`: Written lists and objects are read back.
* `tree_json`: A written tree is read back.
* `readAll_json`: The text of a tree is the tree.
-/

namespace StreamRoster

namespace Json

variable {α : Type}

/-! ### Strings -/

theorem hexValue?_digitChar : ∀ d < 16, hexValue? (Nat.digitChar d) = some d := by
  decide

/-- The escape of a control character. -/
theorem unicodeEscape_hexPair (n : Nat) (hn : n < 0x20) (s : List Char) :
    unicodeEscape ('0' :: '0' :: hexPair n ++ s) = .ok (Char.ofNat n, s) := by
  have hzero : hexValue? '0' = some 0 := rfl
  have hhigh := hexValue?_digitChar (n / 16) (by omega)
  have hlow := hexValue?_digitChar (n % 16) (by omega)
  have hhex : hexEscape ('0' :: '0' :: hexPair n ++ s) = .ok (n, s) := by
    simp only [hexPair, List.cons_append, List.nil_append, hexEscape, hzero, hhigh, hlow]
    rw [show ((0 * 16 + 0) * 16 + n / 16) * 16 + n % 16 = n by omega]
  have hnotLow : isLowSurrogate n = false := by
    rw [isLowSurrogate, Bool.and_eq_false_iff, decide_eq_false_iff_not]
    omega
  have hnotHigh : isHighSurrogate n = false := by
    rw [isHighSurrogate, Bool.and_eq_false_iff, decide_eq_false_iff_not]
    omega
  simp only [unicodeEscape, hhex, ok_bind, hnotLow, hnotHigh, Bool.false_eq_true, if_false]

/-- How a character is written: as an escape of one letter, as a numeric escape,
    or as it is. -/
theorem writeChar_cases (c : Char) :
    (∃ letter, writeChar c = ['\\', letter] ∧ ∀ s, escape (letter :: s) = .ok (c, s)) ∨
      (c.toNat < 0x20 ∧ writeChar c = '\\' :: 'u' :: '0' :: '0' :: hexPair c.toNat) ∨
      (¬c.toNat < 0x20 ∧ c ≠ '"' ∧ c ≠ '\\' ∧ writeChar c = [c]) := by
  unfold writeChar
  split
  · exact Or.inl ⟨'"', rfl, fun _ => rfl⟩
  · exact Or.inl ⟨'\\', rfl, fun _ => rfl⟩
  · exact Or.inl ⟨'b', rfl, fun _ => rfl⟩
  · exact Or.inl ⟨'f', rfl, fun _ => rfl⟩
  · exact Or.inl ⟨'n', rfl, fun _ => rfl⟩
  · exact Or.inl ⟨'r', rfl, fun _ => rfl⟩
  · exact Or.inl ⟨'t', rfl, fun _ => rfl⟩
  · rename_i hquote hbackslash _ _ _ _ _
    by_cases hcontrol : c.toNat < 0x20
    · rw [if_pos hcontrol]
      exact Or.inr (Or.inl ⟨hcontrol, rfl⟩)
    · rw [if_neg hcontrol]
      exact Or.inr (Or.inr ⟨hcontrol, hquote, hbackslash, rfl⟩)

theorem stringChars_escape (fuel : Nat) (c : Char) (s t cs rest : List Char)
    (hescape : escape s = .ok (c, t)) (h : stringChars fuel t = .ok (cs, rest)) :
    stringChars (fuel + 1) ('\\' :: s) = .ok (c :: cs, rest) := by
  simp only [stringChars, hescape, ok_bind, h]

theorem stringChars_plain (fuel : Nat) (c : Char) (s cs rest : List Char)
    (hcontrol : ¬c.toNat < 0x20) (hquote : c ≠ '"') (hbackslash : c ≠ '\\')
    (h : stringChars fuel s = .ok (cs, rest)) :
    stringChars (fuel + 1) (c :: s) = .ok (c :: cs, rest) := by
  rw [stringChars, if_neg hcontrol, h]
  · rfl
  · exact hquote
  · exact hbackslash

/-- A written character is read back in front of any more. -/
theorem stringChars_writeChar (fuel : Nat) (c : Char) (s cs rest : List Char)
    (h : stringChars fuel s = .ok (cs, rest)) :
    stringChars (fuel + 1) (writeChar c ++ s) = .ok (c :: cs, rest) := by
  rcases writeChar_cases c with ⟨letter, hwrite, hescape⟩ | ⟨hcontrol, hwrite⟩ |
    ⟨hcontrol, hquote, hbackslash, hwrite⟩
  · rw [hwrite]
    exact stringChars_escape fuel c _ s cs rest (hescape s) h
  · have hunicode := unicodeEscape_hexPair c.toNat hcontrol s
    rw [Char.ofNat_toNat] at hunicode
    rw [hwrite]
    exact stringChars_escape fuel c _ s cs rest hunicode h
  · rw [hwrite]
    exact stringChars_plain fuel c s cs rest hcontrol hquote hbackslash h

theorem stringChars_writeText (cs rest : List Char) (fuel : Nat) (hfuel : cs.length < fuel) :
    stringChars fuel (cs.flatMap writeChar ++ '"' :: rest) = .ok (cs, rest) := by
  induction cs generalizing fuel with
  | nil =>
      cases fuel with
      | zero => exact absurd hfuel (Nat.not_lt_zero _)
      | succ fuel => rfl
  | cons c cs ih =>
      cases fuel with
      | zero => exact absurd hfuel (Nat.not_lt_zero _)
      | succ fuel =>
          rw [List.flatMap_cons, List.append_assoc]
          exact stringChars_writeChar fuel c _ cs rest (ih fuel (Nat.lt_of_succ_lt_succ hfuel))

theorem writeChar_ne_nil (c : Char) : writeChar c ≠ [] := by
  rcases writeChar_cases c with ⟨letter, hwrite, _⟩ | ⟨_, hwrite⟩ | ⟨_, _, _, hwrite⟩
  all_goals
    rw [hwrite]
    exact List.cons_ne_nil _ _

theorem length_le_writeText (cs : List Char) : cs.length ≤ (cs.flatMap writeChar).length := by
  induction cs with
  | nil => exact Nat.le_refl _
  | cons c cs ih =>
      have hpos := List.length_pos_iff.mpr (writeChar_ne_nil c)
      rw [List.flatMap_cons, List.length_append, List.length_cons]
      omega

/-- A written string is read back behind its opening quote. -/
theorem string_takes (s : String) : Takes Any string (s.toList.flatMap writeChar ++ ['"']) s := by
  intro rest _
  rw [List.append_assoc, List.singleton_append, string, stringChars_writeText _ rest _ ?_]
  · exact congrArg (fun s => Except.ok (s, rest)) String.ofList_toList
  · have hlength := length_le_writeText s.toList
    rw [List.length_append]
    omega

/-! ### Numbers -/

theorem le_ofDigitChars (n : Nat) (ds : List Char) : n ≤ Nat.ofDigitChars 10 ds n := by
  induction ds generalizing n with
  | nil => exact Nat.le_refl _
  | cons d ds ih =>
      have hmore := ih (10 * n + (d.toNat - '0'.toNat))
      rw [Nat.ofDigitChars_cons]
      omega

/-- Digits that make a natural of 64 bits are all taken. -/
theorem takeDigits_of_lt (n : Nat) (ds : List Char) (h : Nat.ofDigitChars 10 ds n < Number.limit) :
    takeDigits n ds = (Nat.ofDigitChars 10 ds n, ds.length, []) := by
  induction ds generalizing n with
  | nil => rfl
  | cons d ds ih =>
      have hnext : n * 10 + FloatText.digitValue d = 10 * n + (d.toNat - '0'.toNat) := by
        rw [FloatText.digitValue, Nat.mul_comm]
      rw [Nat.ofDigitChars_cons] at h
      have hlt := Nat.lt_of_le_of_lt (le_ofDigitChars _ ds) h
      simp only [takeDigits, hnext, if_pos hlt, ih _ h, Nat.ofDigitChars_cons, List.length_cons]

/-- Only zero is written with a leading zero. -/
theorem head?_toDigits (n : Nat) (hn : 0 < n) : (Nat.toDigits 10 n).head? ≠ some '0' := by
  induction n using Nat.strongRecOn with
  | ind n ih =>
      by_cases hsmall : n < 10
      · rw [Nat.toDigits_of_lt_base hsmall]
        have hchar : ∀ d < 10, 0 < d → [Nat.digitChar d].head? ≠ some '0' := by decide
        exact hchar n hsmall hn
      · rw [Nat.toDigits_of_base_le (by decide) (Nat.le_of_not_lt hsmall), List.head?_append]
        have hrest := ih (n / 10) (by omega) (by omega)
        cases hhead : (Nat.toDigits 10 (n / 10)).head? with
        | none => exact absurd (List.head?_eq_none_iff.mp hhead) Nat.toDigits_ne_nil
        | some d =>
            rw [hhead] at hrest
            exact hrest

/-- The whole part of a number: digits, of which a zero leads only if it is the
    only one. -/
structure Whole (ds : List Char) : Prop where
  digits : ∀ c ∈ ds, c.isDigit = true
  ne_nil : ds ≠ []
  lead : ∀ u, ds = '0' :: u → u = []

/-- The digits of a natural that is not zero, and any more digits. -/
theorem whole_append (n : Nat) (ds : List Char) (hn : 0 < n) (hds : ∀ c ∈ ds, c.isDigit = true) :
    Whole (Nat.toDigits 10 n ++ ds) where
  digits c hc := by
    rcases List.mem_append.mp hc with hc | hc
    · exact Nat.isDigit_of_mem_toDigits (by decide) (Nat.le_refl 10) hc
    · exact hds c hc
  ne_nil := List.append_ne_nil_of_left_ne_nil Nat.toDigits_ne_nil ds
  lead u hu := by
    cases htext : Nat.toDigits 10 n with
    | nil => exact absurd htext Nat.toDigits_ne_nil
    | cons c cs =>
        rw [htext, List.cons_append] at hu
        refine absurd ?_ (head?_toDigits n hn)
        rw [htext, (List.cons.inj hu).1]
        rfl

theorem whole_toDigits (n : Nat) : Whole (Nat.toDigits 10 n) := by
  rcases Nat.eq_zero_or_pos n with rfl | hn
  · have hdigits : ∀ c ∈ Nat.toDigits 10 0, c.isDigit = true := fun c =>
      Nat.isDigit_of_mem_toDigits (by decide) (Nat.le_refl 10)
    exact ⟨hdigits, Nat.toDigits_ne_nil, fun u hu => (List.cons.inj hu).2.symm⟩
  · have hwhole := whole_append n [] hn nofun
    rw [List.append_nil] at hwhole
    exact hwhole

theorem Whole.startsWithDigit (c : Char) (ds s : List Char) (h : Whole (c :: ds))
    (hs : startsWithDigit s = false) :
    (decide (c = '0') && Json.startsWithDigit (ds ++ s)) = false := by
  by_cases hc : c = '0'
  · rcases hc with rfl
    rw [h.lead ds rfl, List.nil_append, hs, Bool.and_false]
  · rw [decide_eq_false hc, Bool.false_and]

/-- The whole part of a number is read with nothing left if its value fits 64
    bits. -/
theorem number_whole (negative : Bool) (ds : List Char) (h : Whole ds)
    (hlimit : Nat.ofDigitChars 10 ds 0 < Number.limit) :
    number negative ds = .ok (Number.ofDigits negative (Nat.ofDigitChars 10 ds 0), []) := by
  have hspan := spanDigits_append ds [] h.digits rfl
  have htake := takeDigits_of_lt 0 ds hlimit
  rw [List.append_nil] at hspan
  cases ds with
  | nil => exact absurd rfl h.ne_nil
  | cons c ds =>
      have hc := h.digits c List.mem_cons_self
      have hlead := h.startsWithDigit c ds [] rfl
      rw [List.append_nil] at hlead
      simp only [number, hc, Bool.not_true, Bool.false_eq_true, if_false, hlead, hspan, htake]
      rfl

/-- A natural behind its sign is read with nothing left. -/
theorem number_digits (negative : Bool) (n : Nat) (hn : n < Number.limit) :
    number negative (writeNat n) = .ok (Number.ofDigits negative n, []) := by
  have hvalue : Nat.ofDigitChars 10 (Nat.toDigits 10 n) 0 = n := Nat.ofDigitChars_ten_toDigits
  have hread := number_whole negative (Nat.toDigits 10 n) (whole_toDigits n) (hvalue.symm ▸ hn)
  rw [hvalue] at hread
  exact hread

/-- A written natural is read back with nothing left. -/
theorem number_writeNat (n : Nat) (hn : n < Number.limit) :
    number false (writeNat n) = .ok (.integer n, []) :=
  number_digits false n hn

/-! ### Lists -/

/-- The text of a value starts with a character of the value. -/
def Opens (s : List Char) : Prop := ∃ c u, s = c :: u ∧ isSpace c = false ∧ c ≠ ']'

/-- Values with a comma in front of each. -/
def afterCommas (texts : List (List Char)) : List Char := texts.flatMap (',' :: ·)

theorem separated_cons (first : List Char) (texts : List (List Char)) :
    separated (first :: texts) = first ++ afterCommas texts := by
  induction texts generalizing first with
  | nil => exact (List.append_nil _).symm
  | cons second texts ih =>
      rw [separated, ih second, afterCommas, afterCommas, List.flatMap_cons]
      rfl

theorem length_le_afterCommas (texts : List (List Char)) :
    texts.length ≤ (afterCommas texts).length := by
  induction texts with
  | nil => exact Nat.le_refl _
  | cons first texts ih =>
      have hmore : (afterCommas (first :: texts)).length =
          first.length + 1 + (afterCommas texts).length :=
        List.length_append
      rw [hmore, List.length_cons]
      omega

/-- Behind a value stands a comma or what closes the list or object. -/
theorem ends_afterCommas (texts : List (List Char)) (close : Char) (t : List Char)
    (hclose : follows close = true) : Ends (afterCommas texts ++ close :: t) := by
  cases texts with
  | nil =>
      intro c hc
      rcases Option.some.inj hc with rfl
      exact hclose
  | cons first texts =>
      intro c hc
      rcases Option.some.inj hc with rfl
      rfl

theorem hasElement_first (s t : List Char) (h : Opens s) :
    hasElement true (s ++ t) = .ok (true, s ++ t) := by
  rcases h with ⟨c, u, rfl, hspace, hc⟩
  exact (hasElement_eq_ok_iff _ _ _ _).mpr
    (GoesOn.start c (u ++ t) (skipSpace_cons c _ hspace) hc rfl)

theorem hasElement_next (s t : List Char) (h : Opens s) :
    hasElement false (',' :: (s ++ t)) = .ok (true, s ++ t) := by
  rcases h with ⟨c, u, rfl, hspace, hc⟩
  exact (hasElement_eq_ok_iff _ _ _ _).mpr
    (GoesOn.next _ c (u ++ t) (skipSpace_cons ',' _ rfl) (skipSpace_cons c _ hspace) hc rfl)

variable (read : Reader α) (write : α → List Char)

/-- The elements behind the first one. -/
theorem elements_afterCommas (items : List α)
    (h : ∀ a ∈ items, Opens (write a) ∧ Takes Ends read (write a) a) (fuel : Nat)
    (hfuel : items.length < fuel) (t : List Char) :
    elements read fuel false (afterCommas (items.map write) ++ ']' :: t) =
      .ok (items, ']' :: t) := by
  induction items generalizing fuel with
  | nil =>
      cases fuel with
      | zero => exact absurd hfuel (Nat.not_lt_zero _)
      | succ fuel => rfl
  | cons a items ih =>
      cases fuel with
      | zero => exact absurd hfuel (Nat.not_lt_zero _)
      | succ fuel =>
          rcases h a List.mem_cons_self with ⟨hopens, htakes⟩
          have hrest := ih (fun b hb => h b (List.mem_cons_of_mem a hb)) fuel
            (Nat.lt_of_succ_lt_succ hfuel)
          have htext : afterCommas ((a :: items).map write) ++ ']' :: t =
              ',' :: (write a ++ (afterCommas (items.map write) ++ ']' :: t)) := by
            rw [List.map_cons, afterCommas, List.flatMap_cons, List.append_assoc]
            rfl
          -- The comma or the bracket behind the element ends it.
          have hends := ends_afterCommas (items.map write) ']' t rfl
          simp only [htext, elements, hasElement_next _ _ hopens, ok_bind, htakes _ hends, hrest]

/-- A written list is read back in front of its closing bracket. -/
theorem elements_written (items : List α)
    (h : ∀ a ∈ items, Opens (write a) ∧ Takes Ends read (write a) a) (t : List Char) :
    elements read ((separated (items.map write) ++ ']' :: t).length + 1) true
      (separated (items.map write) ++ ']' :: t) = .ok (items, ']' :: t) := by
  cases items with
  | nil => rfl
  | cons a items =>
      rcases h a List.mem_cons_self with ⟨hopens, htakes⟩
      have hends := ends_afterCommas (items.map write) ']' t rfl
      have hrest := elements_afterCommas read write items
        (fun b hb => h b (List.mem_cons_of_mem a hb))
      rw [List.map_cons, separated_cons, List.append_assoc]
      have hlength := length_le_afterCommas (items.map write)
      simp only [elements, hasElement_first _ _ hopens, ok_bind, htakes _ hends]
      rw [hrest _ ?_]
      · rfl
      · rw [List.length_map] at hlength
        rw [List.length_append, List.length_append, List.length_cons]
        omega

/-! ### Objects -/

/-- The text of a member behind the quote that opens its key. -/
def keyed (key : String) (value : List Char) : List Char :=
  key.toList.flatMap writeChar ++ '"' :: ':' :: value

theorem writeMember_append (key : String) (value rest : List Char) :
    writeMember (key, value) ++ rest = '"' :: keyed key (value ++ rest) := by
  simp only [writeMember, writeText, keyed, List.append_assoc, List.cons_append,
    List.nil_append]

/-- A key is read back in front of its colon. -/
theorem string_keyed (key : String) (value : List Char) :
    string (keyed key value) = .ok (key, ':' :: value) := by
  have hkey := string_takes key (':' :: value) trivial
  rw [List.append_assoc, List.singleton_append] at hkey
  exact hkey

theorem memberColon_cons (s : List Char) : memberColon (':' :: s) = .ok ((), s) := rfl

/-- A member is read back, and then more. -/
theorem members_step (m : String × α) (htakes : Takes Ends read (write m.2) m.2) (fuel : Nat)
    (first : Bool) (s rest t : List Char) (ms : List (String × α))
    (hmember : hasMember first s = .ok (true, keyed m.1 (write m.2 ++ rest))) (hends : Ends rest)
    (hrest : members read fuel false rest = .ok (ms, t)) :
    members read (fuel + 1) first s = .ok (m :: ms, t) := by
  simp only [members, hmember, string_keyed, ok_bind, memberColon_cons, htakes rest hends, hrest]

/-- The members behind the first one. -/
theorem members_afterCommas (ms : List (String × α))
    (h : ∀ m ∈ ms, Takes Ends read (write m.2) m.2) (fuel : Nat) (hfuel : ms.length < fuel)
    (t : List Char) :
    members read fuel false
      (afterCommas (ms.map fun m => writeMember (m.1, write m.2)) ++ '\x7d' :: t) =
      .ok (ms, '\x7d' :: t) := by
  induction ms generalizing fuel with
  | nil =>
      cases fuel with
      | zero => exact absurd hfuel (Nat.not_lt_zero _)
      | succ fuel => rfl
  | cons m ms ih =>
      cases fuel with
      | zero => exact absurd hfuel (Nat.not_lt_zero _)
      | succ fuel =>
          have hrest := ih (fun n hn => h n (List.mem_cons_of_mem m hn)) fuel
            (Nat.lt_of_succ_lt_succ hfuel)
          refine members_step read write m (h m List.mem_cons_self) fuel false _ _ _ ms ?_
            (ends_afterCommas _ '\x7d' t rfl) hrest
          rw [List.map_cons, afterCommas, List.flatMap_cons, List.cons_append, List.cons_append,
            List.append_assoc, writeMember_append]
          exact (hasMember_eq_ok_iff _ _ _ _).mpr
            (HasKey.next _ _ (skipSpace_cons ',' _ rfl) (skipSpace_cons '"' _ rfl) rfl)

/-- A written object is read back in front of its closing brace. -/
theorem members_written (ms : List (String × α))
    (h : ∀ m ∈ ms, Takes Ends read (write m.2) m.2) (t : List Char) :
    members read ((separated (ms.map fun m => writeMember (m.1, write m.2)) ++
        '\x7d' :: t).length + 1) true
      (separated (ms.map fun m => writeMember (m.1, write m.2)) ++ '\x7d' :: t) =
      .ok (ms, '\x7d' :: t) := by
  cases ms with
  | nil => rfl
  | cons m ms =>
      have hlength := length_le_afterCommas (ms.map fun m => writeMember (m.1, write m.2))
      rw [List.map_cons, separated_cons, List.append_assoc]
      refine members_step read write m (h m List.mem_cons_self) _ true _ _ _ ms ?_
        (ends_afterCommas _ '\x7d' t rfl)
        (members_afterCommas read write ms (fun n hn => h n (List.mem_cons_of_mem m hn)) _ ?_ t)
      · rw [writeMember_append]
        exact (hasMember_eq_ok_iff _ _ _ _).mpr (HasKey.start _ (skipSpace_cons '"' _ rfl) rfl)
      · rw [List.length_map] at hlength
        rw [List.length_append, List.length_append, List.length_cons]
        omega

/-! ### Trees -/

/-- A tree without floats, in which no more lists and objects are nested than
    there is room for. -/
inductive Plain : Nat → Tree → Prop where
  | null (room : Nat) : Plain room .null
  | boolean (room : Nat) (b : Bool) : Plain room (.boolean b)
  | number (room n : Nat) (hn : n < Number.limit) : Plain room (.number (.integer n))
  | text (room : Nat) (s : String) : Plain room (.text s)
  | array (room : Nat) (items : List Tree) (hitems : ∀ item ∈ items, Plain room item) :
      Plain (room + 1) (.array items)
  | object (room : Nat) (ms : List (String × Tree)) (hms : ∀ m ∈ ms, Plain room m.2) :
      Plain (room + 1) (.object ms)

theorem jsonItems_eq (items : List Tree) : Tree.jsonItems items = items.map Tree.json := by
  induction items with
  | nil => rfl
  | cons item items ih => rw [Tree.jsonItems, ih, List.map_cons]

theorem jsonMembers_eq (ms : List (String × Tree)) :
    Tree.jsonMembers ms = ms.map fun m => (m.1, m.2.json) := by
  induction ms with
  | nil => rfl
  | cons m ms ih => rw [Tree.jsonMembers, ih, List.map_cons]

theorem json_array (items : List Tree) :
    (Tree.array items).json = '[' :: separated (items.map Tree.json) ++ [']'] := by
  rw [Tree.json, jsonItems_eq, writeArray]

theorem json_object (ms : List (String × Tree)) :
    (Tree.object ms).json =
      '\x7b' :: separated (ms.map fun m => writeMember (m.1, m.2.json)) ++ ['\x7d'] := by
  rw [Tree.json, jsonMembers_eq, writeObject, List.map_map]
  rfl

theorem json_integer (n : Nat) : (Tree.number (.integer n)).json = writeNat n :=
  Nat.toList_repr

/-- The text of a natural starts with a digit. -/
theorem exists_digit_writeNat (n : Nat) : ∃ c u, writeNat n = c :: u ∧ c.isDigit = true := by
  cases htext : writeNat n with
  | nil => exact absurd htext Nat.toDigits_ne_nil
  | cons c u =>
      have hmem : c ∈ writeNat n := htext ▸ List.mem_cons_self
      exact ⟨c, u, rfl, Nat.isDigit_of_mem_toDigits (by decide) (Nat.le_refl 10) hmem⟩

theorem ne_of_isDigit (c d : Char) (hc : c.isDigit = true) (hd : d.isDigit = false) : c ≠ d := by
  intro hcd
  rw [hcd, hd] at hc
  exact Bool.false_ne_true hc

theorem opens_json (room : Nat) (t : Tree) (h : Plain room t) : Opens t.json := by
  cases h with
  | null => exact ⟨'n', _, rfl, rfl, by decide⟩
  | boolean room b =>
      cases b with
      | true => exact ⟨'t', _, rfl, rfl, by decide⟩
      | false => exact ⟨'f', _, rfl, rfl, by decide⟩
  | text room s => exact ⟨'"', _, rfl, rfl, by decide⟩
  | array room items => exact ⟨'[', _, json_array items, rfl, by decide⟩
  | object room ms => exact ⟨'\x7b', _, json_object ms, rfl, by decide⟩
  | number room n hn =>
      rcases exists_digit_writeNat n with ⟨c, u, htext, hc⟩
      exact ⟨c, u, (json_integer n).trans htext, isSpace_of_isDigit c hc,
        ne_of_isDigit c ']' hc rfl⟩

/-- A written tree is read back with nothing left, by induction on the tree. -/
theorem tree_json (room : Nat) (t : Tree) (h : Plain room t) :
    tree room t.json = .ok (t, []) := by
  induction h with
  | null room => exact tree_eq_scalar room 'n' _ rfl (by decide) (by decide)
  | boolean room b =>
      cases b with
      | true => exact tree_eq_scalar room 't' _ rfl (by decide) (by decide)
      | false => exact tree_eq_scalar room 'f' _ rfl (by decide) (by decide)
  | text room s =>
      have hstring := string_takes s [] trivial
      rw [List.append_nil] at hstring
      refine (tree_eq_scalar room '"' _ rfl (by decide) (by decide)).trans ?_
      exact congrArg (· >>= fun x => Except.ok (Tree.text x.1, x.2)) hstring
  | number room n hn =>
      rcases exists_digit_writeNat n with ⟨c, u, htext, hc⟩
      have hnumber := number_writeNat n hn
      rw [htext] at hnumber
      rw [json_integer, htext, tree_eq_scalar room c u (isSpace_of_isDigit c hc)
        (ne_of_isDigit c '[' hc rfl) (ne_of_isDigit c '\x7b' hc rfl), scalar_digit c u hc, hnumber]
      rfl
  | array room items hitems ih =>
      -- An element is read with nothing left, so it is read in front of anything.
      have hread := elements_written (tree room) Tree.json items
        (fun item hitem => ⟨opens_json room item (hitems item hitem),
          takes_of_local _ (tree_local room) _ _ (ih item hitem)⟩) []
      rw [json_array, List.cons_append, tree_list, hread]
      rfl
  | object room ms hms ih =>
      have hread := members_written (tree room) Tree.json ms
        (fun m hm => takes_of_local _ (tree_local room) _ _ (ih m hm)) []
      rw [json_object, List.cons_append, tree_object, hread]
      rfl

/-- The text of a tree is read as the tree. -/
theorem readAll_json (room : Nat) (t : Tree) (h : Plain room t) :
    readAll (tree room) (String.ofList t.json) = .ok t := by
  rw [readAll, String.toList_ofList, tree_json room t h]
  rfl

end Json

end StreamRoster
