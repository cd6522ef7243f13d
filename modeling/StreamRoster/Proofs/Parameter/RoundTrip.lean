import StreamRoster.Proofs.Json.Records
import StreamRoster.Proofs.Json.Written
import StreamRoster.Proofs.Number.NumberText
import StreamRoster.Proofs.Time.TimestampText

/-!
# Values and Actions Read Back

Values, parameter values and actions are read back as they were written. What
has to be assumed concerns the floats only, and is what their text says: a float
is read by a reader that may miss it in the last place (`Double.ReadsBack`).
Timestamps are those that can be read at all, and they come through unchanged
(`Timestamp.read_text`).

A float that is not finite has no text, and `null` is written for it. Then
nothing is read, whatever the other floats are. This is why it matters that the
text of every float is well formed (`skip_writeDouble`): the members of the object
are then the ones that were written, and the one with `null` is refused however
the others read.

An action leaves out what it does not have. A place that stays free in the draft
and one that is filled with nothing come to the same action.

## Main definitions

* `Double.ReadsBack`: A finite float that is read back.
* `At`: What stands in an object under a path of keys.
* `Value.floats`, `ParameterValue.floats`, `Action.floats`: The floats and where
  they are written.

## Theorems

* `signed64_written`, `unsigned64_written`: Written integers are read back.
* `Value.read_json`, `ParameterValue.read_json`, `Action.read_json`: Written values
  and actions are read back.
* `Value.null_json`, `ParameterValue.null_json`, `Action.null_json`: What is not
  finite becomes `null` and is not read.
* `values_read_back`: All of this together.
-/

namespace StreamRoster

open Json

variable {α σ : Type}

namespace Json

/-! ### Whole texts -/

/-- A text that is passed over whole is read whole or not at all. -/
theorem readAll_iff_of_skip (read : Reader α) (h : OneValue read) (s : List Char)
    (hs : skip s = .ok ((), [])) (a : α) :
    readAll read (String.ofList s) = .ok a ↔ read s = .ok (a, []) := by
  refine ⟨fun hread => ?_, readAll_of_read read s a⟩
  -- The reader stops where passing over stops, and that is the end.
  rcases (readAll_eq_ok_iff read _ a).mp hread with ⟨rest, hread, _⟩
  rw [String.toList_ofList] at hread
  have hsame := (h.passes s a rest hread).symm.trans hs
  rcases Prod.mk.inj (Except.ok.inj hsame) with ⟨_, rfl⟩
  exact hread

theorem skip_writeText (s : String) : skip (writeText s) = .ok ((), []) :=
  oneValue_anyText.passes _ s [] (anyText_written s)

theorem skip_writeObject (ms : List (String × List Char)) (h : ∀ m ∈ ms, skip m.2 = .ok ((), [])) :
    skip (writeObject ms) = .ok ((), []) :=
  skip_of_object _ _ [] (object_written ms h)

/-- A text that is passed over whole is not read if nothing is made of it. -/
theorem readAll_ne_ok (read : Reader α) (h : OneValue read) (s : List Char)
    (hs : skip s = .ok ((), [])) (hnone : take? read s = none) (a : α) :
    readAll read (String.ofList s) ≠ .ok a := by
  rw [ne_eq, readAll_iff_of_skip read h s hs, ← take?_eq_some_iff, hnone]
  exact nofun

/-- What stands in an object under a key, in the object there under the next key,
    and so on. -/
def At : List String → List Char → List Char → Prop
  | [], s, value => s = value
  | key :: path, s, value =>
    ∃ ms m, ObjectText (String.ofList s) ms ∧ m ∈ ms ∧ m.key = some key ∧ At path m.value value

/-- What stands under a key of a written object is what was written there. -/
theorem at_written (key : String) (path : List String) (ms : List (String × List Char))
    (hms : ∀ m ∈ ms, skip m.2 = .ok ((), [])) (s value : List Char) (hm : (key, s) ∈ ms)
    (hs : At path s value) : At (key :: path) (writeObject ms) value := by
  exact ⟨_, ⟨some key, s⟩, objectText_written ms hms, List.mem_map.mpr ⟨(key, s), hm, rfl⟩, rfl, hs⟩

/-! ### Integers -/

/-- A written natural is read as a number, whatever is expected of it. -/
theorem anyNumber_writeNat (expected : String) (n : Nat) (hn : n < Number.limit) :
    anyNumber expected (writeNat n) = .ok (.integer n, []) := by
  have hread := number_writeNat n hn
  rcases exists_digit_writeNat n with ⟨c, u, htext, hc⟩
  have hcons := skipSpace_cons c u (isSpace_of_isDigit c hc)
  rw [htext] at hread ⊢
  rw [anyNumber, hcons]
  split
  · -- A digit is no minus sign.
    rename_i heq
    exact absurd (List.cons.inj heq).1 (ne_of_isDigit c '-' hc rfl)
  · rename_i heq
    rcases List.cons.inj heq with ⟨rfl, rfl⟩
    rw [if_pos hc, hread]
  · rename_i heq
    cases heq

/-- So is one behind a minus sign. With zero that would be a float. -/
theorem anyNumber_minus (expected : String) (n : Nat) (hn : n < Number.limit) :
    anyNumber expected ('-' :: writeNat n) = .ok (Number.ofDigits true n, []) :=
  number_digits true n hn

/-- A number within the range is read as an integer of the range. -/
theorem integer_of_anyNumber (low high : Int) (expected : String) (s rest : List Char) (n : Int)
    (h : anyNumber expected s = .ok (.integer n, rest)) (hlow : low ≤ n) (hhigh : n ≤ high) :
    integer low high expected s = .ok (n, rest) := by
  have hwithin : (Number.integer n).within low high expected = .ok n := if_pos ⟨hlow, hhigh⟩
  rw [integer, h, ok_bind]
  simp only [hwithin]

/-- A natural of 64 bits is read back as it was written. -/
theorem unsigned64_written (n : UInt64) : unsigned64 (writeNat n.toNat) = .ok (n.toNat, []) := by
  have hlt := UInt64.toNat_lt n
  have hread := integer_of_anyNumber 0 (0x10000000000000000 - 1) "u64" _ [] n.toNat
    (anyNumber_writeNat "u64" n.toNat hlt) (by omega) (by omega)
  rw [unsigned64, hread]
  rfl

/-- An integer of 64 bits is read back as it was written, the least one too. -/
theorem signed64_written (n : Int64) : signed64 (toString n.toInt).toList = .ok (n.toInt, []) := by
  have hlow := Int64.le_toInt n
  have hhigh := Int64.toInt_lt n
  cases hn : n.toInt with
  | ofNat m =>
      have htext : (toString (Int.ofNat m)).toList = writeNat m := Nat.toList_repr
      rw [hn, Int.ofNat_eq_natCast] at hhigh
      rw [htext, Int.ofNat_eq_natCast]
      exact integer_of_anyNumber _ _ _ _ _ _
        (anyNumber_writeNat "i64" m (by rw [Number.limit]; omega)) (by omega) (by omega)
  | negSucc m =>
      have htext : (toString (Int.negSucc m)).toList = '-' :: writeNat (m + 1) := by
        have hminus : toString (Int.negSucc m) = "-" ++ Nat.repr (m + 1) := rfl
        rw [hminus, String.toList_append, Nat.toList_repr]
        rfl
      rw [hn] at hlow
      -- The range reaches one further below zero than above.
      have hsmall : m + 1 ≤ 0x8000000000000000 := by omega
      have hread := anyNumber_minus "i64" (m + 1) (by rw [Number.limit]; omega)
      have hvalue : Number.ofDigits true (m + 1) = .integer (Int.negSucc m) := by
        have hrange : (decide (m + 1 = 0) || decide (0x8000000000000000 < m + 1)) = false := by
          rw [Bool.or_eq_false_iff, decide_eq_false_iff_not, decide_eq_false_iff_not]
          omega
        rw [Number.ofDigits, hrange]
        rfl
      rw [hvalue] at hread
      rw [htext]
      exact integer_of_anyNumber _ _ _ _ _ _ hread (by omega) (by omega)

end Json

/-! ### Timestamps -/

namespace Timestamp

/-- A timestamp that can be read at all is read back from the text that is written
    for it. -/
theorem readJson_json (t : Timestamp) (h : t.isValid = true) : readJson t.json = .ok (t, []) := by
  have htext : ofText (String.ofList (t.text wireOffset)) = .ok t := by
    rw [ofText, String.toList_ofList, read_text t h]
  rw [readJson, json, text_written, ok_bind]
  simp only [htext]

theorem nullable_json (o : Option Timestamp) (h : ∀ t ∈ o, t.isValid = true) :
    nullable readJson (writeNullable json o) = .ok (o, []) :=
  nullable_written readJson json o fun t ht => ⟨notNull_writeText _, readJson_json t (h t ht)⟩

end Timestamp

/-! ### Values -/

/-- A finite float whose text is read back as that float. -/
def Double.ReadsBack (x : Double) : Prop :=
  x.isFinite = true ∧ readAll double (String.ofList (writeDouble x)) = .ok x

/-- The text of a float that is read back whole is read with nothing left. -/
theorem Double.double_writeDouble (x : Double) (h : x.ReadsBack) :
    double (writeDouble x) = .ok (x, []) :=
  (readAll_iff_of_skip double oneValue_double _ (skip_writeDouble x) x).mp h.2

/-- There is no text for a float that is not finite. -/
theorem Double.writeDouble_of_not_finite (x : Double) (h : x.isFinite = false) :
    writeDouble x = "null".toList := by
  cases x with
  | nan => rfl
  | infinite negative => cases negative <;> rfl
  | finite negative significand exponent => cases h

namespace Value

/-- The floats in a value, each with the keys under which it is written. -/
def floats : Value → List (List String × Double)
  | .float x => [(["value"], x)]
  | _ => []

/-- The timestamps in a value. -/
def timestamps : Value → List Timestamp
  | .timestamp t => [t]
  | _ => []

/-- The content of a value is read back as content of its type. -/
theorem readContent_json (v : Value) (hfloats : ∀ p ∈ v.floats, p.2.ReadsBack)
    (htimes : ∀ t ∈ v.timestamps, t.isValid = true) :
    readContent v.type v.contentJson = .ok (v, []) := by
  cases v with
  | float x =>
      have hread := x.double_writeDouble (hfloats _ List.mem_cons_self)
      simp only [type, contentJson, readContent, hread, ok_bind]
  | sint64 n =>
      simp only [type, contentJson, readContent, signed64_written, ok_bind, Int64.ofInt_toInt]
  | uint64 n =>
      simp only [type, contentJson, readContent, unsigned64_written, ok_bind, UInt64.ofNat_toNat]
  | boolean b => simp only [type, contentJson, readContent, boolean_written, ok_bind]
  | text s => simp only [type, contentJson, readContent, anyText_written, ok_bind]
  | timestamp t =>
      have hread := t.readJson_json (htimes t List.mem_cons_self)
      simp only [type, contentJson, readContent, hread, ok_bind]

/-- Whatever it is, the content of a value is passed over. -/
theorem skip_contentJson (v : Value) : skip v.contentJson = .ok ((), []) := by
  cases v with
  | float x => exact skip_writeDouble x
  | text s => exact skip_writeText s
  | timestamp t => exact skip_writeText _
  | sint64 n =>
      have hread := readContent_json (.sint64 n) nofun nofun
      exact (readsTree_content .sint64 0).oneValue.passes _ _ [] hread
  | uint64 n =>
      have hread := readContent_json (.uint64 n) nofun nofun
      exact (readsTree_content .uint64 0).oneValue.passes _ _ [] hread
  | boolean b =>
      have hread := readContent_json (.boolean b) nofun nofun
      exact (readsTree_content .boolean 0).oneValue.passes _ _ [] hread

/-- The name of a type is the name of that type only. -/
theorem pickVariant_name (type : ValueType) : pickVariant ValueType.names type.name = .ok type := by
  cases type <;> rfl

/-- The members a value is written with. -/
def members (v : Value) : List (String × List Char) :=
  [("type", writeText v.type.name), ("value", v.contentJson)]

theorem skip_members (v : Value) : ∀ m ∈ v.members, skip m.2 = .ok ((), []) :=
  List.forall_mem_cons.mpr ⟨skip_writeText _, List.forall_mem_singleton.mpr v.skip_contentJson⟩

/-- A written value is an object with these two members. -/
theorem object_json (v : Value) :
    Object v.json [⟨some "type", writeText v.type.name⟩, ⟨some "value", v.contentJson⟩] [] :=
  object_written _ v.skip_members

/-- A written value is read as what its content is. -/
theorem take?_json (room : Nat) (v : Value) :
    take? (read (room + 1)) v.json = take? (readContent v.type) v.contentJson := by
  -- The type is found in front of the content, and says how that is to be read.
  have htype : take? (variant ValueType.names room) (writeText v.type.name) = some v.type :=
    (take?_eq_some_iff _ _ _).mpr (variant_written _ room _ _ (pickVariant_name v.type))
  -- An object of these two members is its two texts.
  have hparts : ofBlock? (room + 1)
      (.object [⟨some "type", writeText v.type.name⟩, ⟨some "value", v.contentJson⟩]) =
      ofTexts? room (writeText v.type.name) v.contentJson := rfl
  rw [take?_of_block _ _ (readsBlock (room + 1)) _ (.object _) v.object_json, hparts, ofTexts?,
    htype, Option.bind_some]

/-- A written value is passed over whole, whatever its floats are. -/
theorem skip_json (v : Value) : skip v.json = .ok ((), []) :=
  skip_writeObject _ v.skip_members

/-- A float that is not finite is written as `null`, and that is not read. -/
theorem null_json (v : Value) (p : List String × Double) (hp : p ∈ v.floats)
    (hfinite : p.2.isFinite = false) :
    At p.1 v.json "null".toList ∧ ∀ room, take? (read room) v.json = none := by
  cases v with
  | sint64 n | uint64 n | boolean b | text s | timestamp t => exact absurd hp List.not_mem_nil
  | float x =>
      rcases List.mem_singleton.mp hp with rfl
      have hnull := x.writeDouble_of_not_finite hfinite
      refine ⟨?_, fun room => ?_⟩
      · exact at_written "value" [] _ (Value.float x).skip_members _ _
          (List.mem_cons_of_mem _ List.mem_cons_self) hnull
      · cases room with
        | zero => rfl
        | succ room =>
            -- The members are the written ones, and `null` is no float.
            have hcontent : (Value.float x).contentJson = "null".toList := hnull
            rw [take?_json, hcontent]
            rfl

/-- A value is read back if its float and its timestamp are. -/
theorem read_json (room : Nat) (v : Value) (hfloats : ∀ p ∈ v.floats, p.2.ReadsBack)
    (htimes : ∀ t ∈ v.timestamps, t.isValid = true) : read (room + 1) v.json = .ok (v, []) := by
  rw [← take?_eq_some_iff, take?_json, take?_eq_some_iff]
  exact v.readContent_json hfloats htimes

end Value

/-! ### Parameter values -/

namespace ParameterValue

/-- The floats in a parameter value. -/
def floats (v : ParameterValue) : List (List String × Double) :=
  (v.raw.floats.map fun p => ("rawValue" :: p.1, p.2)) ++
    v.engineering.floats.map fun p => ("engValue" :: p.1, p.2)

/-- The timestamps in a parameter value. -/
def timestamps (v : ParameterValue) : List Timestamp :=
  v.raw.timestamps ++ v.engineering.timestamps ++ v.generationTime.toList

/-- A float of the raw value is one of the whole, with one key more in front. -/
theorem mem_floats_raw (v : ParameterValue) (p : List String × Double) (hp : p ∈ v.raw.floats) :
    ("rawValue" :: p.1, p.2) ∈ v.floats :=
  List.mem_append_left _ (List.mem_map.mpr ⟨p, hp, rfl⟩)

theorem mem_floats_engineering (v : ParameterValue) (p : List String × Double)
    (hp : p ∈ v.engineering.floats) : ("engValue" :: p.1, p.2) ∈ v.floats :=
  List.mem_append_right _ (List.mem_map.mpr ⟨p, hp, rfl⟩)

/-- A parameter value is read back place by place. -/
theorem read_json (room : Nat) (v : ParameterValue) (hfloats : ∀ p ∈ v.floats, p.2.ReadsBack)
    (htimes : ∀ t ∈ v.timestamps, t.isValid = true) : read (room + 2) v.json = .ok (v, []) := by
  have hraw := v.raw.read_json room
    (fun p hp => hfloats ("rawValue" :: p.1, p.2) (v.mem_floats_raw p hp))
    (fun t ht => htimes t (List.mem_append_left _ (List.mem_append_left _ ht)))
  have hengineering := v.engineering.read_json room
    (fun p hp => hfloats ("engValue" :: p.1, p.2) (v.mem_floats_engineering p hp))
    (fun t ht => htimes t (List.mem_append_left _ (List.mem_append_right _ ht)))
  have htime := Timestamp.nullable_json v.generationTime fun t ht =>
    htimes t (List.mem_append_right _ (Option.mem_toList.mpr ht))
  -- The draft is filled member by member, and then nothing is missing.
  refine Record.read_filled record lawful.oneValue _ _
    ⟨some v.raw, some v.engineering, some v.generationTime⟩ v ?_ rfl
  refine Record.Filled.set slots _ _ _ rawSlot v.raw _ _ rfl rfl hraw ?_
  refine Record.Filled.set slots _ _ _ engineeringSlot v.engineering _ _ rfl rfl hengineering ?_
  refine Record.Filled.set slots _ _ _ timeSlot v.generationTime _ _ rfl rfl htime ?_
  exact Record.Filled.nil _

/-- The members a parameter value is written with. -/
def members (v : ParameterValue) : List (String × List Char) :=
  [("rawValue", v.raw.json), ("engValue", v.engineering.json),
    ("generationTime", writeNullable Timestamp.json v.generationTime)]

theorem skip_members (v : ParameterValue) : ∀ m ∈ v.members, skip m.2 = .ok ((), []) := by
  have htime : skip (writeNullable Timestamp.json v.generationTime) = .ok ((), []) := by
    cases v.generationTime with
    | none => rfl
    | some t => exact skip_writeText _
  exact List.forall_mem_cons.mpr ⟨v.raw.skip_json, List.forall_mem_cons.mpr
    ⟨v.engineering.skip_json, List.forall_mem_singleton.mpr htime⟩⟩

/-- A float that is not finite, in either of the two values, is written as `null`,
    and then the parameter value is not read. -/
theorem null_json (room : Nat) (v : ParameterValue) (p : List String × Double) (hp : p ∈ v.floats)
    (hfinite : p.2.isFinite = false) :
    At p.1 v.json "null".toList ∧ take? (read (room + 1)) v.json = none := by
  rcases List.mem_append.mp hp with hp | hp
  · -- The float is in the raw value, or in the engineering value.
    rcases List.mem_map.mp hp with ⟨q, hq, rfl⟩
    rcases v.raw.null_json q hq hfinite with ⟨hat, hnone⟩
    exact ⟨at_written "rawValue" q.1 _ v.skip_members _ _ List.mem_cons_self hat,
      Record.take?_eq_none record slots places rfl room _ v.skip_members rawSlot
        List.mem_cons_self _ List.mem_cons_self (hnone room)⟩
  · rcases List.mem_map.mp hp with ⟨q, hq, rfl⟩
    rcases v.engineering.null_json q hq hfinite with ⟨hat, hnone⟩
    have hm : ("engValue", v.engineering.json) ∈ v.members :=
      List.mem_cons_of_mem _ List.mem_cons_self
    exact ⟨at_written "engValue" q.1 _ v.skip_members _ _ hm hat,
      Record.take?_eq_none record slots places rfl room _ v.skip_members engineeringSlot
        (List.mem_cons_of_mem _ List.mem_cons_self) _ hm (hnone room)⟩

theorem skip_json (v : ParameterValue) : skip v.json = .ok ((), []) :=
  skip_writeObject _ v.skip_members

end ParameterValue

/-! ### Actions -/

namespace Action

/-- The floats in an action. -/
def floats (a : Action) : List (List String × Double) :=
  [(["clientX"], a.clientX), (["clientY"], a.clientY)]

theorem pickVariant_name (kind : ActionType) :
    pickVariant ActionType.names kind.name = .ok kind := by
  cases kind <;> rfl

/-- A target that is left out leaves its place free, which says the same. -/
theorem filled_target (room : Nat) (kind : ActionType) (target : Option String) :
    Record.Filled record.fields room ⟨some kind, none, none, none, none, none⟩
      (optionalMember "target" writeText target)
      ⟨some kind, target.map some, none, none, none, none⟩ := by
  cases target with
  | none => exact Record.Filled.nil _
  | some s =>
      exact Record.Filled.set slots room _ _ targetSlot (some s) _ _ rfl rfl
        (nullableText_written (some s)) (Record.Filled.nil _)

/-- So does a date. -/
theorem filled_date (room : Nat) (kind : ActionType) (target : Option (Option String))
    (x y : Double) (grabbing : Bool) (date : Option Timestamp)
    (htimes : ∀ t ∈ date, t.isValid = true) :
    Record.Filled record.fields room ⟨some kind, target, some x, some y, some grabbing, none⟩
      (optionalMember "date" Timestamp.json date)
      ⟨some kind, target, some x, some y, some grabbing, date.map some⟩ := by
  cases date with
  | none => exact Record.Filled.nil _
  | some t =>
      exact Record.Filled.set slots room _ _ dateSlot (some t) _ _ rfl rfl
        (Timestamp.nullable_json (some t) htimes) (Record.Filled.nil _)

/-- An action is read back place by place. Two of its places may stay free. -/
theorem read_json (room : Nat) (a : Action) (hfloats : ∀ p ∈ a.floats, p.2.ReadsBack)
    (htimes : ∀ t ∈ a.date, t.isValid = true) : read (room + 1) a.json = .ok (a, []) := by
  have hx := a.clientX.double_writeDouble (hfloats _ List.mem_cons_self)
  have hy := a.clientY.double_writeDouble (hfloats _ (List.mem_cons_of_mem _ List.mem_cons_self))
  have hkind : ActionType.read room a.kind.json = .ok (a.kind, []) :=
    variant_written _ room _ _ (pickVariant_name a.kind)
  refine Record.read_filled record lawful.oneValue _ _
    ⟨some a.kind, a.target.map some, some a.clientX, some a.clientY, some a.grabbing,
      a.date.map some⟩ a ?_ ?_
  · refine Record.Filled.append _ _ _ _ _ _ _ ?_ (filled_date room a.kind _ _ _ _ a.date htimes)
    refine Record.Filled.append _ _ _ _ _ _ _
      (Record.Filled.append _ _ _ _ _ _ _ ?_ (filled_target room a.kind a.target)) ?_
    · exact Record.Filled.set slots _ _ _ kindSlot a.kind _ _ rfl rfl hkind (Record.Filled.nil _)
    · refine Record.Filled.set slots _ _ _ xSlot a.clientX _ _ rfl rfl hx ?_
      refine Record.Filled.set slots _ _ _ ySlot a.clientY _ _ rfl rfl hy ?_
      refine Record.Filled.set slots _ _ _ grabbingSlot a.grabbing _ _ rfl rfl
        (boolean_written _) ?_
      exact Record.Filled.nil _
  · -- A free place and one that holds nothing finish alike.
    rcases a with ⟨kind, target, x, y, grabbing, date⟩
    cases target <;> cases date <;> rfl

/-- The members an action is written with. -/
def members (a : Action) : List (String × List Char) :=
  [("type", a.kind.json)] ++ optionalMember "target" writeText a.target
    ++ [("clientX", writeDouble a.clientX), ("clientY", writeDouble a.clientY),
      ("grabbing", writeBool a.grabbing)] ++ optionalMember "date" Timestamp.json a.date

/-- A member that may be left out is passed over if it is there. -/
theorem skip_optionalMember {β : Type} (key : String) (write : β → List Char) (o : Option β)
    (h : ∀ b ∈ o, skip (write b) = .ok ((), [])) :
    ∀ m ∈ optionalMember key write o, skip m.2 = .ok ((), []) := by
  cases o with
  | none => exact nofun
  | some b => exact List.forall_mem_singleton.mpr (h b rfl)

theorem skip_members (a : Action) : ∀ m ∈ a.members, skip m.2 = .ok ((), []) := by
  -- Three members are always there, and two only if there is something to write.
  have hgrabbing := oneValue_boolean.passes _ _ [] (boolean_written a.grabbing)
  have hplace : ∀ m ∈ [("clientX", writeDouble a.clientX), ("clientY", writeDouble a.clientY),
      ("grabbing", writeBool a.grabbing)], skip m.2 = .ok ((), []) :=
    List.forall_mem_cons.mpr ⟨skip_writeDouble _, List.forall_mem_cons.mpr
      ⟨skip_writeDouble _, List.forall_mem_singleton.mpr hgrabbing⟩⟩
  have htarget := skip_optionalMember "target" writeText a.target fun s _ => skip_writeText s
  have hdate := skip_optionalMember "date" Timestamp.json a.date fun t _ => skip_writeText _
  simp only [members, List.forall_mem_append]
  exact ⟨⟨⟨List.forall_mem_singleton.mpr (skip_writeText _), htarget⟩, hplace⟩, hdate⟩

theorem skip_json (a : Action) : skip a.json = .ok ((), []) :=
  skip_writeObject _ a.skip_members

/-- A place that is not finite is written as `null`, and then the action is not
    read. -/
theorem null_json (room : Nat) (a : Action) (p : List String × Double) (hp : p ∈ a.floats)
    (hfinite : p.2.isFinite = false) :
    At p.1 a.json "null".toList ∧ take? (read (room + 1)) a.json = none := by
  have hnull := p.2.writeDouble_of_not_finite hfinite
  simp only [floats, List.mem_cons, List.not_mem_nil, or_false] at hp
  rcases hp with rfl | rfl
  · have hm : ("clientX", writeDouble a.clientX) ∈ a.members := by simp [members]
    exact ⟨at_written "clientX" [] _ a.skip_members _ _ hm hnull,
      Record.take?_eq_none record slots places rfl room _ a.skip_members xSlot (by simp [slots]) _
        hm (congrArg (take? double) hnull)⟩
  · have hm : ("clientY", writeDouble a.clientY) ∈ a.members := by simp [members]
    exact ⟨at_written "clientY" [] _ a.skip_members _ _ hm hnull,
      Record.take?_eq_none record slots places rfl room _ a.skip_members ySlot (by simp [slots]) _
        hm (congrArg (take? double) hnull)⟩

end Action

/-- Values, parameter values and actions are read back as they were written, if
    their floats are finite and are read back themselves. A float that is not
    finite is written as `null`, and then nothing is read. -/
theorem values_read_back :
    (∀ t : Timestamp, (∃ s, Timestamp.read s = .ok t) ↔ t.isValid = true) ∧
    (∀ v : Value, (∀ p ∈ v.floats, p.2.ReadsBack) →
      (∀ t ∈ v.timestamps, ∃ s, Timestamp.read s = .ok t) →
      readAll (Value.read topRoom) (String.ofList v.json) = .ok v) ∧
    (∀ v : ParameterValue, (∀ p ∈ v.floats, p.2.ReadsBack) →
      (∀ t ∈ v.timestamps, ∃ s, Timestamp.read s = .ok t) →
      readAll (ParameterValue.read topRoom) (String.ofList v.json) = .ok v) ∧
    (∀ a : Action, (∀ p ∈ a.floats, p.2.ReadsBack) →
      (∀ t ∈ a.date, ∃ s, Timestamp.read s = .ok t) →
      readAll (Action.read topRoom) (String.ofList a.json) = .ok a) ∧
    (∀ v : Value, ∀ p ∈ v.floats, p.2.isFinite = false →
      At p.1 v.json "null".toList ∧
        ∀ w, readAll (Value.read topRoom) (String.ofList v.json) ≠ .ok w) ∧
    (∀ v : ParameterValue, ∀ p ∈ v.floats, p.2.isFinite = false →
      At p.1 v.json "null".toList ∧
        ∀ w, readAll (ParameterValue.read topRoom) (String.ofList v.json) ≠ .ok w) ∧
    ∀ a : Action, ∀ p ∈ a.floats, p.2.isFinite = false →
      At p.1 a.json "null".toList ∧
        ∀ b, readAll (Action.read topRoom) (String.ofList a.json) ≠ .ok b := by
  have hvalid := fun t (h : ∃ s, Timestamp.read s = .ok t) => (Timestamp.exists_read_iff t).mp h
  refine ⟨Timestamp.exists_read_iff, fun v hfloats htimes => ?_, fun v hfloats htimes => ?_,
    fun a hfloats htimes => ?_, fun v p hp hfinite => ?_, fun v p hp hfinite => ?_,
    fun a p hp hfinite => ?_⟩
  · exact readAll_of_read _ _ _ (v.read_json 126 hfloats fun t ht => hvalid t (htimes t ht))
  -- In a parameter the values stand one level deeper.
  · exact readAll_of_read _ _ _ (v.read_json 125 hfloats fun t ht => hvalid t (htimes t ht))
  · exact readAll_of_read _ _ _ (a.read_json 126 hfloats fun t ht => hvalid t (htimes t ht))
  · rcases v.null_json p hp hfinite with ⟨hat, hnone⟩
    exact ⟨hat, readAll_ne_ok _ (Value.oneValue topRoom) _ v.skip_json (hnone topRoom)⟩
  · rcases v.null_json 126 p hp hfinite with ⟨hat, hnone⟩
    have hone := (ParameterValue.record.readsBlock ParameterValue.lawful.oneValue topRoom).oneValue
    exact ⟨hat, readAll_ne_ok _ hone _ v.skip_json hnone⟩
  · rcases a.null_json 126 p hp hfinite with ⟨hat, hnone⟩
    have hone := (Action.record.readsBlock Action.lawful.oneValue topRoom).oneValue
    exact ⟨hat, readAll_ne_ok _ hone _ a.skip_json hnone⟩

/-- One and a half. -/
def oneAndAHalf : Double := .finite false 0x18000000000000 (-52)

/-- Half a second into the leap second that ends the year before year zero. -/
def ancientLeapSecond : Timestamp := ⟨⟨-1, 12, 31⟩, 23, 59, 60, 500000000⟩

/-- A float, a leap second in a negative year, and a place that is no number. -/
theorem values_read_back_of_leap_second :
    readAll (ParameterValue.read topRoom) (String.ofList
        (ParameterValue.json ⟨.float oneAndAHalf, .timestamp ancientLeapSecond, none⟩)) =
      .ok ⟨.float oneAndAHalf, .timestamp ancientLeapSecond, none⟩ ∧
    ∀ b, readAll (Action.read topRoom)
      (String.ofList (Action.atPlace .click oneAndAHalf .nan).json) ≠ .ok b := by
  have hfloat : oneAndAHalf.ReadsBack := ⟨rfl, rfl⟩
  have htime : ∃ s, Timestamp.read s = .ok ancientLeapSecond := ⟨ancientLeapSecond.text ['Z'], rfl⟩
  rcases values_read_back with ⟨_, _, hvalue, _, _, _, hnull⟩
  have hplace : (["clientY"], Double.nan) ∈ (Action.atPlace .click oneAndAHalf .nan).floats :=
    List.mem_cons_of_mem _ List.mem_cons_self
  refine ⟨hvalue _ ?_ ?_, (hnull _ _ hplace rfl).2⟩
  · exact List.forall_mem_singleton.mpr hfloat
  · exact List.forall_mem_singleton.mpr htime

end StreamRoster
