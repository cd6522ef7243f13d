import Mathlib.Tactic.SplitIfs
import StreamRoster.Text.Utf8

/-!
# Texts and Their Bytes

A text is known by its bytes, and bytes are in order as the texts are.

That the bytes of a text are read as the text is the library's own theorem. The
order is not in the library. It rests on how UTF-8 was laid out: the first byte
of a character says how long it is, and longer characters have greater first
bytes, so characters of different lengths are told apart at once. Behind the
first byte stand the digits of the code point to base 64, the first digit being
part of that byte, so characters of one length compare digit by digit as their
code points do. `Encodes` writes the four lengths down with numbers for bytes,
and `compare_of_encodes` is the argument.

No character has bytes that another one starts with, for that would leave the
comparison to what stands behind. So the first two characters that differ decide
the order of two texts on both sides (`compare_utf8`).

The four lengths also show that ASCII is left alone: a character of ASCII is its
own byte, and the bytes of any other are all beyond ASCII. Whoever looks for a
character of ASCII may look for its byte.

## Main definitions

* `Text.codes`: The code points of a text.
* `Text.Encodes`: The bytes of a code point.

## Theorems

* `Text.ofUtf8?_utf8`: The bytes of a text are read as the text.
* `Text.compare_append_left`: What two lists have in front does not matter.
* `Text.compare_numbers`: Lists compare as the numbers of their elements do.
* `Text.encodes_utf8EncodeChar`: The bytes of a character are those of its code
  point.
* `Text.utf8EncodeChar_ascii`, `Text.utf8EncodeChar_beyond`: The bytes of a
  character are in ASCII exactly if it is.
* `Text.compare_of_encodes`: The bytes of two code points decide in their order.
* `Text.compare_utf8`: Bytes order texts as code points do.
-/

namespace StreamRoster

namespace Text

open Std

theorem utf8_append (s t : List Char) : utf8 (s ++ t) = utf8 s ++ utf8 t :=
  List.flatMap_append

theorem utf8_cons (c : Char) (s : List Char) :
    utf8 (c :: s) = String.utf8EncodeChar c ++ utf8 s :=
  List.flatMap_cons

/-- The bytes of a text are read as the text. -/
theorem ofUtf8?_utf8 (s : List Char) : ofUtf8? (utf8 s) = some s := by
  have hdecode : (utf8 s).toByteArray.utf8Decode? = some s.toArray :=
    List.utf8Decode?_utf8Encode
  rw [ofUtf8?, hdecode, Option.map_some]

theorem utf8_toList (a : String) : utf8 a.toList = a.toUTF8.data.toList := by
  have hbytes : (utf8 a.toList).toByteArray = a.toUTF8 := String.utf8Encode_toList
  rw [← hbytes, List.toList_data_toByteArray]

/-! ### Comparing lists -/

/-- What two lists have in front of them does not matter. -/
theorem compare_append_left {α : Type} [Ord α] [ReflOrd α] (front s t : List α) :
    compare (front ++ s) (front ++ t) = compare s t := by
  induction front with
  | nil => rfl
  | cons a front ih =>
      rw [List.cons_append, List.cons_append, List.compare_cons_cons, compare_self,
        Ordering.eq_then, ih]

/-- Lists whose elements are in the order of their numbers compare as the lists
    of the numbers do. -/
theorem compare_numbers {α : Type} [Ord α] [OrientedOrd α] (number : α → Nat)
    (hinj : ∀ a b, number a = number b → a = b)
    (hlt : ∀ a b, number a < number b → compare a b = .lt) (s t : List α) :
    compare s t = compare (s.map number) (t.map number) := by
  have helement : ∀ a b, compare a b = compare (number a) (number b) := by
    intro a b
    rcases Nat.lt_trichotomy (number a) (number b) with h | h | h
    · rw [hlt a b h, Nat.compare_eq_lt.mpr h]
    · rw [hinj a b h, compare_self, compare_self]
    · rw [OrientedCmp.gt_of_lt (hlt b a h), Nat.compare_eq_gt.mpr h]
  induction s generalizing t with
  | nil => cases t <;> rfl
  | cons a s ih =>
      cases t with
      | nil => rfl
      | cons b t =>
          rw [List.map_cons, List.map_cons, List.compare_cons_cons, List.compare_cons_cons,
            helement, ih]

theorem compare_cons_eq_lt_iff (m n : Nat) (s t : List Nat) :
    compare (m :: s) (n :: t) = .lt ↔ m < n ∨ m = n ∧ compare s t = .lt := by
  rw [List.compare_cons_cons, Ordering.then_eq_lt, Nat.compare_eq_lt, Nat.compare_eq_eq]

/-! ### The bytes of a character -/

/-- The code points of a text. -/
def codes (s : List Char) : List Nat := s.map Char.toNat

/-- The bytes of a code point, as numbers, by the length of its character. -/
inductive Encodes : Nat → List Nat → Prop where
  | one (v : Nat) (hbelow : v < 0x80) : Encodes v [v]
  | two (v : Nat) (habove : 0x80 ≤ v) (hbelow : v < 0x800) :
      Encodes v [v / 0x40 + 0xc0, v % 0x40 + 0x80]
  | three (v : Nat) (habove : 0x800 ≤ v) (hbelow : v < 0x10000) :
      Encodes v [v / 0x1000 + 0xe0, v / 0x40 % 0x40 + 0x80, v % 0x40 + 0x80]
  | four (v : Nat) (habove : 0x10000 ≤ v) (hbelow : v < 0x110000) :
      Encodes v [v / 0x40000 + 0xf0, v / 0x1000 % 0x40 + 0x80, v / 0x40 % 0x40 + 0x80,
        v % 0x40 + 0x80]

theorem encodes_utf8EncodeChar (c : Char) :
    Encodes c.toNat ((String.utf8EncodeChar c).map UInt8.toNat) := by
  have hval : c.val.toNat = c.toNat := rfl
  have hrange : c.toNat < 0x110000 := by
    rcases c.valid with hlow | ⟨_, hhigh⟩ <;> omega
  have hbyte : ∀ n < 256, (UInt8.ofNat n).toNat = n := fun n hn => UInt8.toNat_ofNat_of_lt' hn
  rw [String.utf8EncodeChar, hval]
  split_ifs
  -- The library masks the first digit, which is in range without that.
  all_goals simp (disch := omega) only [List.map_cons, List.map_nil, hbyte, Nat.mod_eq_of_lt]
  · exact Encodes.one _ (by omega)
  · exact Encodes.two _ (by omega) (by omega)
  · exact Encodes.three _ (by omega) (by omega)
  · exact Encodes.four _ (by omega) hrange

theorem utf8EncodeChar_ascii (c : Char) (h : c.toNat < 0x80) :
    String.utf8EncodeChar c = [UInt8.ofNat c.toNat] := by
  have hval : c.val.toNat = c.toNat := rfl
  rw [String.utf8EncodeChar, hval, if_pos (by omega)]

theorem beyond_of_encodes (v : Nat) (bytes : List Nat) (h : Encodes v bytes) (hv : 0x80 ≤ v) :
    ∀ b ∈ bytes, 0x80 ≤ b := by
  cases h with
  | one hbelow => omega
  | two | three | four =>
      simp only [List.forall_mem_cons, List.not_mem_nil, false_imp_iff, implies_true, and_true]
      omega

/-- The bytes of a character beyond ASCII are beyond ASCII themselves. -/
theorem utf8EncodeChar_beyond (c : Char) (h : 0x80 ≤ c.toNat) :
    ∀ b ∈ String.utf8EncodeChar c, 0x80 ≤ b.toNat := fun _ hb =>
  beyond_of_encodes _ _ (encodes_utf8EncodeChar c) h _ (List.mem_map_of_mem hb)

/-! ### The order of texts -/

/-- The bytes of a smaller code point come first, whatever stands behind them. -/
theorem compare_of_encodes (m n : Nat) (x y s t : List Nat) (hm : Encodes m x)
    (hn : Encodes n y) (h : m < n) : compare (x ++ s) (y ++ t) = .lt := by
  -- First bytes of different lengths lie in ranges apart, and in one length the
  -- bytes are the digits of the two numbers.
  cases hm <;> cases hn <;>
    simp only [List.cons_append, List.nil_append, compare_cons_eq_lt_iff] <;> omega

/-- A smaller character in front makes the bytes of a text come first. -/
theorem compare_utf8_cons_of_lt (a b : Char) (s t : List Char) (h : a.toNat < b.toNat) :
    compare (utf8 (a :: s)) (utf8 (b :: t)) = .lt := by
  rw [compare_numbers UInt8.toNat (fun _ _ => UInt8.toNat_inj.mp) (fun _ _ hlt => if_pos hlt),
    utf8_cons, utf8_cons, List.map_append, List.map_append]
  exact compare_of_encodes _ _ _ _ _ _ (encodes_utf8EncodeChar a) (encodes_utf8EncodeChar b) h

theorem compare_nil_utf8_cons (c : Char) (s : List Char) :
    compare [] (utf8 (c :: s)) = .lt := by
  rcases List.exists_cons_of_ne_nil (String.utf8EncodeChar_ne_nil (c := c)) with ⟨b, rest, h⟩
  rw [utf8_cons, h, List.cons_append, List.compare_nil_cons]

/-- Bytes order texts as code points do. -/
theorem compare_utf8 (s t : List Char) :
    compare (utf8 s) (utf8 t) = compare (codes s) (codes t) := by
  induction s generalizing t with
  | nil =>
      cases t with
      | nil => rfl
      | cons b t => exact compare_nil_utf8_cons b t
  | cons a s ih =>
      cases t with
      | nil => exact OrientedCmp.gt_of_lt (compare_nil_utf8_cons a s)
      | cons b t =>
          rw [codes, codes, List.map_cons, List.map_cons, List.compare_cons_cons]
          rcases Nat.lt_trichotomy a.toNat b.toNat with hlt | heq | hgt
          · rw [compare_utf8_cons_of_lt a b s t hlt, Nat.compare_eq_lt.mpr hlt, Ordering.lt_then]
          · rw [heq, compare_self, Ordering.eq_then, Char.toNat_inj.mp heq, utf8_cons, utf8_cons,
              compare_append_left]
            exact ih t
          · rw [OrientedCmp.gt_of_lt (compare_utf8_cons_of_lt b a t s hgt),
              Nat.compare_eq_gt.mpr hgt, Ordering.gt_then]

end Text

end StreamRoster
