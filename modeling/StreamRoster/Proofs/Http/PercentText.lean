import Mathlib.Tactic.SplitIfs
import StreamRoster.Proofs.Text.Bytes
import StreamRoster.Url.Path

/-!
# Escaped Texts

Escaping a text does not change what its escapes resolve to.

Resolving looks ahead: a percent sign is an escape if two digits follow, and it
stands for itself otherwise. So it is not enough to look at one character after
the other. `Escapes` relates bytes to the same bytes with some of them escaped,
where neither a percent sign nor a digit is ever escaped. Behind a percent sign
the two sides then agree about digits, since a byte that is escaped on one side
is no digit on the other, and neither is the sign of its escape
(`decode_escapes`).

A text that has no escapes of its own is resolved to itself, so an escaped
segment of a path says which text it was made from (`decode_encode`). Where
percent signs are escaped too, the text may have escapes of its own: what is
resolved then is the text itself, whatever else is escaped (`decode_encode_self`).

## Main definitions

* `Percent.digit?`: The digit at the front of some bytes.
* `Percent.Escapes`: Bytes with some of them escaped.
* `Percent.Sparing`: A test that spares percent signs and digits.

## Theorems

* `Percent.decode_escapes`: Escaped bytes are resolved like the bytes.
* `Percent.escapes_encode`: An escaped text has escaped bytes.
* `Percent.decode_encode`: Escaping does not change what is resolved.
* `Percent.decode_encode_self`: Escaping with the percent signs is undone.
* `Percent.mem_encode_cases`: The characters of an escaped text.
* `Percent.sparing_path`: What is escaped in a path.
-/

namespace StreamRoster

namespace Text

/-- What holds of all numbers of ASCII as characters holds of all characters of
    ASCII. -/
theorem forall_ascii (p : Char → Prop) (h : ∀ n < 0x80, p (Char.ofNat n)) (c : Char)
    (hc : c.toNat < 0x80) : p c := by
  have hp := h c.toNat hc
  rw [Char.ofNat_toNat] at hp
  exact hp

end Text

namespace Percent

/-! ### Resolving -/

theorem decode_cons_of_ne (b : UInt8) (rest : List UInt8) (hb : b ≠ sign) :
    decode (b :: rest) = b :: decode rest := by
  rcases rest with _ | ⟨h, _ | ⟨l, rest⟩⟩
  · rfl
  · rfl
  · rw [decode, if_neg hb]

/-- The value of the digit at the front of some bytes. -/
def digit? (bytes : List UInt8) : Option Nat := bytes.head?.bind hexValue?

/-- A percent sign without two digits behind it stands for itself. -/
theorem decode_sign (rest : List UInt8) (h : digit? rest = none ∨ digit? rest.tail = none) :
    decode (sign :: rest) = sign :: decode rest := by
  rcases rest with _ | ⟨a, _ | ⟨b, rest⟩⟩
  · rfl
  · rfl
  · rw [decode, if_pos rfl]
    rcases h with ha | hb
    · have ha : hexValue? a = none := ha
      rw [ha]
    · have hb : hexValue? b = none := hb
      rw [hb]
      cases hexValue? a <;> rfl

theorem decode_pair (a b : UInt8) (high low : Nat) (rest : List UInt8)
    (ha : hexValue? a = some high) (hb : hexValue? b = some low) :
    decode (sign :: a :: b :: rest) = UInt8.ofNat (high * 16 + low) :: decode rest := by
  rw [decode, if_pos rfl, ha, hb]

/-- Resolving escapes does not make a text longer. The induction is on the
    bytes as they are resolved. -/
theorem length_decode_le (bytes : List UInt8) : (decode bytes).length ≤ bytes.length := by
  induction bytes using decode.induct with
  | case1 => exact Nat.le_refl 0
  | case2 a b rest high low hb ha ih =>
      rw [decode_pair a b high low rest ha hb]
      simp only [List.length_cons]
      omega
  | case3 a b rest hnone ih =>
      rw [decode, if_pos rfl]
      split
      · rename_i high low ha hb
        exact absurd (hnone high low ha hb) not_false
      · exact Nat.succ_le_succ ih
  | case4 c a b rest hc ih =>
      rw [decode_cons_of_ne c _ hc]
      exact Nat.succ_le_succ ih
  | case5 c rest hshort ih =>
      rcases rest with _ | ⟨a, _ | ⟨b, rest⟩⟩
      · exact Nat.le_refl 1
      · exact Nat.le_refl 2
      · exact absurd (hshort a b rest rfl) not_false

/-- The byte of a hexadecimal digit. -/
def hexByte (n : Nat) : UInt8 := UInt8.ofNat (hexDigit n).toNat

theorem utf8_hexDigit : ∀ n < 16, Text.utf8 [hexDigit n] = [hexByte n] := by
  decide

theorem hexValue?_hexByte : ∀ n < 16, hexValue? (hexByte n) = some n := by
  decide

theorem utf8_escape (b : UInt8) :
    Text.utf8 (escape b) = [sign, hexByte (b.toNat / 16), hexByte (b.toNat % 16)] := by
  have hlt := b.toNat_lt
  have hhigh := utf8_hexDigit (b.toNat / 16) (by omega)
  have hlow := utf8_hexDigit (b.toNat % 16) (by omega)
  have hsign : Text.utf8 ['%'] = [sign] := by decide
  have happend : Text.utf8 (escape b) = Text.utf8 ['%'] ++ (Text.utf8 [hexDigit (b.toNat / 16)] ++
      Text.utf8 [hexDigit (b.toNat % 16)]) := by
    simp only [Text.utf8, escape, List.flatMap_cons, List.flatMap_nil, List.append_nil]
  rw [happend, hsign, hhigh, hlow]
  rfl

/-- An escape is resolved to its byte. -/
theorem decode_escape (b : UInt8) (rest : List UInt8) :
    decode (Text.utf8 (escape b) ++ rest) = b :: decode rest := by
  have hlt := b.toNat_lt
  have hvalue : b.toNat / 16 * 16 + b.toNat % 16 = b.toNat := by omega
  rw [utf8_escape]
  refine (decode_pair _ _ _ _ rest (hexValue?_hexByte (b.toNat / 16) (by omega))
    (hexValue?_hexByte (b.toNat % 16) (by omega))).trans ?_
  rw [hvalue, UInt8.ofNat_toNat]

/-! ### Bytes with some of them escaped -/

/-- Bytes, and the same bytes with some of them escaped. Percent signs and
    digits never are. -/
inductive Escapes : List UInt8 → List UInt8 → Prop where
  | nil : Escapes [] []
  | keep (b : UInt8) (raw escaped : List UInt8) (h : Escapes raw escaped) :
      Escapes (b :: raw) (b :: escaped)
  | escape (b : UInt8) (raw escaped : List UInt8) (hsign : b ≠ sign) (hdigit : hexValue? b = none)
      (h : Escapes raw escaped) : Escapes (b :: raw) (Text.utf8 (Percent.escape b) ++ escaped)

theorem Escapes.append (raw escaped more others : List UInt8) (h : Escapes raw escaped)
    (hmore : Escapes more others) : Escapes (raw ++ more) (escaped ++ others) := by
  induction h with
  | nil => exact hmore
  | keep b raw escaped h ih => exact keep b _ _ ih
  | escape b raw escaped hsign hdigit h ih =>
      rw [List.append_assoc]
      exact escape b _ _ hsign hdigit ih

/-- A digit stays where it is, and an escape does not start with one. -/
theorem digit?_escapes (raw escaped : List UInt8) (h : Escapes raw escaped) :
    digit? escaped = digit? raw := by
  cases h with
  | nil => rfl
  | keep b raw escaped h => rfl
  | escape b raw escaped hsign hdigit h =>
      rw [utf8_escape]
      exact hdigit.symm

theorem exists_of_digit? (raw escaped : List UInt8) (h : Escapes raw escaped) (n : Nat)
    (hdigit : digit? raw = some n) :
    ∃ a more others, raw = a :: more ∧ escaped = a :: others ∧ hexValue? a = some n ∧
      Escapes more others := by
  cases h with
  | nil => cases hdigit
  | keep b raw escaped h => exact ⟨b, raw, escaped, rfl, rfl, hdigit, h⟩
  | escape b raw escaped hsign hnone h => exact absurd (hnone.symm.trans hdigit) nofun

/-- Escaped bytes are resolved like the bytes, by induction on their number. It
    is not one on the bytes, since a percent sign is resolved with the two behind
    it. -/
theorem decode_escapes (raw escaped : List UInt8) (h : Escapes raw escaped) :
    decode escaped = decode raw := by
  induction hlength : raw.length using Nat.strongRecOn generalizing raw escaped with
  | ind length ih =>
      rcases hlength with rfl
      cases h with
      | nil => rfl
      | escape b raw escaped hsign hdigit h =>
          rw [decode_escape, decode_cons_of_ne b raw hsign]
          exact congrArg _ (ih _ (Nat.lt_succ_self _) raw escaped h rfl)
      | keep b raw escaped h =>
          have hnext := ih _ (Nat.lt_succ_self _) raw escaped h rfl
          by_cases hb : b ≠ sign
          · rw [decode_cons_of_ne b _ hb, decode_cons_of_ne b _ hb, hnext]
          rcases Decidable.not_not.mp hb with rfl
          have hfirst := digit?_escapes raw escaped h
          cases ha : digit? raw with
          | none => rw [decode_sign _ (Or.inl ha), decode_sign _ (Or.inl (hfirst.trans ha)), hnext]
          | some high =>
              rcases exists_of_digit? raw escaped h high ha with ⟨a, raw, escaped, rfl, rfl, ha, h⟩
              have hsecond := digit?_escapes raw escaped h
              cases hc : digit? raw with
              | none =>
                  rw [decode_sign (a :: raw) (Or.inr hc),
                    decode_sign (a :: escaped) (Or.inr (hsecond.trans hc)), hnext]
              | some low =>
                  -- Both bytes behind the sign are digits, and the same ones on both sides.
                  rcases exists_of_digit? raw escaped h low hc with
                    ⟨c, raw, escaped, rfl, rfl, hc, h⟩
                  have hrest := ih _ (by simp only [List.length_cons]; omega) raw escaped h rfl
                  rw [decode_pair a c high low _ ha hc, decode_pair a c high low _ ha hc, hrest]

/-! ### Escaped texts -/

/-- A test for characters that spares percent signs and digits. -/
def Sparing (escaped : Char → Bool) : Prop :=
  ∀ c, escaped c = true → c.toNat < 0x80 →
    UInt8.ofNat c.toNat ≠ sign ∧ hexValue? (UInt8.ofNat c.toNat) = none

/-- A byte beyond ASCII is neither the sign of an escape nor a digit. -/
theorem spared_of_beyond (b : UInt8) (h : 0x80 ≤ b.toNat) : b ≠ sign ∧ hexValue? b = none := by
  refine ⟨fun hsign => ?_, ?_⟩
  · have hvalue : sign.toNat = 0x25 := rfl
    rw [hsign] at h
    omega
  · rw [hexValue?, if_neg, if_neg, if_neg]
    all_goals
      simp only [Bool.and_eq_true, decide_eq_true_eq]
      omega

theorem escapes_flatMap (bytes : List UInt8)
    (h : ∀ b ∈ bytes, b ≠ sign ∧ hexValue? b = none) :
    Escapes bytes (Text.utf8 (bytes.flatMap Percent.escape)) := by
  induction bytes with
  | nil => exact Escapes.nil
  | cons b bytes ih =>
      rcases h b List.mem_cons_self with ⟨hsign, hdigit⟩
      have hmore := ih fun x hx => h x (List.mem_cons_of_mem b hx)
      rw [List.flatMap_cons, Text.utf8_append]
      exact Escapes.escape b bytes _ hsign hdigit hmore

theorem escapes_refl (bytes : List UInt8) : Escapes bytes bytes := by
  induction bytes with
  | nil => exact Escapes.nil
  | cons b bytes ih => exact Escapes.keep b bytes bytes ih

/-- The bytes of an escaped text are those of the text with some of them
    escaped, by induction on the text. -/
theorem escapes_encode (escaped : Char → Bool) (hspare : Sparing escaped) (s : List Char) :
    Escapes (Text.utf8 s) (Text.utf8 (encode escaped s)) := by
  induction s with
  | nil => exact Escapes.nil
  | cons c s ih =>
      have hfirst : Escapes (String.utf8EncodeChar c) (Text.utf8
          (if c.toNat < 0x80 && !escaped c then [c] else (Text.utf8 [c]).flatMap escape)) := by
        have hsingle : Text.utf8 [c] = String.utf8EncodeChar c := List.flatMap_singleton _ c
        split_ifs with hkept
        · rw [hsingle]
          exact escapes_refl _
        · rw [hsingle]
          refine escapes_flatMap _ fun b hb => ?_
          by_cases hascii : c.toNat < 0x80
          · rw [Text.utf8EncodeChar_ascii c hascii, List.mem_singleton] at hb
            rcases hb with rfl
            refine hspare c ?_ hascii
            rw [decide_eq_true hascii, Bool.true_and, Bool.not_eq_true', Bool.not_eq_false] at hkept
            exact hkept
          · exact spared_of_beyond b (Text.utf8EncodeChar_beyond c (Nat.le_of_not_lt hascii) b hb)
      rw [Text.utf8_cons, encode, List.flatMap_cons, Text.utf8_append]
      exact Escapes.append _ _ _ _ hfirst ih

/-- Escaping does not change what is resolved. -/
theorem decode_encode (escaped : Char → Bool) (hspare : Sparing escaped) (s : List Char) :
    decode (Text.utf8 (encode escaped s)) = decode (Text.utf8 s) :=
  decode_escapes _ _ (escapes_encode escaped hspare s)

/-- Escaped bytes in front of any others are resolved to the bytes. -/
theorem decode_flatMap_escape (bytes rest : List UInt8) :
    decode (Text.utf8 (bytes.flatMap escape) ++ rest) = bytes ++ decode rest := by
  induction bytes with
  | nil => rfl
  | cons b bytes ih =>
      rw [List.flatMap_cons, Text.utf8_append, List.append_assoc, decode_escape, ih,
        List.cons_append]

/-- A character that is kept stands for itself. -/
theorem encode_cons_of_kept (escaped : Char → Bool) (c : Char) (s : List Char)
    (hascii : c.toNat < 0x80) (hkept : escaped c = false) :
    encode escaped (c :: s) = c :: encode escaped s := by
  rw [encode, List.flatMap_cons, hkept, decide_eq_true hascii]
  rfl

/-- Any other character stands as the escapes of its bytes. -/
theorem encode_cons_of_escaped (escaped : Char → Bool) (c : Char) (s : List Char)
    (h : ¬(c.toNat < 0x80 ∧ escaped c = false)) :
    encode escaped (c :: s) = (Text.utf8 [c]).flatMap escape ++ encode escaped s := by
  rw [encode, List.flatMap_cons, if_neg]
  · rfl
  · rw [Bool.and_eq_true, decide_eq_true_eq, Bool.not_eq_true']
    exact h

/-- Escaping is undone if percent signs are escaped, by induction on the text. A
    kept character is no percent sign then, so nothing is taken for an escape
    that was none. -/
theorem decode_encode_self (escaped : Char → Bool) (hsign : escaped '%' = true) (s : List Char) :
    decode (Text.utf8 (encode escaped s)) = Text.utf8 s := by
  induction s with
  | nil => rfl
  | cons c s ih =>
      by_cases hkept : c.toNat < 0x80 ∧ escaped c = false
      · -- The byte of a kept character is its number, so a percent sign would be kept.
        have hne : UInt8.ofNat c.toNat ≠ sign := by
          intro hb
          have hnat : c.toNat % 256 = '%'.toNat := UInt8.toNat_ofNat'.symm.trans (congrArg _ hb)
          have hmod : c.toNat % 256 = c.toNat := by omega
          rw [← Char.ofNat_toNat c, ← hmod, hnat, Char.ofNat_toNat, hsign] at hkept
          exact absurd hkept.2 nofun
        rw [encode_cons_of_kept escaped c s hkept.1 hkept.2, Text.utf8_cons, Text.utf8_cons,
          Text.utf8EncodeChar_ascii c hkept.1, List.singleton_append, decode_cons_of_ne _ _ hne, ih,
          List.singleton_append]
      · rw [encode_cons_of_escaped escaped c s hkept, Text.utf8_append, decode_flatMap_escape, ih,
          ← Text.utf8_append, List.singleton_append]

theorem mem_escape (b : UInt8) (c : Char) (h : c ∈ escape b) :
    c = '%' ∨ ∃ n < 16, c = hexDigit n := by
  have hlt := b.toNat_lt
  simp only [escape, List.mem_cons, List.not_mem_nil, or_false] at h
  rcases h with rfl | rfl | rfl
  · exact Or.inl rfl
  · exact Or.inr ⟨b.toNat / 16, by omega, rfl⟩
  · exact Or.inr ⟨b.toNat % 16, by omega, rfl⟩

/-- A character of an escaped text is one of the text that is not escaped, or
    belongs to an escape. -/
theorem mem_encode_cases (escaped : Char → Bool) (s : List Char) (c : Char)
    (h : c ∈ encode escaped s) :
    (c ∈ s ∧ c.toNat < 0x80 ∧ escaped c = false) ∨ c = '%' ∨ ∃ n < 16, c = hexDigit n := by
  rcases List.mem_flatMap.mp h with ⟨d, hd, hc⟩
  split_ifs at hc with hkept
  · rw [Bool.and_eq_true, decide_eq_true_eq, Bool.not_eq_true'] at hkept
    rw [List.mem_singleton.mp hc]
    exact Or.inl ⟨hd, hkept⟩
  · rcases List.mem_flatMap.mp hc with ⟨b, _, hb⟩
    exact Or.inr (mem_escape b c hb)

/-- What is escaped in a path are no percent signs and no digits. -/
theorem sparing_path : Sparing Url.isPathEscaped := by
  have hall : ∀ n < 0x80, Url.isPathEscaped (Char.ofNat n) = true →
      UInt8.ofNat (Char.ofNat n).toNat ≠ sign ∧
        hexValue? (UInt8.ofNat (Char.ofNat n).toNat) = none := by
    decide
  have hascii : ∀ c : Char, c.toNat < 0x80 → Url.isPathEscaped c = true →
      UInt8.ofNat c.toNat ≠ sign ∧ hexValue? (UInt8.ofNat c.toNat) = none :=
    Text.forall_ascii _ hall
  exact fun c hescaped hlt => hascii c hlt hescaped

end Percent

end StreamRoster
