import Mathlib.Logic.Basic
import StreamRoster.Feed.Source
import StreamRoster.Proofs.Text.Bytes

/-!
# Sources Without a Request

A source has no request to send if its target cannot be read or its key
cannot be written into a header.

The second check is made byte by byte, on the UTF-8 form of the header. Read
back to the characters of the key it says that no control character may stand
there other than a tab: the bytes of a character beyond ASCII are beyond
ASCII themselves (`Text.utf8EncodeChar_beyond`), and all of those pass.

## Main definitions

* `Authorization.isControl`: The characters a key must not have.

## Theorems

* `isValueByte_eq`: Which bytes may stand in a header.
* `all_utf8EncodeChar`: Which characters may stand in a header.
* `bearer?_eq_none_iff`: Which keys have no header.
* `request_error_iff`: Which sources have no request.
-/

namespace StreamRoster

namespace Authorization

/-- The characters a key must not have: the control characters of ASCII other
    than the tab. -/
def isControl (c : Char) : Bool := (c.toNat < 0x20 && c ≠ '\t') || c.toNat = 0x7f

theorem isValueByte_eq (b : UInt8) :
    isValueByte b = (b.toNat = 9 || (0x20 ≤ b.toNat && b.toNat ≠ 0x7f)) := by
  simp only [isValueByte, ← UInt8.toNat_inj, UInt8.le_iff_toNat_le, ne_eq]
  rfl

/-- A character may stand in a header, byte for byte, unless it is a control
    character. -/
theorem all_utf8EncodeChar (c : Char) :
    (String.utf8EncodeChar c).all isValueByte = !isControl c := by
  have htab : c = '\t' ↔ c.toNat = 9 := ⟨fun h => by rw [h]; rfl, fun h => Char.toNat_inj.mp h⟩
  rw [isControl]
  by_cases hascii : c.toNat < 0x80
  · have hbyte : (UInt8.ofNat c.toNat).toNat = c.toNat := by
      rw [UInt8.toNat_ofNat']
      exact Nat.mod_eq_of_lt (by omega)
    rw [Text.utf8EncodeChar_ascii c hascii, List.all_cons, List.all_nil, Bool.and_true,
      isValueByte_eq, hbyte, Bool.eq_iff_iff]
    simp only [htab, ne_eq, Bool.or_eq_true, Bool.and_eq_true, Bool.not_eq_true',
      Bool.or_eq_false_iff, Bool.and_eq_false_iff, decide_eq_true_eq, decide_eq_false_iff_not]
    omega
  -- Beyond ASCII every byte is large enough, and no character is a control.
  · have hbytes : (String.utf8EncodeChar c).all isValueByte = true := by
      refine List.all_eq_true.mpr fun b hb => ?_
      have hbeyond := Text.utf8EncodeChar_beyond c (Nat.le_of_not_lt hascii) b hb
      rw [isValueByte_eq]
      simp only [Bool.or_eq_true, Bool.and_eq_true, decide_eq_true_eq]
      omega
    have hcontrol : (c.toNat < 0x20 && c ≠ '\t' || c.toNat = 0x7f) = false := by
      simp only [Bool.or_eq_false_iff, Bool.and_eq_false_iff, decide_eq_false_iff_not]
      omega
    rw [hbytes, hcontrol, Bool.not_false]

/-- The keys that have no header are those with a control character. -/
theorem bearer?_eq_none_iff (key : String) :
    bearer? key = none ↔ ∃ c ∈ key.toList, isControl c = true := by
  have hall : ∀ s : List Char, (Text.utf8 s).all isValueByte = s.all fun c => !isControl c := by
    intro s
    rw [Text.utf8, List.all_flatMap]
    exact congrArg s.all (funext all_utf8EncodeChar)
  have hstart : ("Bearer ".toList.all fun c => !isControl c) = true := by decide
  simp only [bearer?, hall, List.all_append, hstart, Bool.true_and, ite_eq_right_iff,
    reduceCtorEq, imp_false, List.all_eq_true, Bool.not_eq_true', not_forall,
    Bool.not_eq_false, exists_prop]

end Authorization

/-- The sources that have no request are those whose target cannot be read and
    those whose key has a control character. -/
theorem Source.request_error_iff (s : Source) :
    (∃ fault, s.request = .error fault) ↔
      (∃ fault, Target.parse s.url.text = .error fault) ∨
        ∃ key, s.key = some key ∧ ∃ c ∈ key.toList, Authorization.isControl c = true := by
  rw [Source.request]
  cases htarget : Target.parse s.url.text with
  | error fault => exact iff_of_true ⟨_, rfl⟩ (Or.inl ⟨fault, rfl⟩)
  | ok target =>
      cases hkey : s.key with
      | none =>
          refine iff_of_false nofun fun h => ?_
          rcases h with ⟨_, h⟩ | ⟨_, h, _⟩ <;> exact absurd h nofun
      | some key =>
          -- The target is fine, so only the key is left to fail.
          have hkeys := Authorization.bearer?_eq_none_iff key
          cases hbearer : Authorization.bearer? key with
          | none =>
              simp only [hbearer]
              exact iff_of_true ⟨_, rfl⟩ (Or.inr ⟨key, rfl, hkeys.mp hbearer⟩)
          | some value =>
              simp only [hbearer]
              refine iff_of_false nofun fun h => ?_
              rcases h with ⟨_, h⟩ | ⟨other, h, hcontrol⟩
              · exact absurd h nofun
              · rcases Option.some.inj h with rfl
                exact absurd (hbearer.symm.trans (hkeys.mpr hcontrol)) nofun

end StreamRoster
