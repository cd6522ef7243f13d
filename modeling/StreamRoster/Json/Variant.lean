import StreamRoster.Json.Reader

/-!
# JSON Variants

Reading one of a fixed set of names.

## Main definitions

* `Json.variantName`: Reads a name of the set.
* `Json.variant`: Reads a name, or an object with the name as its only key
  and `null` as its value.
-/

namespace StreamRoster

namespace Json

/-- The variant with a name. -/
def pickVariant (variants : List (String × α)) (name : String) : Except Cause α :=
  match variants.find? fun v => v.1 = name with
  | some v => .ok v.2
  | none => .error (.unknownVariant name (variants.map Prod.fst))

/-- Read the name of a variant. -/
def variantName (variants : List (String × α)) : Reader α := fun s => do
  let (name, s) ← text "variant identifier" s
  match pickVariant variants name with
  | .ok a => .ok (a, s)
  | .error cause => failHere cause s

/-- Read a variant: its name, or an object with the name as its only key. -/
def variant (variants : List (String × α)) (room : Nat) : Reader α := fun s =>
  match skipSpace s with
  | [] => failHere .endOfValue []
  | '"' :: s => variantName variants ('"' :: s)
  | '\x7b' :: s =>
    match room with
    | 0 => failNext .tooDeep ('\x7b' :: s)
    | _ + 1 => do
      let (a, s) ← variantName variants s
      let (_, s) ← memberColon s
      let (_, s) ← null s
      match skipSpace s with
      | [] => failHere .endOfObject []
      | '\x7d' :: s => .ok (a, s)
      | s => failHere .expectedValue s
  | s => failNext .expectedValue s

end Json

end StreamRoster
