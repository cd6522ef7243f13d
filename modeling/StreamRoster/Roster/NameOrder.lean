import StreamRoster.Text.CaseFold

/-!
# The Order of Names

The order in which streams are listed: by name without regard to case first,
and by the bytes of the name where that leaves a tie.

Names are compared character by character as sequences of code points, a
proper start of a name coming before the name itself. The code points of two
names order them as their UTF-8 bytes do.

## Main definitions

* `compareCodes`: The order of two code point sequences.
* `compareNames`: The order of two names.
-/

namespace StreamRoster

/-- The lexicographic order of two code point sequences. -/
def compareCodes : List Char → List Char → Ordering
  | [], [] => .eq
  | [], _ :: _ => .lt
  | _ :: _, [] => .gt
  | a :: s, b :: t =>
    if a.toNat < b.toNat then .lt
    else if b.toNat < a.toNat then .gt
    else compareCodes s t

/-- The order of two names. -/
def compareNames (a b : String) : Ordering :=
  (compareCodes (Text.fold a.toList) (Text.fold b.toList)).then
    (compareCodes a.toList b.toList)

end StreamRoster
