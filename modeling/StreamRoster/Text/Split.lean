/-!
# Splitting Text

A text cut at its separators. Empty parts are kept, so there is always one
part more than there are separators.

## Main definitions

* `Text.split`: The parts of a text between the characters that satisfy a
  test.
* `Text.join`: Parts put together with a separator between them.
-/

namespace StreamRoster

namespace Text

/-- The parts of a text between the characters that satisfy a test. -/
def split (p : Char → Bool) : List Char → List (List Char)
  | [] => [[]]
  | c :: s =>
    if p c then [] :: split p s
    else match split p s with
      | [] => [[c]]
      | part :: parts => (c :: part) :: parts

/-- Parts put together with a separator between them. -/
def join (separator : Char) : List (List Char) → List Char
  | [] => []
  | [part] => part
  | part :: parts => part ++ separator :: join separator parts

end Text

end StreamRoster
