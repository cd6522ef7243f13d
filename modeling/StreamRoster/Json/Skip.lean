import StreamRoster.Json.Reader

/-!
# Skipping JSON Values

Passing over a value nobody asked for.

A skipped value has to be well formed, but less is asked of it than of a
value that is read: numbers may be of any size, the halves of surrogate
pairs may stand alone, and nesting is not limited. A number cut short by the
end of the text counts as an ill-formed number here.

## Main definitions

* `Json.skip`: Passes over one value.
-/

namespace StreamRoster

namespace Json

/-- Pass over the characters of a string up to its closing quote. -/
def skipStringChars : Nat → Reader Unit
  | 0, _ => failHere .endOfString []
  | fuel + 1, s =>
    match s with
    | [] => failHere .endOfString []
    | '"' :: s' => .ok ((), s')
    | '\\' :: [] => failHere .endOfString []
    | '\\' :: 'u' :: s' => do
      let (_, s'') ← hexEscape s'
      skipStringChars fuel s''
    | '\\' :: c :: s' =>
      if (letterEscape? c).isSome then skipStringChars fuel s'
      else failNext .invalidEscape (c :: s')
    | c :: s' =>
      if c.toNat < 0x20 then failHere .controlCharacter s
      else skipStringChars fuel s'

/-- Pass over a string behind its opening quote. -/
def skipString : Reader Unit := fun s => skipStringChars (s.length + 1) s

/-- Pass over the digits of an exponent. -/
def skipExponentDigits : Reader Unit := fun s =>
  if startsWithDigit s then .ok ((), (spanDigits s).2) else failNext .invalidNumber s

/-- Pass over an exponent behind its letter. -/
def skipExponent : Reader Unit := fun s =>
  match s with
  | '+' :: s => skipExponentDigits s
  | '-' :: s => skipExponentDigits s
  | s => skipExponentDigits s

/-- Pass over an exponent if there is one. -/
def skipExponentPart : Reader Unit := fun s =>
  match s with
  | 'e' :: s | 'E' :: s => skipExponent s
  | s => .ok ((), s)

/-- Pass over a number behind its sign. -/
def skipNumber : Reader Unit := fun s =>
  match s with
  | [] => failNext .invalidNumber []
  | c :: s' =>
    if !c.isDigit then failNext .invalidNumber s
    else if c = '0' && startsWithDigit s' then failNext .invalidNumber s'
    else match (spanDigits s).2 with
      | '.' :: s =>
        if startsWithDigit s then skipExponentPart (spanDigits s).2
        else failNext .invalidNumber s
      | s => skipExponentPart s

/-- Pass over the elements of a list behind its opening bracket or behind a
    comma, up to and including the closing bracket. -/
def skipElements (skip : Reader Unit) : Nat → Reader Unit
  | 0, _ => failHere .endOfList []
  | fuel + 1, s => do
    let (_, s) ← skip s
    match skipSpace s with
    | [] => failHere .endOfList []
    | ',' :: s => skipElements skip fuel s
    | ']' :: s => .ok ((), s)
    | s => failNext .expectedListCommaOrEnd s

/-- Pass over the members of an object behind its opening brace or behind a
    comma, up to and including the closing brace. -/
def skipMembers (skip : Reader Unit) : Nat → Reader Unit
  | 0, _ => failHere .endOfObject []
  | fuel + 1, s =>
    match skipSpace s with
    | [] => failHere .endOfObject []
    | '"' :: s => do
      let (_, s) ← skipString s
      let (_, s) ← memberColon s
      let (_, s) ← skip s
      match skipSpace s with
      | [] => failHere .endOfObject []
      | ',' :: s => skipMembers skip fuel s
      | '\x7d' :: s => .ok ((), s)
      | s => failNext .expectedObjectCommaOrEnd s
    | s => failNext .keyNotString s

/-- Pass over a value, with fuel for its nesting and its length. -/
def skipValue : Nat → Reader Unit
  | 0, _ => failHere .endOfValue []
  | fuel + 1, s =>
    match skipSpace s with
    | [] => failHere .endOfValue []
    | 'n' :: s => word "ull".toList s
    | 't' :: s => word "rue".toList s
    | 'f' :: s => word "alse".toList s
    | '-' :: s => skipNumber s
    | '"' :: s => skipString s
    | '[' :: s =>
      match skipSpace s with
      | [] => failHere .endOfList []
      | ']' :: s => .ok ((), s)
      | s => skipElements (skipValue fuel) (s.length + 1) s
    | '\x7b' :: s =>
      match skipSpace s with
      | [] => failHere .endOfObject []
      | '\x7d' :: s => .ok ((), s)
      | s => skipMembers (skipValue fuel) (s.length + 1) s
    | c :: s =>
      if c.isDigit then skipNumber (c :: s) else failNext .expectedValue (c :: s)

/-- Pass over one value. -/
def skip : Reader Unit := fun s => skipValue (s.length + 1) s

end Json

end StreamRoster
