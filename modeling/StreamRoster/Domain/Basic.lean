import StreamRoster.Domain.Direction
import StreamRoster.Domain.Joining
import StreamRoster.Domain.Mapping
import StreamRoster.Domain.Punycode
import StreamRoster.Text.Split

/-!
# Domain Names

Domain names as they are looked up: in lower case ASCII, with each label
beyond ASCII replaced by its punycode behind the sign `xn--`.

A name in ASCII is only put into lower case. Any other one, and one with
labels in punycode, is mapped, and each of its labels has to be one that the
mapping leaves alone.

## Main definitions

* `Domain.isForbidden`: The ASCII characters that no name contains.
* `Domain.toAscii?`: The name that is looked up.
-/

namespace StreamRoster

namespace Domain

/-- Whether no name contains a character of ASCII. -/
def isForbidden (c : Char) : Bool :=
  c.toNat ≤ 0x20 || c.toNat = 0x7f || "%#/:<>?@[\\]^|".toList.contains c

/-- The sign in front of a label in punycode. -/
def sign : List Char := "xn--".toList

/-- Whether a text consists of ASCII characters. -/
def isAscii (s : List Char) : Bool := s.all (·.toNat < 0x80)

/-- The longest label that is encoded. -/
def maxLabel : Nat := 1000

/-- The longest punycode that is decoded. -/
def maxCode : Nat := 2000

/-- Whether a label beyond ASCII may stand in a name. -/
def isLabel (label : List Char) : Bool :=
  joinersFit label &&
    match label with
    | c :: _ => !isMark c
    | [] => true

/-- The text that a code stands for in a label. It goes beyond ASCII, is in its
    mapped form already, and does not look like a code itself. -/
def decodeLabel? (code : List Char) : Option (List Char) := do
  if !isAscii code || maxCode < code.length then none
  let text ← Punycode.decode? code
  if isAscii text || text.take 4 = sign then none
  if mapName? text = some text && isLabel text then some text else none

/-- What a label stands for: a label in punycode for the text it encodes, any
    other one for itself. -/
def meaning? (label : List Char) : Option (List Char) :=
  if label.take 4 = sign then decodeLabel? (label.drop 4)
  else if isAscii label then some label
  else if isLabel label && label.length ≤ maxLabel then some label
  else none

/-- How a label is looked up. -/
def lookupForm (label : List Char) : List Char :=
  if isAscii label then label else sign ++ Punycode.encode label

/-- The ASCII form of a name that has to be mapped. -/
def mapToAscii? (s : List Char) : Option (List Char) := do
  let name ← mapName? s
  if name.any isForbidden then none
  let labels := Text.split (· = '.') name
  let meanings ← labels.mapM meaning?
  if directionsFit meanings then some (Text.join '.' (labels.map lookupForm)) else none

/-- The name that is looked up. -/
def toAscii? (s : List Char) : Option (List Char) :=
  let plain := s.map Char.toLower
  if isAscii s && !(Text.split (· = '.') plain).any (fun label => label.take 4 = sign) then
    if plain.any isForbidden then none else some plain
  else mapToAscii? s

end Domain

end StreamRoster
