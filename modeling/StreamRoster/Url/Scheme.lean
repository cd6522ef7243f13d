/-!
# URL Schemes

The word a URL starts with. Some schemes are special: their URLs always have
a host and a path, a backslash divides like a slash, and a default port is
left out.

## Main definitions

* `Scheme`: A scheme in lower case.
* `Scheme.read?`: Reads a scheme up to its colon.
* `Scheme.defaultPort?`: The port a scheme stands for.
-/

namespace StreamRoster

/-- A scheme in lower case. -/
structure Scheme where
  name : String
  deriving DecidableEq, Repr

namespace Scheme

/-- The scheme of local files. -/
def file : Scheme := ⟨"file"⟩

/-- The port a scheme stands for. -/
def defaultPort? (scheme : Scheme) : Option Nat :=
  if scheme.name = "http" || scheme.name = "ws" then some 80
  else if scheme.name = "https" || scheme.name = "wss" then some 443
  else if scheme.name = "ftp" then some 21
  else none

/-- Whether a scheme is special and not that of local files. -/
def isSpecial (scheme : Scheme) : Bool := scheme.defaultPort?.isSome

/-- Whether a character may stand in a scheme behind its first letter. -/
def isChar (c : Char) : Bool := c.isAlphanum || c = '+' || c = '-' || c = '.'

/-- Read a scheme up to its colon, and give the text behind the colon. -/
def read? (s : List Char) : Option (Scheme × List Char) :=
  match s.takeWhile isChar, s.dropWhile isChar with
  | c :: name, ':' :: rest =>
    if c.isAlpha then some (⟨String.ofList ((c :: name).map Char.toLower)⟩, rest) else none
  | _, _ => none

end Scheme

end StreamRoster
