import StreamRoster.Http.Percent
import StreamRoster.Text.Split

/-!
# URL Paths

The path of a URL: segments divided by slashes, or any text if the URL has no
hierarchy. While segments are read, those of one dot are dropped, and those
of two dots also drop the segment before them.

## Main definitions

* `Url.Path`: Segments, or a text.
* `Url.Path.segments`: Reads the segments of a path.
* `Url.Path.text`: The text of a path.
-/

namespace StreamRoster

namespace Url

/-- Segments, or a text. -/
inductive Path where
  | segments (parts : List (List Char))
  | plain (text : List Char)
  deriving DecidableEq, Repr

/-- Whether a character is escaped in a fragment. -/
def isFragmentEscaped (c : Char) : Bool :=
  Percent.isControl c || c = ' ' || c = '"' || c = '<' || c = '>' || c = '\x60'

/-- Whether a character is escaped in a path. -/
def isPathEscaped (c : Char) : Bool :=
  isFragmentEscaped c || c = '#' || c = '?' || c = '\x7b' || c = '\x7d'

/-- Whether a character is escaped in a user name or password. -/
def isUserEscaped (c : Char) : Bool := isPathEscaped c || "/:;=@[\\]^|".toList.contains c

/-- Whether a character is escaped in a query. -/
def isQueryEscaped (special : Bool) (c : Char) : Bool :=
  Percent.isControl c || c = ' ' || c = '"' || c = '#' || c = '<' || c = '>' ||
    (special && c = '\'')

namespace Path

/-- The text with each dot that is written as an escape resolved. -/
def plainDots : List Char → List Char
  | '%' :: '2' :: 'e' :: s | '%' :: '2' :: 'E' :: s => '.' :: plainDots s
  | c :: s => c :: plainDots s
  | [] => []

/-- Whether a segment is a letter with a colon or a bar, which names a drive.
    Such a segment is never dropped by dots. -/
def isDrive (segment : List Char) : Bool :=
  match segment with
  | c :: d :: rest => c.isAlpha && (d = ':' || d = '|') && (rest.isEmpty || rest.head? = some '\\')
  | _ => false

/-- Segments without the last one, unless it names a drive. -/
def dropSegment (segments : List (List Char)) : List (List Char) :=
  match segments.getLast? with
  | some segment => if isDrive segment then segments else segments.dropLast
  | none => []

/-- Put the raw segments of a text behind the segments in place. A segment of
    dots at the end leaves an empty one. -/
def place (done : List (List Char)) : List (List Char) → List (List Char)
  | [] => done
  | raw :: rest =>
    let done :=
      if plainDots raw = ['.', '.'] then dropSegment done
      else if plainDots raw = ['.'] then done
      else done ++ [Percent.encode isPathEscaped raw]
    let dots := plainDots raw = ['.', '.'] || plainDots raw = ['.']
    place (if dots && rest.isEmpty then done ++ [[]] else done) rest

/-- The segments of a text. Under a special scheme a backslash divides them as
    well. -/
def read (special : Bool) (s : List Char) : List (List Char) :=
  place [] (Text.split (fun c => c = '/' || (special && c = '\\')) s)

/-- The text of a path. -/
def text : Path → List Char
  | .segments parts => parts.flatMap fun part => '/' :: part
  | .plain text => text

end Path

end Url

end StreamRoster
