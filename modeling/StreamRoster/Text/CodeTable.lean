import StreamRoster.Text.Split

/-!
# Code Point Tables

Large tables of characters kept as text: code points in hexadecimal, runs of
them as `first-last`, and runs that take every second one only as
`first-last/2`. What a run is mapped to follows behind an arrow `>`, as code
points divided by dots.

## Main definitions

* `CodeRun`: Evenly spaced code points.
* `CodeRun.ofLines`: The runs in the lines of a table.
* `CodeEntry`: A run with what its members are mapped to.
* `CodeEntry.ofLines`: The entries in the lines of a table.
* `CodeEntry.image`: What a member is mapped to.
-/

namespace StreamRoster

/-- Evenly spaced code points. -/
structure CodeRun where
  first : Nat
  last : Nat
  step : Nat
  deriving DecidableEq, Repr

namespace CodeRun

/-- The value of a hexadecimal digit in lower case. -/
def digit (c : Char) : Nat :=
  if c.isDigit then c.toNat - '0'.toNat else c.toNat - 'a'.toNat + 10

/-- The code point written in hexadecimal. -/
def code (s : List Char) : Nat := s.foldl (fun n c => n * 16 + digit c) 0

/-- The run written as its ends and its step. -/
def read (s : List Char) : CodeRun :=
  match Text.split (· = '/') s with
  | [ends, step] => { readEnds ends with step := code step }
  | _ => readEnds s
where
  /-- The run of all code points between two ends. -/
  readEnds (s : List Char) : CodeRun :=
    match Text.split (· = '-') s with
    | [first, last] => ⟨code first, code last, 1⟩
    | _ => ⟨code s, code s, 1⟩

/-- Whether a character belongs to a run. -/
def has (run : CodeRun) (c : Char) : Bool :=
  run.first ≤ c.toNat && c.toNat ≤ run.last && (c.toNat - run.first) % run.step = 0

/-- The words in the lines of a table. -/
def words (lines : List String) : List (List Char) :=
  lines.flatMap fun line => Text.split (· = ' ') line.toList

/-- The runs in the lines of a table. -/
def ofLines (lines : List String) : List CodeRun := (words lines).map read

end CodeRun

/-- A run with what its members are mapped to. -/
structure CodeEntry where
  source : CodeRun
  target : List Nat
  deriving DecidableEq, Repr

namespace CodeEntry

/-- The entry written as a run, an arrow and code points. -/
def read (s : List Char) : CodeEntry :=
  match Text.split (· = '>') s with
  | [source, target] => ⟨CodeRun.read source, (Text.split (· = '.') target).map CodeRun.code⟩
  | _ => ⟨CodeRun.read s, []⟩

/-- The entries in the lines of a table. -/
def ofLines (lines : List String) : List CodeEntry := (CodeRun.words lines).map read

/-- What a member of the run is mapped to: as far behind the target as the
    member is behind the start of the run. -/
def image (entry : CodeEntry) (c : Char) : List Char :=
  match entry.target with
  | [target] => [Char.ofNat (target + (c.toNat - entry.source.first))]
  | targets => targets.map Char.ofNat

/-- The entry that maps a character. -/
def find? (entries : List CodeEntry) (c : Char) : Option CodeEntry :=
  entries.find? fun entry => entry.source.has c

end CodeEntry

end StreamRoster
