import StreamRoster.Toml.Scalar

/-!
# Reading TOML

Reading a whole document: lines with a key and a value, headers that say
which table the lines behind them belong to, and blank lines.

## Main definitions

* `Toml.value`: Reads a value.
* `Toml.parse?`: Reads a document.
-/

namespace StreamRoster

namespace Toml

/-- How deep arrays and inline tables may be nested. -/
def maxDepth : Nat := 79

/-- The text behind expected characters. -/
def expectAll (expected s : List Char) : Option (List Char) :=
  expected.foldlM (fun s c => expect c s) s

/-- Read the items of an array up to its closing bracket, with a step of fuel
    for each. -/
def items (item : Reader Node) : Nat → Reader (List Node)
  | 0, _ => none
  | fuel + 1, s =>
    match skipLines s with
    | ']' :: s => some ([], s)
    | s => do
      let (node, s) ← item s
      match skipLines s with
      | ',' :: s => do
        let (nodes, s) ← items item fuel s
        some (node :: nodes, s)
      | ']' :: s => some ([node], s)
      | _ => none

/-- Read the entries of an inline table up to its closing brace, with a step of
    fuel for each. -/
def members (item : Reader Node) : Nat → Entries → Reader Entries
  | 0, _, _ => none
  | fuel + 1, entries, s => do
    let ((path, last), s) ← key s
    let (node, s) ← item (skipBlank (← expect '=' s))
    let entries ← put? path last node .header entries
    match skipBlank s with
    | ',' :: s => members item fuel entries s
    | '\x7d' :: s => some (entries, s)
    | _ => none

/-- Read a value with some room for nesting. -/
def valueIn (room : Nat) (s : List Char) : Option (Node × List Char) :=
  match s with
  | '[' :: s =>
    match room with
    | 0 => none
    | room + 1 => (items (valueIn room) (s.length + 1) s).map fun (nodes, s) => (.array nodes, s)
  | '\x7b' :: s =>
    match room with
    | 0 => none
    | room + 1 =>
      match skipBlank s with
      | '\x7d' :: s => some (.inlined [], s)
      | s => (members (valueIn room) (s.length + 1) [] s).map
          fun (entries, s) => (.inlined entries, s)
  | '"' :: _ | '\'' :: _ => (string s).map fun (text, s) => (.text (String.ofList text), s)
  | 't' :: _ => (expectAll "true".toList s).map fun s => (.boolean true, s)
  | 'f' :: _ => (expectAll "false".toList s).map fun s => (.boolean false, s)
  | s => scalar s

/-- Read a value. -/
def value : Reader Node := valueIn maxDepth

/-- What has been read of a document: its entries, and the key of the table
    that the next lines belong to. -/
structure Draft where
  entries : Entries
  header : List String

/-- Read a header behind its brackets. -/
def header (brackets : List Char) (s : List Char) :
    Option ((List String × String) × List Char) := do
  let (names, s) ← key s
  some (names, ← endLine? (← expectAll brackets s))

/-- Read one line of a document that is not blank. -/
def lineOf (draft : Draft) : List Char → Option (Draft × List Char)
  | '[' :: '[' :: s => do
    let ((path, last), s) ← header [']', ']'] s
    some (⟨← append? path last draft.entries, path ++ [last]⟩, s)
  | '[' :: s => do
    let ((path, last), s) ← header [']'] s
    some (⟨← open? path last draft.entries, path ++ [last]⟩, s)
  | s => do
    let ((path, last), s) ← key s
    let (node, s) ← value (skipBlank (← expect '=' s))
    let s ← endLine? s
    some ({ draft with entries := ← putAt? draft.header path last node draft.entries }, s)

/-- Read the lines of a document, with a step of fuel for each. -/
def linesOf : Nat → Draft → List Char → Option Entries
  | 0, _, _ => none
  | fuel + 1, draft, s =>
    let s := skipBlank s
    match s with
    | [] => some draft.entries
    | '#' :: _ => endLine? s >>= linesOf fuel draft
    | _ => match newline? s with
      | some s => linesOf fuel draft s
      | none => do
        let (draft, s) ← lineOf draft s
        linesOf fuel draft s

/-- Read a document. -/
def parse? (s : List Char) : Option Entries :=
  let s := match s with
    | '\uFEFF' :: s => s
    | s => s
  linesOf (s.length + 1) ⟨[], []⟩ s

end Toml

end StreamRoster
