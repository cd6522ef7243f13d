/-!
# TOML Documents

The tree that a TOML document stands for. Besides its entries a table knows
how it came about, because a table is defined only once: it is named by a
header, or it exists only because a header or a dotted key goes through it.

## Main definitions

* `Toml.Origin`: How a table came about.
* `Toml.Node`: A value, a table or an array of tables.
* `Toml.get?`: Looks up an entry of a table.
* `Toml.set`: Replaces or adds an entry of a table.
* `Toml.put?`: Adds an entry under a dotted key.
* `Toml.open?`, `Toml.append?`: Carry out the header of a table and of an
  element of an array of tables.
* `Toml.putAt?`: Adds an entry to the table of a header.
-/

namespace StreamRoster

namespace Toml

/-- How a table came about. -/
inductive Origin where
  | header
  | implied
  | dotted
  deriving DecidableEq, Repr

/-- A value, a table or an array of tables. Of numbers with a fraction and of
    dates only the spelling is kept. -/
inductive Node where
  | text (value : String)
  | integer (value : Int)
  | real (spelling : List Char)
  | boolean (value : Bool)
  | moment (spelling : List Char)
  | array (items : List Node)
  | inlined (entries : List (String × Node))
  | table (origin : Origin) (entries : List (String × Node))
  | tables (elements : List (List (String × Node)))

/-- The entries of a table in order. -/
abbrev Entries := List (String × Node)

/-- The entry under a key. -/
def get? (key : String) : Entries → Option Node
  | [] => none
  | (k, node) :: entries => if k = key then some node else get? key entries

/-- Replace the entry under a key, or add it behind the others. -/
def set (key : String) (node : Node) : Entries → Entries
  | [] => [(key, node)]
  | (k, old) :: entries =>
    if k = key then (k, node) :: entries else (k, old) :: set key node entries

/-- Change the table that a path leads to. Tables that are missing are made,
    and of an array of tables the last element is taken. A dotted key does not
    lead through a table with a header of its own. -/
def descend? (dotted : Bool) (change : Origin → Entries → Option Entries) :
    List String → Origin → Entries → Option Entries
  | [], origin, entries => change origin entries
  | key :: path, _, entries =>
    match get? key entries with
    | none => do
      let origin := if dotted then Origin.dotted else Origin.implied
      let inner ← descend? dotted change path origin []
      some (set key (.table origin inner) entries)
    | some (.table origin inner) =>
      if dotted && origin = .header then none
      else do
        let inner ← descend? dotted change path origin inner
        some (set key (.table origin inner) entries)
    | some (.tables elements) => do
      let last ← elements.getLast?
      let last ← descend? dotted change path .header last
      some (set key (.tables (elements.dropLast ++ [last])) entries)
    | some _ => none

/-- Add an entry under a dotted key: the tables on the way and the last part.
    A key without dots belongs into a table that no dotted key made, a key
    with dots into one that a dotted key made, and each key is used once. -/
def put? (path : List String) (key : String) (node : Node) (origin : Origin) (entries : Entries) :
    Option Entries :=
  descend? true (fun origin entries =>
    if decide (origin = .dotted) = path.isEmpty then none
    else match get? key entries with
      | some _ => none
      | none => some (entries ++ [(key, node)])) path origin entries

/-- Carry out the header of a table: the tables on the way and the last part.
    The table is a new one, or one that exists only because a header went
    through it. -/
def open? (path : List String) (key : String) (root : Entries) : Option Entries :=
  descend? false (fun _ entries =>
    match get? key entries with
    | none => some (entries ++ [(key, .table .header [])])
    | some (.table .implied inner) => some (set key (.table .header inner) entries)
    | some _ => none) path .header root

/-- Carry out the header of an element of an array of tables. -/
def append? (path : List String) (key : String) (root : Entries) : Option Entries :=
  descend? false (fun _ entries =>
    match get? key entries with
    | none => some (entries ++ [(key, .tables [[]])])
    | some (.tables elements) => some (set key (.tables (elements ++ [[]])) entries)
    | some _ => none) path .header root

/-- Add an entry to the table that a header names. -/
def putAt? (header path : List String) (key : String) (node : Node) (root : Entries) :
    Option Entries :=
  descend? false (put? path key node) header .header root

end Toml

end StreamRoster
