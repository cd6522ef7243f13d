import StreamRoster.Config.File
import StreamRoster.Text.Split

/-!
# Directories

The files that relative paths are looked up in. A path may contain single
dots and repeated slashes, and one that ends in a slash leads to a directory
or nowhere. What lies outside of the directory is not known, except that it
is a directory itself.

## Main definitions

* `Config.Directory`: The files of a directory by their paths.
* `Config.Directory.find`: What a path leads to.
-/

namespace StreamRoster

namespace Config

/-- The files of a directory by their paths. -/
structure Directory where
  files : List (String × List UInt8)
  deriving Repr

namespace Directory

/-- The parts of a path between its slashes. -/
def parts (path : String) : List (List Char) := Text.split (· = '/') path.toList

/-- The names in the parts of a path. -/
def names (parts : List (List Char)) : List (List Char) :=
  parts.filter fun part => !part.isEmpty && part ≠ ['.']

/-- Whether a path leads to a directory or nowhere. -/
def wantsDirectory (parts : List (List Char)) : Bool :=
  match parts.getLast? with
  | some part => part.isEmpty || part = ['.']
  | none => false

/-- What a path leads to. -/
def find (d : Directory) (path : String) : FileState :=
  let all := parts path
  let wanted := names all
  if path.isEmpty then .absent
  else if wanted.all (· = ['.', '.']) then .directory
  else if all.head? = some [] then .absent
  else match d.files.find? fun file => names (parts file.1) = wanted with
    | some file => if wantsDirectory all then .absent else .file file.2
    | none =>
      if d.files.any fun file => wanted.isPrefixOf (names (parts file.1)) then .directory
      else .absent

end Directory

end Config

end StreamRoster
