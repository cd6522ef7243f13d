import StreamRoster.Domain.MappingTable
import StreamRoster.Text.CodeTable
import StreamRoster.Text.Composed

/-!
# Mapped Names

The form of a domain name in which spellings that mean the same name are
equal: letters in lower case, compatible characters replaced by plain ones,
characters without appearance dropped, and the whole in composed form.

## Main definitions

* `Domain.mapChar?`: What a character becomes, or that no name contains it.
* `Domain.mapName?`: The mapped form of a name.
-/

namespace StreamRoster

namespace Domain

/-- The characters that no name may contain. -/
def refusedRuns : List CodeRun := CodeRun.ofLines refused

/-- The characters that vanish. -/
def ignoredRuns : List CodeRun := CodeRun.ofLines ignored

/-- The characters that are written differently. -/
def mappedEntries : List CodeEntry := CodeEntry.ofLines mapped

/-- What a character becomes, or `none` if no name may contain it. -/
def mapChar? (c : Char) : Option (List Char) :=
  if c.toNat < 0x80 then some [c.toLower]
  else if refusedRuns.any (·.has c) then none
  else if ignoredRuns.any (·.has c) then some []
  else match CodeEntry.find? mappedEntries c with
    | some entry => some (entry.image c)
    | none => some [c]

/-- The mapped form of a name. -/
def mapName? (s : List Char) : Option (List Char) :=
  (s.mapM mapChar?).map fun parts => Text.composedForm parts.flatten

end Domain

end StreamRoster
