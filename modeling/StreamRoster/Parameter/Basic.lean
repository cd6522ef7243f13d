import StreamRoster.Json.Record
import StreamRoster.Parameter.Value

/-!
# Parameters

A parameter with its description, and its value in both representations: as
it was received, and in engineering units.

## Main definitions

* `Parameter`: A parameter and its description.
* `ParameterValue`: Both representations of a value.
-/

namespace StreamRoster

open Json

/-- A parameter and its description. -/
structure Parameter where
  qualifiedName : String
  shortDescription : Option String
  units : Option String
  deriving DecidableEq, Repr

namespace Parameter

/-- The fields of a parameter met so far. -/
structure Draft where
  qualifiedName : Option String
  shortDescription : Option (Option String)
  units : Option (Option String)

/-- A parameter as a record. -/
def record : Record Draft Parameter where
  name := "struct Parameter"
  fields :=
    [{ key := "qualifiedName"
       isSet := fun d => d.qualifiedName.isSome
       inList := true
       read := fun _ s => do
        let (name, s) ← anyText s
        .ok (fun d => { d with qualifiedName := some name }, s) },
     { key := "shortDescription"
       isSet := fun d => d.shortDescription.isSome
       inList := false
       read := fun _ s => do
        let (text, s) ← nullable anyText s
        .ok (fun d => { d with shortDescription := some text }, s) },
     { key := "units"
       isSet := fun d => d.units.isSome
       inList := false
       read := fun _ s => do
        let (text, s) ← nullable anyText s
        .ok (fun d => { d with units := some text }, s) }]
  start := ⟨none, none, none⟩
  finish d := do
    let qualifiedName ← Record.require "qualifiedName" d.qualifiedName
    .ok { qualifiedName, shortDescription := d.shortDescription.join, units := d.units.join }

/-- Read a parameter. -/
def read : Nat → Reader Parameter := record.read

/-- The JSON text of a parameter. -/
def json (p : Parameter) : List Char :=
  writeObject [("qualifiedName", writeText p.qualifiedName),
    ("shortDescription", writeNullable writeText p.shortDescription),
    ("units", writeNullable writeText p.units)]

end Parameter

/-- Both representations of a value, and when it was generated. -/
structure ParameterValue where
  raw : Value
  engineering : Value
  generationTime : Option Timestamp
  deriving DecidableEq

namespace ParameterValue

/-- The fields of a parameter value met so far. -/
structure Draft where
  raw : Option Value
  engineering : Option Value
  generationTime : Option (Option Timestamp)

/-- A parameter value as a record. -/
def record : Record Draft ParameterValue where
  name := "struct ParameterValue"
  fields :=
    [{ key := "rawValue"
       isSet := fun d => d.raw.isSome
       inList := true
       read := fun room s => do
        let (value, s) ← Value.read room s
        .ok (fun d => { d with raw := some value }, s) },
     { key := "engValue"
       isSet := fun d => d.engineering.isSome
       inList := true
       read := fun room s => do
        let (value, s) ← Value.read room s
        .ok (fun d => { d with engineering := some value }, s) },
     { key := "generationTime"
       isSet := fun d => d.generationTime.isSome
       inList := false
       read := fun _ s => do
        let (time, s) ← nullable Timestamp.readJson s
        .ok (fun d => { d with generationTime := some time }, s) }]
  start := ⟨none, none, none⟩
  finish d := do
    let raw ← Record.require "rawValue" d.raw
    let engineering ← Record.require "engValue" d.engineering
    .ok { raw, engineering, generationTime := d.generationTime.join }

/-- Read a parameter value. -/
def read : Nat → Reader ParameterValue := record.read

/-- The JSON text of a parameter value. -/
def json (v : ParameterValue) : List Char :=
  writeObject [("rawValue", v.raw.json), ("engValue", v.engineering.json),
    ("generationTime", writeNullable Timestamp.json v.generationTime)]

end ParameterValue

end StreamRoster
