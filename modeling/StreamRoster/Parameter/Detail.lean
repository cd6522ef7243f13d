import StreamRoster.Log.Line
import StreamRoster.Parameter.Basic
import StreamRoster.Roster.Publication

/-!
# Parameter Details

The panel that shows one parameter: its definition, its current value, and a
toggle between the raw and the engineering representation.

The panel publishes the chosen representation of the current value whenever
a value arrives or the toggle is set. Before the first value there is
nothing to publish. The toggle is published by every setting of it, also
one that changes nothing.

## Main definitions

* `Detail`: The state of the panel.
* `Detail.setValue`, `Detail.choose`: What changes what is published.
* `Detail.Step`: What can happen to a panel.
* `Detail.run`: The panel after several steps.
-/

namespace StreamRoster

/-- The state of the panel of one parameter. -/
structure Detail where
  parameter : Option Parameter
  current : Option ParameterValue
  showRaw : Publication Bool
  value : Publication (Option Value)
  deriving DecidableEq

namespace Detail

/-- A panel without a value, showing engineering units. -/
def start (parameter : Option Parameter) : Detail :=
  { parameter, current := none, showRaw := .start false, value := .start none }

/-- The representation that the toggle chooses. -/
def chosen (raw : Bool) (v : ParameterValue) : Value := if raw then v.raw else v.engineering

/-- Publish the chosen representation of the current value, if there is one. -/
def republish (d : Detail) : Detail :=
  match d.current with
  | none => d
  | some v => { d with value := d.value.publish (some (chosen d.showRaw.value v)) }

/-- Replace the definition of the parameter. -/
def setParameter (d : Detail) (p : Parameter) : Detail := { d with parameter := some p }

/-- Store a new current value and publish it. -/
def setValue (d : Detail) (v : ParameterValue) : Detail :=
  republish { d with current := some v }

/-- Choose a representation and publish the current value in it. -/
def choose (d : Detail) (raw : Bool) : Detail :=
  republish { d with showRaw := d.showRaw.publish raw }

/-- What republishing reports. -/
def notices (d : Detail) : List Log.Line :=
  if d.current.isSome then [.debug "Publishing parameter value"] else []

/-- What can happen to a panel. A parameter or a value may come as a text. -/
inductive Step where
  | parameter (p : Parameter)
  | value (v : ParameterValue)
  | parameterText (text : String)
  | valueText (text : String)
  | choose (raw : Bool)

/-- The panel after a step. A text that cannot be read changes nothing. -/
def step (d : Detail) : Step → Detail
  | .parameter p => d.setParameter p
  | .value v => d.setValue v
  | .parameterText text =>
    match Json.readAll (Parameter.read Json.topRoom) text with
    | .ok p => d.setParameter p
    | .error _ => d
  | .valueText text =>
    match Json.readAll (ParameterValue.read Json.topRoom) text with
    | .ok v => d.setValue v
    | .error _ => d
  | .choose raw => d.choose raw

/-- The panel after several steps. -/
def run (d : Detail) (steps : List Step) : Detail := steps.foldl step d

end Detail

end StreamRoster
