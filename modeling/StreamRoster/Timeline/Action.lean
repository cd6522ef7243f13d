import StreamRoster.Json.Record
import StreamRoster.Json.Variant
import StreamRoster.Time.Json

/-!
# Timeline Actions

What a person does on a timeline with the pointer: where, to which element,
and at which date.

## Main definitions

* `ActionType`: The kind of an action.
* `Action`: An action.
* `Action.read`, `Action.json`: Reading and writing it.
-/

namespace StreamRoster

open Json

/-- The kind of an action. -/
inductive ActionType where
  | click
  | contextMenu
  | grabStart
  | grabMove
  | grabEnd
  | mouseEnter
  | mouseMove
  | mouseLeave
  deriving DecidableEq, Repr

namespace ActionType

/-- The name of a kind in JSON. -/
def name : ActionType → String
  | .click => "click"
  | .contextMenu => "contextmenu"
  | .grabStart => "grabstart"
  | .grabMove => "grabmove"
  | .grabEnd => "grabend"
  | .mouseEnter => "mouseenter"
  | .mouseMove => "mousemove"
  | .mouseLeave => "mouseleave"

/-- Every kind. -/
def all : List ActionType :=
  [.click, .contextMenu, .grabStart, .grabMove, .grabEnd, .mouseEnter, .mouseMove, .mouseLeave]

/-- The kinds by name. -/
def names : List (String × ActionType) := all.map fun t => (t.name, t)

/-- Whether an action of this kind belongs to a grab gesture. -/
def isGrab : ActionType → Bool
  | .grabStart | .grabMove | .grabEnd => true
  | _ => false

/-- Read a kind. -/
def read (room : Nat) : Reader ActionType := variant names room

/-- The JSON text of a kind. -/
def json (t : ActionType) : List Char := writeText t.name

end ActionType

/-- An action on a timeline. -/
structure Action where
  kind : ActionType
  /-- The element the action happened on. -/
  target : Option String
  clientX : Double
  clientY : Double
  /-- Whether a grab gesture is under way. -/
  grabbing : Bool
  /-- The date under the pointer. -/
  date : Option Timestamp
  deriving DecidableEq

namespace Action

/-- An action at a place, with nothing else known about it. -/
def atPlace (kind : ActionType) (clientX clientY : Double) : Action :=
  { kind, target := none, clientX, clientY, grabbing := false, date := none }

/-- Whether two actions agree in every part, the places as numbers. -/
def agrees (a b : Action) : Bool :=
  a.kind = b.kind && a.target = b.target && a.clientX.sameNumber b.clientX
    && a.clientY.sameNumber b.clientY && a.grabbing = b.grabbing && a.date = b.date

/-- The fields of an action met so far. -/
structure Draft where
  kind : Option ActionType
  target : Option (Option String)
  clientX : Option Double
  clientY : Option Double
  grabbing : Option Bool
  date : Option (Option Timestamp)

/-- An action as a record. -/
def record : Record Draft Action where
  name := "struct Action"
  fields :=
    [{ key := "type"
       isSet := fun d => d.kind.isSome
       inList := true
       read := fun room s => do
        let (kind, s) ← ActionType.read room s
        .ok (fun d => { d with kind := some kind }, s) },
     { key := "target"
       isSet := fun d => d.target.isSome
       inList := false
       read := fun _ s => do
        let (target, s) ← nullable anyText s
        .ok (fun d => { d with target := some target }, s) },
     { key := "clientX"
       isSet := fun d => d.clientX.isSome
       inList := true
       read := fun _ s => do
        let (x, s) ← double s
        .ok (fun d => { d with clientX := some x }, s) },
     { key := "clientY"
       isSet := fun d => d.clientY.isSome
       inList := true
       read := fun _ s => do
        let (y, s) ← double s
        .ok (fun d => { d with clientY := some y }, s) },
     { key := "grabbing"
       isSet := fun d => d.grabbing.isSome
       inList := true
       read := fun _ s => do
        let (grabbing, s) ← boolean s
        .ok (fun d => { d with grabbing := some grabbing }, s) },
     { key := "date"
       isSet := fun d => d.date.isSome
       inList := false
       read := fun _ s => do
        let (date, s) ← nullable Timestamp.readJson s
        .ok (fun d => { d with date := some date }, s) }]
  start := ⟨none, none, none, none, none, none⟩
  finish d := do
    let kind ← Record.require "type" d.kind
    let clientX ← Record.require "clientX" d.clientX
    let clientY ← Record.require "clientY" d.clientY
    let grabbing ← Record.require "grabbing" d.grabbing
    .ok { kind, target := d.target.join, clientX, clientY, grabbing, date := d.date.join }

/-- Read an action. -/
def read : Nat → Reader Action := record.read

/-- A member that is left out when there is no value for it. -/
def optionalMember (key : String) (write : α → List Char) : Option α → List (String × List Char)
  | none => []
  | some a => [(key, write a)]

/-- The JSON text of an action. -/
def json (a : Action) : List Char :=
  writeObject ([("type", a.kind.json)] ++ optionalMember "target" writeText a.target
    ++ [("clientX", writeDouble a.clientX), ("clientY", writeDouble a.clientY),
      ("grabbing", writeBool a.grabbing)] ++ optionalMember "date" Timestamp.json a.date)

end Action

end StreamRoster
