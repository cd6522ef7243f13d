import StreamRoster.Config.Basic
import StreamRoster.Text.Utf8
import StreamRoster.Toml.Document

/-!
# Configuration Files

The settings in a TOML document. An entry that is no setting is passed over;
a setting of the wrong type makes the whole document unusable.

## Main definitions

* `Config.FileState`: What a path leads to.
* `Config.Layer.ofEntries?`: The settings in the entries of a document.
* `Config.Layer.ofText?`: The settings in the text of a document.
-/

namespace StreamRoster

namespace Config

/-- What a path leads to. -/
inductive FileState where
  /-- Nothing, or nothing that can be looked at from here. -/
  | absent
  | directory
  /-- A file that is there and that the system does not let be read, such as one
      without the permission. It says why in a text. -/
  | locked (error : String)
  | file (bytes : List UInt8)
  deriving DecidableEq, Repr

/-- The setting under a key, if there is one: `some none` if there is none, and
    `none` if its value is not readable. -/
def setting? (entries : Toml.Entries) (key : String) (read : Toml.Node → Option α) :
    Option (Option α) :=
  match Toml.get? key entries with
  | none => some none
  | some node => (read node).map some

/-- A text. -/
def asText? : Toml.Node → Option String
  | .text s => some s
  | _ => none

/-- A truth value. -/
def asBoolean? : Toml.Node → Option Bool
  | .boolean b => some b
  | _ => none

/-- An integer that is not negative. -/
def asSize? : Toml.Node → Option Nat
  | .integer (.ofNat n) => some n
  | _ => none

/-- The text of an address with a port. -/
def asAddress? (node : Toml.Node) : Option SocketAddress := do
  SocketAddress.read? (← asText? node).toList

/-- Whether a value is empty. -/
def isEmptyNode : Toml.Node → Bool
  | .array [] | .inlined [] | .table _ [] => true
  | _ => false

/-- The name of a format, or a table whose only entry has that name and is
    empty. -/
def asFormat? : Toml.Node → Option LogFormat
  | .text s => LogFormat.ofName? s
  | .inlined [(name, node)] | .table _ [(name, node)] =>
    if isEmptyNode node then LogFormat.ofName? name else none
  | _ => none

/-- The settings in the entries of a document. -/
def Layer.ofEntries? (entries : Toml.Entries) : Option Layer := do
  some {
    serverUrl := ← setting? entries "server_url" asText?
    archiveUrl := ← setting? entries "api_base_url" asText?
    inst := ← setting? entries "instance" asText?
    key := ← setting? entries "api_key" asText?
    localAddress := ← setting? entries "local_api_bind" asAddress?
    seedFromArchive := ← setting? entries "seed_from_archive" asBoolean?
    eventRoom := ← setting? entries "event_buffer" asSize?
    logLevel := ← setting? entries "log_level" asText?
    logFormat := ← setting? entries "log_format" asFormat? }

/-- The settings in the text of a document. -/
def Layer.ofText? (s : List Char) : Option Layer := Toml.parse? s >>= Layer.ofEntries?

end Config

end StreamRoster
