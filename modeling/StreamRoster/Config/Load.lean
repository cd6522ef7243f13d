import StreamRoster.Config.File
import StreamRoster.Number.Unsigned
import StreamRoster.Text.Blank
import StreamRoster.Url.Validation

/-!
# Loading a Configuration

A configuration comes from a file over which the settings in the environment
are laid, and it is checked as a whole at the end. So a setting in the file
that would be refused does no harm if the environment replaces it.

## Main definitions

* `Config.Fault`: Why there is no configuration.
* `Config.Layer.ofEnvironment`: The settings in the environment.
* `Config.validate`: Checks a configuration.
* `Config.load`: Loads a configuration.
-/

namespace StreamRoster

namespace Config

/-- The variables of an environment. -/
abbrev Environment := String → Option String

/-- Why the text of a file cannot be had. -/
inductive ReadFault where
  | isDirectory
  /-- The system reports another error. -/
  | system (error : String)
  | notText
  deriving DecidableEq, Repr

/-- The wording of a read fault. -/
def ReadFault.message : ReadFault → String
  | .isDirectory => "Is a directory (os error 21)"
  | .system error => error
  | .notText => "stream did not contain valid UTF-8"

/-- Why there is no configuration. -/
inductive Fault where
  | unreadable (path : String) (fault : ReadFault)
  | malformed (path : String)
  | address
  | boolean
  | size (fault : Unsigned.Fault)
  | format (name : String)
  | serverUrl (rejection : Url.Rejection)
  | archiveUrl (rejection : Url.Rejection)
  | noInstance
  | noRoom
  deriving DecidableEq, Repr

/-- The wording of a fault. -/
def Fault.message : Fault → String
  | .unreadable path _ => "Failed to read " ++ path
  | .malformed path => "Failed to parse " ++ path
  | .address => "invalid socket address syntax"
  | .boolean => "provided string was not \x60true\x60 or \x60false\x60"
  | .size fault => fault.message
  | .format name => "Unknown log format: " ++ name ++ " (expected pretty or json)"
  | .serverUrl _ => "Invalid server_url"
  | .archiveUrl _ => "Invalid api_base_url"
  | .noInstance => "instance must not be empty"
  | .noRoom => "event_buffer must be greater than zero"

/-- What lies behind a fault, outermost first. What is wrong with a malformed
    file is not told. -/
def Fault.causes : Fault → List String
  | .unreadable _ fault => [fault.message]
  | .serverUrl rejection | .archiveUrl rejection => rejection.message :: rejection.causes
  | _ => []

/-- The variable that names the file. -/
def pathVariable : String := "STREAMMON_CONFIG"

/-- The file that is read unless another one is named. -/
def defaultPath : String := "config.toml"

/-- The settings in a file. Without the file there are none, but a file that is
    there has to be readable. -/
def Layer.ofFile (path : String) : FileState → Except Fault (Option Layer)
  | .absent => .ok none
  | .directory => .error (.unreadable path .isDirectory)
  | .locked error => .error (.unreadable path (.system error))
  | .file bytes => match Text.ofUtf8? bytes with
    | none => .error (.unreadable path .notText)
    | some text => match Layer.ofText? text with
      | none => .error (.malformed path)
      | some layer => .ok (some layer)

/-- The truth value of a text. -/
def readBoolean (s : String) : Except Fault Bool :=
  if s = "true" then .ok true else if s = "false" then .ok false else .error .boolean

/-- The address with a port of a text. -/
def readAddress (s : String) : Except Fault SocketAddress :=
  match SocketAddress.read? s.toList with
  | some a => .ok a
  | none => .error .address

/-- The size of a text. -/
def readSize (s : String) : Except Fault Nat :=
  match Unsigned.read 0x10000000000000000 s.toList with
  | .ok n => .ok n
  | .error fault => .error (.size fault)

/-- The format with a name in any case. -/
def readFormat (s : String) : Except Fault LogFormat :=
  let name := String.ofList (s.toList.map Char.toLower)
  match LogFormat.ofName? name with
  | some format => .ok format
  | none => .error (.format name)

/-- Read a variable if it is set. -/
def readVariable (env : Environment) (name : String) (read : String → Except Fault α) :
    Except Fault (Option α) :=
  match env name with
  | none => .ok none
  | some s => (read s).map some

/-- The settings in the environment. -/
def Layer.ofEnvironment (env : Environment) : Except Fault Layer := do
  let localAddress ← readVariable env "STREAMMON_LOCAL_API_BIND" readAddress
  let seedFromArchive ← readVariable env "STREAMMON_SEED_FROM_ARCHIVE" readBoolean
  let eventRoom ← readVariable env "STREAMMON_EVENT_BUFFER" readSize
  let logFormat ← readVariable env "STREAMMON_LOG_FORMAT" readFormat
  .ok {
    serverUrl := env "STREAMMON_SERVER_URL"
    archiveUrl := env "STREAMMON_API_BASE_URL"
    inst := env "STREAMMON_INSTANCE"
    key := env "STREAMMON_API_KEY"
    localAddress
    seedFromArchive
    eventRoom
    logLevel := env "STREAMMON_LOG_LEVEL"
    logFormat }

/-- Check a configuration. -/
def validate (c : Config) : Except Fault Unit :=
  match Url.validate .feed c.serverUrl.toList with
  | .error rejection => .error (.serverUrl rejection)
  | .ok _ => match Url.validate .requests c.archiveUrl.toList with
    | .error rejection => .error (.archiveUrl rejection)
    | .ok _ =>
      if (Text.trim c.inst.toList).isEmpty then .error .noInstance
      else if c.eventRoom = 0 then .error .noRoom
      else .ok ()

/-- Load a configuration, where `files` tells what each path leads to. -/
def load (env : Environment) (files : String → FileState) : Except Fault Config := do
  let path := (env pathVariable).getD defaultPath
  let lower := match ← Layer.ofFile path (files path) with
    | some layer => layer.over default
    | none => default
  let config := (← Layer.ofEnvironment env).over lower
  validate config
  .ok config

end Config

end StreamRoster
