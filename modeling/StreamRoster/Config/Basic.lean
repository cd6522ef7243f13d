import StreamRoster.Net.SocketAddress

/-!
# Configuration

What can be configured, and how settings from several places are laid over
each other: each setting on its own, and the upper layer wins.

## Main definitions

* `Config`: A complete configuration.
* `Config.default`: The configuration without any settings.
* `Config.Layer`: Some settings.
* `Config.Layer.over`: A configuration with some settings laid over it.
-/

namespace StreamRoster

/-- How log lines are written. -/
inductive LogFormat where
  | pretty
  | json
  deriving DecidableEq, Repr

/-- The name of a format. -/
def LogFormat.name : LogFormat → String
  | .pretty => "pretty"
  | .json => "json"

/-- The format with a name. -/
def LogFormat.ofName? (name : String) : Option LogFormat :=
  if name = LogFormat.pretty.name then some .pretty
  else if name = LogFormat.json.name then some .json
  else none

/-- A complete configuration. -/
structure Config where
  serverUrl : String
  archiveUrl : String
  inst : String
  key : Option String
  localAddress : SocketAddress
  seedFromArchive : Bool
  eventRoom : Nat
  logLevel : String
  logFormat : LogFormat
  deriving DecidableEq

namespace Config

/-- The configuration without any settings. -/
def default : Config where
  serverUrl := "ws://localhost:8090/api/websocket"
  archiveUrl := "http://localhost:8090"
  inst := "simulator"
  key := none
  localAddress := .ipv4 (Ipv4.ofBytes 127 0 0 1) 8080
  seedFromArchive := true
  eventRoom := 1024
  logLevel := "info"
  logFormat := .pretty

/-- Some settings. -/
structure Layer where
  serverUrl : Option String
  archiveUrl : Option String
  inst : Option String
  key : Option String
  localAddress : Option SocketAddress
  seedFromArchive : Option Bool
  eventRoom : Option Nat
  logLevel : Option String
  logFormat : Option LogFormat
  deriving DecidableEq

/-- A configuration with some settings laid over it. -/
def Layer.over (upper : Layer) (lower : Config) : Config where
  serverUrl := upper.serverUrl.getD lower.serverUrl
  archiveUrl := upper.archiveUrl.getD lower.archiveUrl
  inst := upper.inst.getD lower.inst
  key := upper.key <|> lower.key
  localAddress := upper.localAddress.getD lower.localAddress
  seedFromArchive := upper.seedFromArchive.getD lower.seedFromArchive
  eventRoom := upper.eventRoom.getD lower.eventRoom
  logLevel := upper.logLevel.getD lower.logLevel
  logFormat := upper.logFormat.getD lower.logFormat

end Config

end StreamRoster
