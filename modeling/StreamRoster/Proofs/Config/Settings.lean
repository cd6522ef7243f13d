import Mathlib.Tactic.Choose
import StreamRoster.Config.Load
import StreamRoster.Proofs.Json.Conversion

/-!
# Settings

What can be set, as a table.

A configuration is loaded layer by layer: all settings of the file, all settings
of the environment, one laid over the other. Here it is taken setting by setting.
Each has a variable, a key and a place in the configuration, and `Setting.value?`
says what it is set to, by its own variable, or else under its own key, or else
by default. What other settings are set to does not occur in that.

That the two agree is said about each layer on its own. A layer of the file holds
of each setting what stands under its key, and there is one if all of these are
readable (`Layer.ofEntries?_cases`). A layer of the environment holds what each
variable says (`Layer.ofEnvironment_cases`). Laid over a configuration, a layer
hides just the settings it has (`Setting.get_over`).

Only some settings have texts that are refused (`Setting.parsed`), and only some
have values that are (`Setting.checked`). The order of the two lists is the one in
which faults are looked for.

## Main definitions

* `Setting`: What can be set.
* `Setting.variableName`, `Setting.entryKey`: Where it is set.
* `Setting.ofText`, `Setting.ofNode?`: How it is read there.
* `Setting.get`: Its place in a configuration.
* `Setting.fileValue?`, `Setting.value?`: What it is set to.
* `Setting.variableFault?`, `Setting.valueFault?`: Why it is refused.

## Theorems

* `Setting.ext`: A configuration is made up of its settings.
* `Setting.get_over`: What a layer hides.
* `Setting.value?_eq`: What the two layers make of a setting.
* `Layer.fromEntries_of_some`: The settings in a file.
* `Layer.exists_of_fileValue?`: A file with readable settings.
* `Layer.ofEntries?_cases`: A file is a layer, or not readable.
* `Layer.ofEnvironment_cases`: The settings in the environment.
* `validate_eq_findSome?`: What is checked of a configuration.
-/

namespace StreamRoster

open Json (ok_bind)

namespace Config

/-- What can be set. -/
inductive Setting where
  | serverUrl
  | archiveUrl
  | inst
  | key
  | localAddress
  | seedFromArchive
  | eventRoom
  | logLevel
  | logFormat
  deriving DecidableEq, Repr

namespace Setting

/-- What a setting is set to. -/
def Value : Setting → Type
  | serverUrl | archiveUrl | inst | logLevel => String
  | key => Option String
  | localAddress => SocketAddress
  | seedFromArchive => Bool
  | eventRoom => Nat
  | logFormat => LogFormat

/-- The variable of a setting. -/
def variableName : Setting → String
  | serverUrl => "STREAMMON_SERVER_URL"
  | archiveUrl => "STREAMMON_API_BASE_URL"
  | inst => "STREAMMON_INSTANCE"
  | key => "STREAMMON_API_KEY"
  | localAddress => "STREAMMON_LOCAL_API_BIND"
  | seedFromArchive => "STREAMMON_SEED_FROM_ARCHIVE"
  | eventRoom => "STREAMMON_EVENT_BUFFER"
  | logLevel => "STREAMMON_LOG_LEVEL"
  | logFormat => "STREAMMON_LOG_FORMAT"

/-- The key of a setting in a file. -/
def entryKey : Setting → String
  | serverUrl => "server_url"
  | archiveUrl => "api_base_url"
  | inst => "instance"
  | key => "api_key"
  | localAddress => "local_api_bind"
  | seedFromArchive => "seed_from_archive"
  | eventRoom => "event_buffer"
  | logLevel => "log_level"
  | logFormat => "log_format"

/-- The value in the text of a variable. -/
def ofText : (s : Setting) → String → Except Fault s.Value
  | serverUrl, text | archiveUrl, text | inst, text | logLevel, text => .ok text
  | key, text => .ok (some text)
  | localAddress, text => readAddress text
  | seedFromArchive, text => readBoolean text
  | eventRoom, text => readSize text
  | logFormat, text => readFormat text

/-- The value of an entry in a file. -/
def ofNode? : (s : Setting) → Toml.Node → Option s.Value
  | serverUrl, node | archiveUrl, node | inst, node | logLevel, node => asText? node
  | key, node => (asText? node).map some
  | localAddress, node => asAddress? node
  | seedFromArchive, node => asBoolean? node
  | eventRoom, node => asSize? node
  | logFormat, node => asFormat? node

/-- The value in a configuration. -/
def get : (s : Setting) → Config → s.Value
  | serverUrl, c => c.serverUrl
  | archiveUrl, c => c.archiveUrl
  | inst, c => c.inst
  | key, c => c.key
  | localAddress, c => c.localAddress
  | seedFromArchive, c => c.seedFromArchive
  | eventRoom, c => c.eventRoom
  | logLevel, c => c.logLevel
  | logFormat, c => c.logFormat

/-- What a setting is set to in a file, or else by default. -/
def fileValue? (s : Setting) (entries : Toml.Entries) : Option s.Value :=
  match Toml.get? s.entryKey entries with
  | some node => s.ofNode? node
  | none => some (s.get Config.default)

/-- What a setting is set to: by its variable, or else in the file, or else by
    default. -/
def value? (s : Setting) (env : Environment) (entries : Toml.Entries) : Option s.Value :=
  match env s.variableName with
  | some text => (s.ofText text).toOption
  | none => s.fileValue? entries

/-- Why the variable of a setting is refused. -/
def variableFault? (env : Environment) (s : Setting) : Option Fault :=
  match env s.variableName with
  | none => none
  | some text => match s.ofText text with
    | .ok _ => none
    | .error fault => some fault

/-- Why a value is refused. -/
def refusal? : (s : Setting) → s.Value → Option Fault
  | serverUrl, (url : String) => match Url.validate .feed url.toList with
    | .ok _ => none
    | .error rejection => some (.serverUrl rejection)
  | archiveUrl, (url : String) => match Url.validate .requests url.toList with
    | .ok _ => none
    | .error rejection => some (.archiveUrl rejection)
  | inst, (name : String) => if (Text.trim name.toList).isEmpty then some .noInstance else none
  | eventRoom, (room : Nat) => if room = 0 then some .noRoom else none
  | _, _ => none

/-- Why what a setting is set to is refused. -/
def valueFault? (env : Environment) (entries : Toml.Entries) (s : Setting) : Option Fault :=
  (s.value? env entries).bind s.refusal?

/-- All settings. -/
def all : List Setting :=
  [serverUrl, archiveUrl, inst, key, localAddress, seedFromArchive, eventRoom, logLevel, logFormat]

/-- The settings with texts that are refused, in the order of looking. -/
def parsed : List Setting := [localAddress, seedFromArchive, eventRoom, logFormat]

/-- The settings with values that are refused, in the order of looking. -/
def checked : List Setting := [serverUrl, archiveUrl, inst, eventRoom]

/-- A configuration is made up of its settings. -/
theorem ext (c d : Config) (h : ∀ s : Setting, s.get c = s.get d) : c = d := by
  rcases c with ⟨⟩
  rcases d with ⟨⟩
  exact (Config.mk.injEq ..).mpr ⟨h serverUrl, h archiveUrl, h inst, h key, h localAddress,
    h seedFromArchive, h eventRoom, h logLevel, h logFormat⟩

/-! ### Layers -/

/-- The value in a layer. -/
def inLayer : (s : Setting) → Layer → Option s.Value
  | serverUrl, layer => layer.serverUrl
  | archiveUrl, layer => layer.archiveUrl
  | inst, layer => layer.inst
  | key, layer => layer.key.map some
  | localAddress, layer => layer.localAddress
  | seedFromArchive, layer => layer.seedFromArchive
  | eventRoom, layer => layer.eventRoom
  | logLevel, layer => layer.logLevel
  | logFormat, layer => layer.logFormat

/-- A layer hides the settings it has, and no others. -/
theorem get_over (s : Setting) (upper : Layer) (lower : Config) :
    s.get (upper.over lower) = (s.inLayer upper).getD (s.get lower) := by
  cases s with
  | key => cases hkey : upper.key <;> simp only [get, inLayer, Layer.over, hkey] <;> rfl
  | serverUrl | archiveUrl | inst | localAddress | seedFromArchive | eventRoom | logLevel
  | logFormat => rfl

/-- The value under the key of a setting. -/
def fromEntries (entries : Toml.Entries) (s : Setting) : Option (Option s.Value) :=
  setting? entries s.entryKey s.ofNode?

/-- A setting has a value in a file if there is none under its key or a readable
    one. -/
theorem fileValue?_eq (s : Setting) (entries : Toml.Entries) :
    s.fileValue? entries = (s.fromEntries entries).map fun value => value.getD (s.get default) := by
  rw [fileValue?, fromEntries, setting?]
  cases Toml.get? s.entryKey entries with
  | none => rfl
  | some node =>
      dsimp only
      cases s.ofNode? node <;> rfl

theorem fromEntries_key (entries : Toml.Entries) :
    key.fromEntries entries = (setting? entries "api_key" asText?).map (Option.map some) := by
  have hkey : key.entryKey = "api_key" := rfl
  rw [fromEntries, setting?, setting?, hkey]
  cases Toml.get? "api_key" entries with
  | none => rfl
  | some node =>
      dsimp only [ofNode?]
      cases asText? node <;> rfl

/-- The value that the variable of a setting has. -/
def fromVariable (env : Environment) (s : Setting) : Except Fault (Option s.Value) :=
  readVariable env s.variableName s.ofText

theorem variableFault?_eq (env : Environment) (s : Setting) :
    s.variableFault? env = match s.fromVariable env with
      | .ok _ => none
      | .error fault => some fault := by
  rw [variableFault?, fromVariable, readVariable]
  cases env s.variableName with
  | none => rfl
  | some text =>
      dsimp only
      cases s.ofText text <;> rfl

theorem variableFault?_of_ok (env : Environment) (s : Setting) (value : Option s.Value)
    (h : s.fromVariable env = .ok value) : s.variableFault? env = none := by
  rw [variableFault?_eq, h]

theorem variableFault?_of_error (env : Environment) (s : Setting) (fault : Fault)
    (h : s.fromVariable env = .error fault) : s.variableFault? env = some fault := by
  rw [variableFault?_eq, h]

/-- A variable that is set hides what the file says, and no other does. -/
theorem value?_eq (s : Setting) (env : Environment) (entries : Toml.Entries)
    (upper : Option s.Value) (lower : s.Value) (hupper : s.fromVariable env = .ok upper)
    (hlower : s.fileValue? entries = some lower) :
    s.value? env entries = some (upper.getD lower) := by
  rw [fromVariable, readVariable] at hupper
  rw [value?]
  cases hset : env s.variableName with
  | none =>
      rw [hset] at hupper
      rcases Except.ok.inj hupper with rfl
      exact hlower
  | some text =>
      rw [hset] at hupper
      dsimp only at hupper ⊢
      cases htext : s.ofText text with
      | error fault =>
          rw [htext] at hupper
          cases hupper
      | ok value =>
          rw [htext] at hupper
          rcases Except.ok.inj hupper with rfl
          rfl

end Setting

/-- The settings in a readable file. -/
theorem Layer.fromEntries_of_some (entries : Toml.Entries) (layer : Layer)
    (h : Layer.ofEntries? entries = some layer) (s : Setting) :
    s.fromEntries entries = some (s.inLayer layer) := by
  simp only [Layer.ofEntries?, bind, Option.bind_eq_some_iff, Option.some.injEq] at h
  rcases h with ⟨_, hserver, _, harchive, _, hinst, _, hkey, _, haddress, _, hseed, _, hroom, _,
    hlevel, _, hformat, rfl⟩
  cases s with
  | serverUrl => exact hserver
  | archiveUrl => exact harchive
  | inst => exact hinst
  | key =>
      rw [Setting.fromEntries_key, hkey]
      rfl
  | localAddress => exact haddress
  | seedFromArchive => exact hseed
  | eventRoom => exact hroom
  | logLevel => exact hlevel
  | logFormat => exact hformat

/-- A file in which each setting is readable has a layer. -/
theorem Layer.exists_of_fileValue? (entries : Toml.Entries)
    (h : ∀ s : Setting, (s.fileValue? entries).isSome = true) :
    ∃ layer, Layer.ofEntries? entries = some layer := by
  have hall (s : Setting) : ∃ value, s.fromEntries entries = some value := by
    have hs := h s
    rw [Setting.fileValue?_eq, Option.isSome_map] at hs
    exact Option.isSome_iff_exists.mp hs
  choose value hvalue using hall
  -- The layer holds what was chosen, except that a key is stored without its option.
  have hserver : setting? entries "server_url" asText? = some _ := hvalue .serverUrl
  have harchive : setting? entries "api_base_url" asText? = some _ := hvalue .archiveUrl
  have hinst : setting? entries "instance" asText? = some _ := hvalue .inst
  have haddress : setting? entries "local_api_bind" asAddress? = some _ := hvalue .localAddress
  have hseed : setting? entries "seed_from_archive" asBoolean? = some _ := hvalue .seedFromArchive
  have hroom : setting? entries "event_buffer" asSize? = some _ := hvalue .eventRoom
  have hlevel : setting? entries "log_level" asText? = some _ := hvalue .logLevel
  have hformat : setting? entries "log_format" asFormat? = some _ := hvalue .logFormat
  rcases Option.map_eq_some_iff.mp ((Setting.fromEntries_key entries).symm.trans (hvalue .key))
    with ⟨key, hkey, _⟩
  refine ⟨⟨value .serverUrl, value .archiveUrl, value .inst, key, value .localAddress,
    value .seedFromArchive, value .eventRoom, value .logLevel, value .logFormat⟩, ?_⟩
  simp only [Layer.ofEntries?, hserver, harchive, hinst, hkey, haddress, hseed, hroom, hlevel,
    hformat]
  rfl

/-- The settings in a file: a layer that makes each setting what it is set to in
    the file, unless one of them is not readable. -/
theorem Layer.ofEntries?_cases (entries : Toml.Entries) :
    (∃ layer, Layer.ofEntries? entries = some layer ∧
      ∀ s : Setting, s.fileValue? entries = some (s.get (layer.over default))) ∨
    (Layer.ofEntries? entries = none ∧ ¬∀ s : Setting, (s.fileValue? entries).isSome = true) := by
  cases hentries : Layer.ofEntries? entries with
  | some layer =>
      refine Or.inl ⟨layer, rfl, fun s => ?_⟩
      rw [s.fileValue?_eq, fromEntries_of_some entries layer hentries s, s.get_over]
      rfl
  | none =>
      refine Or.inr ⟨rfl, fun hreadable => ?_⟩
      rcases exists_of_fileValue? entries hreadable with ⟨layer, hsome⟩
      rw [hentries] at hsome
      cases hsome

/-- A variable that is taken as it is. -/
theorem readVariable_ok {α : Type} (env : Environment) (name : String) (f : String → α) :
    readVariable env name (fun text => .ok (f text)) = .ok ((env name).map f) := by
  rw [readVariable]
  cases env name <;> rfl

/-- The settings in the environment: a layer that has of each setting what its
    variable says, or the first fault there is with one of them. -/
theorem Layer.ofEnvironment_cases (env : Environment) :
    (∃ layer, Layer.ofEnvironment env = .ok layer ∧
      (∀ s : Setting, s.fromVariable env = .ok (s.inLayer layer)) ∧
      ∀ s ∈ Setting.parsed, s.variableFault? env = none) ∨
    ∃ fault, Layer.ofEnvironment env = .error fault ∧
      Setting.parsed.findSome? (Setting.variableFault? env) = some fault := by
  unfold Layer.ofEnvironment
  simp only [Setting.parsed, List.findSome?_cons, List.forall_mem_cons]
  -- One variable after the other: its fault is the first one, or it has none.
  cases ha : readVariable env "STREAMMON_LOCAL_API_BIND" readAddress with
  | error fault =>
      rw [Setting.variableFault?_of_error env .localAddress fault ha]
      exact Or.inr ⟨fault, rfl, rfl⟩
  | ok address =>
  rw [Setting.variableFault?_of_ok env .localAddress address ha, ok_bind]
  cases hb : readVariable env "STREAMMON_SEED_FROM_ARCHIVE" readBoolean with
  | error fault =>
      rw [Setting.variableFault?_of_error env .seedFromArchive fault hb]
      exact Or.inr ⟨fault, rfl, rfl⟩
  | ok seed =>
  rw [Setting.variableFault?_of_ok env .seedFromArchive seed hb, ok_bind]
  cases hn : readVariable env "STREAMMON_EVENT_BUFFER" readSize with
  | error fault =>
      rw [Setting.variableFault?_of_error env .eventRoom fault hn]
      exact Or.inr ⟨fault, rfl, rfl⟩
  | ok room =>
  rw [Setting.variableFault?_of_ok env .eventRoom room hn, ok_bind]
  cases hf : readVariable env "STREAMMON_LOG_FORMAT" readFormat with
  | error fault =>
      rw [Setting.variableFault?_of_error env .logFormat fault hf]
      exact Or.inr ⟨fault, rfl, rfl⟩
  | ok format =>
  rw [Setting.variableFault?_of_ok env .logFormat format hf, ok_bind]
  have htext (name : String) : readVariable env name (fun text => .ok text) = .ok (env name) :=
    (readVariable_ok env name id).trans (congrArg Except.ok Option.map_id')
  refine Or.inl ⟨_, rfl, fun s => ?_, ⟨rfl, rfl, rfl, rfl, nofun⟩⟩
  cases s with
  | serverUrl | archiveUrl | inst | logLevel => exact htext _
  | key => exact readVariable_ok env "STREAMMON_API_KEY" some
  | localAddress => exact ha
  | seedFromArchive => exact hb
  | eventRoom => exact hn
  | logFormat => exact hf

/-- A configuration is checked setting by setting. -/
theorem validate_eq_findSome? (c : Config) :
    c.validate = match Setting.checked.findSome? fun s => s.refusal? (s.get c) with
      | none => .ok ()
      | some fault => .error fault := by
  simp only [validate, Setting.checked, List.findSome?_cons, Setting.refusal?, Setting.get]
  cases Url.validate .feed c.serverUrl.toList with
  | error rejection => rfl
  | ok feed =>
      cases Url.validate .requests c.archiveUrl.toList with
      | error rejection => rfl
      | ok base =>
          dsimp only
          split_ifs <;> rfl

end Config

end StreamRoster
