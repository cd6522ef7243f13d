import StreamRoster.Proofs.Config.Settings

/-!
# Loading Merges Settings

What is loaded is settled setting by setting, and so is why nothing is.

`load` reads the file, then the environment, lays one over the other and checks
the result; each of these steps can end it. `Merges` and `firstFault?` say the
same without steps. A configuration is merged if each of its settings is what it
is set to, and the first fault is looked for in a row: the file, the texts of four
variables, four values. `load_cases` follows the steps once and meets one of the
two at each end. All else comes from there, since the two exclude each other
(`firstFault?_of_merges`) and there is at most one configuration to merge into
(`Merges.unique`).

A fault of a value is looked for in what the setting is set to. So a value in the
file that would be refused does not matter if its variable is set, as long as it
can be read; and no setting matters to another one (`load_congr`).

## Main definitions

* `FileState.entries?`: The entries of a file.
* `Holds`: A file that is a configuration.
* `fileFault?`, `firstFault?`: What is wrong with a file, and with all.
* `Merges`: What a file and an environment merge into.
* `SetAlike`: Whether the settings are set to the same in two places.

## Theorems

* `Layer.ofFile_cases`: A file is a configuration, or refused.
* `load_cases`: A configuration is loaded, or the first fault reported.
* `load_eq_ok_iff`: What is loaded is what is merged.
* `load_eq_error_iff`: What is reported is the first fault.
* `load_congr`: What loading depends on.
* `load_settings`: Loading merges settings.
-/

namespace StreamRoster

open Json (ok_bind)

namespace Config

/-- The file of a configuration. -/
def path (env : Environment) : String := (env pathVariable).getD defaultPath

/-- The entries of a file. If it is absent there are none. -/
def FileState.entries? : FileState → Option Toml.Entries
  | .absent => some []
  | .directory | .locked _ => none
  | .file bytes => Text.ofUtf8? bytes >>= Toml.parse?

/-- Whether a file is a configuration with some entries: each setting has a
    readable value there, or none. -/
structure Holds (state : FileState) (entries : Toml.Entries) : Prop where
  document : state.entries? = some entries
  readable : ∀ s : Setting, (s.fileValue? entries).isSome = true

/-- Why a file is refused. -/
def fileFault? (path : String) : FileState → Option Fault
  | .absent => none
  | .directory => some (.unreadable path .isDirectory)
  | .locked error => some (.unreadable path (.system error))
  | .file bytes => match Text.ofUtf8? bytes with
    | none => some (.unreadable path .notText)
    | some text => match Toml.parse? text with
      | none => some (.malformed path)
      | some entries =>
        if Setting.all.all fun s => (s.fileValue? entries).isSome then none
        else some (.malformed path)

/-- The first fault there is: with the file, with a variable, or with a value. -/
def firstFault? (env : Environment) (files : String → FileState) : Option Fault :=
  (fileFault? (path env) (files (path env))).or <|
    (Setting.parsed.findSome? (Setting.variableFault? env)).or <|
      Setting.checked.findSome? <|
        Setting.valueFault? env ((files (path env)).entries?.getD [])

/-- Whether a configuration is what a file and an environment merge into: the
    texts of variables are readable, each setting is what it is set to, and the
    whole is valid. -/
structure Merges (env : Environment) (entries : Toml.Entries) (c : Config) : Prop where
  texts : ∀ s ∈ Setting.parsed, s.variableFault? env = none
  values : ∀ s : Setting, s.value? env entries = some (s.get c)
  valid : c.validate = .ok ()

theorem Setting.all_iff (p : Setting → Bool) : all.all p = true ↔ ∀ s, p s = true := by
  rw [List.all_eq_true]
  refine ⟨fun h s => h s ?_, fun h s _ => h s⟩
  cases s <;> decide

/-- A file that is a configuration is not refused. -/
theorem fileFault?_of_holds (path : String) (state : FileState) (entries : Toml.Entries)
    (h : Holds state entries) : fileFault? path state = none := by
  cases state with
  | absent => rfl
  | directory | locked => exact absurd h.document nofun
  | file bytes =>
      rcases Option.bind_eq_some_iff.mp h.document with ⟨text, htext, hparse⟩
      simp only [fileFault?, htext, hparse, (Setting.all_iff _).mpr h.readable, if_true]

/-- The settings of a file laid over the default ones. -/
def Layer.overDefault : Option Layer → Config
  | some layer => layer.over default
  | none => default

/-- A file is a configuration, or it is refused. -/
theorem Layer.ofFile_cases (path : String) (state : FileState) :
    (∃ layer? entries, Layer.ofFile path state = .ok layer? ∧ Holds state entries ∧
      ∀ s : Setting, s.fileValue? entries = some (s.get (overDefault layer?))) ∨
    ∃ fault, Layer.ofFile path state = .error fault ∧ fileFault? path state = some fault := by
  cases state with
  | absent => exact Or.inl ⟨none, [], rfl, ⟨rfl, fun _ => rfl⟩, fun _ => rfl⟩
  | directory | locked => exact Or.inr ⟨_, rfl, rfl⟩
  | file bytes =>
      -- The bytes must be a text, the text a table, and the values of the table must
      -- fit their settings. Each of the three can fail, in this order.
      rw [Layer.ofFile, fileFault?]
      cases htext : Text.ofUtf8? bytes with
      | none => exact Or.inr ⟨_, rfl, rfl⟩
      | some text =>
          dsimp only
          cases hparse : Toml.parse? text with
          | none =>
              rw [Layer.ofText?, hparse]
              exact Or.inr ⟨_, rfl, rfl⟩
          | some entries =>
              have hdocument : FileState.entries? (.file bytes) = some entries := by
                rw [FileState.entries?, htext]
                exact hparse
              have hlayer : Layer.ofText? text = Layer.ofEntries? entries := by
                rw [Layer.ofText?, hparse]
                rfl
              rw [hlayer]
              rcases Layer.ofEntries?_cases entries with ⟨layer, hentries, hvalue⟩ |
                ⟨hentries, hunreadable⟩
              · have hreadable (s : Setting) : (s.fileValue? entries).isSome = true := by
                  rw [hvalue s]
                  rfl
                rw [hentries]
                exact Or.inl ⟨some layer, entries, rfl, ⟨hdocument, hreadable⟩, hvalue⟩
              · rw [hentries]
                dsimp only
                rw [if_neg ((Setting.all_iff _).not.mpr hunreadable)]
                exact Or.inr ⟨_, rfl, rfl⟩

/-- What is loaded behind the file: the settings of the environment are laid over
    those of the file, and the whole is checked. -/
theorem load_of_file (env : Environment) (files : String → FileState) (layer? : Option Layer)
    (hfile : Layer.ofFile (path env) (files (path env)) = .ok layer?) :
    load env files = Layer.ofEnvironment env >>= fun upper =>
      validate (upper.over (Layer.overDefault layer?)) >>= fun _ =>
        .ok (upper.over (Layer.overDefault layer?)) := by
  refine (congrArg (· >>= _) hfile).trans ?_
  rfl

/-- The check of a configuration looks at its settings one by one. -/
theorem findSome?_valueFault? (env : Environment) (entries : Toml.Entries) (c : Config)
    (h : ∀ s : Setting, s.value? env entries = some (s.get c)) :
    Setting.checked.findSome? (Setting.valueFault? env entries) =
      Setting.checked.findSome? fun s => s.refusal? (s.get c) := by
  have hsame : Setting.valueFault? env entries = fun s => s.refusal? (s.get c) := by
    funext s
    rw [Setting.valueFault?, h s]
    rfl
  rw [hsame]

/-- A configuration is loaded, or the first fault is reported. -/
theorem load_cases (env : Environment) (files : String → FileState) :
    (∃ c entries, load env files = .ok c ∧ Holds (files (path env)) entries ∧
      Merges env entries c) ∨
    ∃ fault, load env files = .error fault ∧ firstFault? env files = some fault := by
  unfold firstFault?
  -- The file is looked at first. If it is refused, the rest does not matter.
  rcases Layer.ofFile_cases (path env) (files (path env)) with
    ⟨layer?, entries, hfile, hholds, hlower⟩ | ⟨fault, hfile, hfault⟩
  case inr =>
    rw [hfault]
    exact Or.inr ⟨fault, congrArg (· >>= _) hfile, rfl⟩
  rw [fileFault?_of_holds _ _ entries hholds, hholds.document, load_of_file env files layer? hfile]
  -- Then come the variables, of which only four can be refused.
  rcases Layer.ofEnvironment_cases env with ⟨upper, hupper, hvariables, hread⟩ |
    ⟨fault, hupper, hfault⟩
  case inr =>
    rw [hfault, hupper]
    exact Or.inr ⟨fault, rfl, rfl⟩
  rw [List.findSome?_eq_none_iff.mpr hread, hupper, ok_bind]
  -- Each setting is the same in both layers and in the row of places, so the checks
  -- of the merged configuration are the ones that are looked for.
  generalize Layer.overDefault layer? = lower at hlower
  have hvalues (s : Setting) : s.value? env entries = some (s.get (upper.over lower)) := by
    rw [s.value?_eq env entries _ _ (hvariables s) (hlower s), s.get_over]
  simp only [Option.none_or, Option.getD_some, findSome?_valueFault? env entries _ hvalues]
  have hvalid := validate_eq_findSome? (upper.over lower)
  cases hfirst : Setting.checked.findSome? fun s => s.refusal? (s.get (upper.over lower)) with
  | none =>
      rw [hfirst] at hvalid
      rw [hvalid]
      exact Or.inl ⟨_, entries, rfl, hholds, hread, hvalues, hvalid⟩
  | some fault =>
      rw [hfirst] at hvalid
      rw [hvalid]
      exact Or.inr ⟨fault, rfl, rfl⟩

/-- The first fault behind a file that is a configuration. -/
theorem firstFault?_of_holds (env : Environment) (files : String → FileState)
    (entries : Toml.Entries) (h : Holds (files (path env)) entries) :
    firstFault? env files = (Setting.parsed.findSome? (Setting.variableFault? env)).or
      (Setting.checked.findSome? (Setting.valueFault? env entries)) := by
  rw [firstFault?, fileFault?_of_holds _ _ entries h, h.document, Option.none_or,
    Option.getD_some]

/-- What is merged has no fault. -/
theorem firstFault?_of_merges (env : Environment) (files : String → FileState)
    (entries : Toml.Entries) (c : Config) (hfile : Holds (files (path env)) entries)
    (h : Merges env entries c) : firstFault? env files = none := by
  have hvalid := validate_eq_findSome? c
  rw [h.valid] at hvalid
  rw [firstFault?_of_holds env files entries hfile, List.findSome?_eq_none_iff.mpr h.texts,
    Option.none_or, findSome?_valueFault? env entries c h.values]
  cases hfirst : Setting.checked.findSome? fun s => s.refusal? (s.get c) with
  | none => rfl
  | some fault =>
      rw [hfirst] at hvalid
      cases hvalid

/-- What a file and an environment merge into is one configuration. -/
theorem Merges.unique (env : Environment) (entries : Toml.Entries) (c d : Config)
    (hc : Merges env entries c) (hd : Merges env entries d) : c = d :=
  Setting.ext c d fun s => Option.some.inj ((hc.values s).symm.trans (hd.values s))

theorem load_eq_ok_iff (env : Environment) (files : String → FileState) (c : Config) :
    load env files = .ok c ↔
      ∃ entries, Holds (files (path env)) entries ∧ Merges env entries c := by
  rcases load_cases env files with ⟨d, entries, hload, hfile, hd⟩ | ⟨fault, hload, hfault⟩
  · rw [hload]
    refine ⟨fun h => ?_, fun ⟨others, hothers, hc⟩ => ?_⟩
    · rw [← Except.ok.inj h]
      exact ⟨entries, hfile, hd⟩
    · rcases Option.some.inj (hfile.document.symm.trans hothers.document) with rfl
      exact congrArg Except.ok (hd.unique env entries d c hc)
  · rw [hload]
    refine iff_of_false nofun fun ⟨entries, hfile, hc⟩ => ?_
    exact absurd (hfault.symm.trans (firstFault?_of_merges env files entries c hfile hc)) nofun

theorem load_eq_error_iff (env : Environment) (files : String → FileState) (fault : Fault) :
    load env files = .error fault ↔ firstFault? env files = some fault := by
  rcases load_cases env files with ⟨c, entries, hload, hfile, hc⟩ | ⟨first, hload, hfirst⟩
  · rw [hload, firstFault?_of_merges env files entries c hfile hc]
    exact iff_of_false nofun nofun
  · rw [hload, hfirst]
    exact (Except.error.injEq _ _).to_iff.trans (Option.some.injEq _ _).symm.to_iff

theorem default_valid : default.validate = .ok () := by
  decide +kernel

/-- Without a file and without variables the default configuration is loaded. -/
theorem load_default : load (fun _ => none) (fun _ => .absent) = .ok default := by
  refine (load_eq_ok_iff _ _ default).mpr ⟨[], ⟨rfl, fun _ => rfl⟩, ?_, fun _ => rfl,
    default_valid⟩
  exact fun _ _ => rfl

/-- Whether the settings are set to the same in two places: the variables have
    the same texts, and where one is not set the entries are the same. -/
def SetAlike (env other : Environment) (entries others : Toml.Entries) : Prop :=
  ∀ s : Setting, other s.variableName = env s.variableName ∧
    (env s.variableName = none → Toml.get? s.entryKey others = Toml.get? s.entryKey entries)

theorem SetAlike.value?_eq (env other : Environment) (entries others : Toml.Entries)
    (h : SetAlike env other entries others) (s : Setting) :
    s.value? other others = s.value? env entries := by
  rcases h s with ⟨hvariable, hentry⟩
  rw [Setting.value?, Setting.value?, hvariable]
  cases hset : env s.variableName with
  | some text => rfl
  | none =>
      dsimp only
      rw [Setting.fileValue?, Setting.fileValue?, hentry hset]

theorem SetAlike.variableFault?_eq (env other : Environment) (entries others : Toml.Entries)
    (h : SetAlike env other entries others) (s : Setting) :
    s.variableFault? other = s.variableFault? env := by
  rw [Setting.variableFault?, Setting.variableFault?, (h s).1]

/-- Loading depends on nothing else than what the settings are set to. -/
theorem load_congr (env other : Environment) (files elsewhere : String → FileState)
    (entries others : Toml.Entries) (hfile : Holds (files (path env)) entries)
    (hother : Holds (elsewhere (path other)) others) (h : SetAlike env other entries others) :
    load other elsewhere = load env files := by
  have hvalues := h.value?_eq
  have hvariables := h.variableFault?_eq
  -- Whatever came out of the one, its reason holds of the other.
  cases hload : load env files with
  | ok c =>
      rcases (load_eq_ok_iff env files c).mp hload with ⟨found, hfound, hc⟩
      rcases Option.some.inj (hfile.document.symm.trans hfound.document) with rfl
      refine (load_eq_ok_iff other elsewhere c).mpr ⟨others, hother, ?_, fun s => ?_, hc.valid⟩
      · intro s hs
        rw [hvariables s, hc.texts s hs]
      · rw [hvalues s, hc.values s]
  | error fault =>
      have hfirst := (load_eq_error_iff env files fault).mp hload
      refine (load_eq_error_iff other elsewhere fault).mpr ?_
      have hsame : Setting.valueFault? other others = Setting.valueFault? env entries := by
        funext s
        rw [Setting.valueFault?, Setting.valueFault?, hvalues s]
      rw [← hfirst, firstFault?_of_holds env files entries hfile,
        firstFault?_of_holds other elsewhere others hother, hsame, funext hvariables]

/-- Loading merges settings. What is loaded is what the file and the environment
    merge into, setting by setting, and there is nothing to load just if there is a
    fault; the one that is reported is the first. A setting in the file is not even
    looked at if its variable is set, so it may have any readable value there, and
    no other variable or entry matters. -/
theorem load_settings (env : Environment) (files : String → FileState) :
    (∀ c, load env files = .ok c ↔
      ∃ entries, Holds (files (path env)) entries ∧ Merges env entries c) ∧
    (∀ fault, load env files = .error fault ↔ firstFault? env files = some fault) ∧
    ∀ other elsewhere entries others, Holds (files (path env)) entries →
      Holds (elsewhere (path other)) others → SetAlike env other entries others →
        load other elsewhere = load env files :=
  ⟨load_eq_ok_iff env files, load_eq_error_iff env files,
    fun other elsewhere entries others => load_congr env other files elsewhere entries others⟩

/-- A file whose room and URL would be refused, with both replaced by variables:
    what is loaded is the same as without the two entries. -/
theorem load_settings_of_replaced_entries :
    ∃ env entries others c,
      Holds (.file (Text.utf8
        "event_buffer = 0\nserver_url = \"nowhere\"\ninstance = \"flight\"".toList)) entries ∧
      Holds (.file (Text.utf8 "instance = \"flight\"".toList)) others ∧
      SetAlike env env entries others ∧ Merges env entries c ∧ c.eventRoom = 8 ∧
      c.serverUrl = "wss://h/" ∧ c.inst = "flight" ∧
      load env (fun _ => .file (Text.utf8 "instance = \"flight\"".toList)) = .ok c := by
  let env : Environment := fun name =>
    if name = "STREAMMON_EVENT_BUFFER" then some "+8"
    else if name = "STREAMMON_SERVER_URL" then some "wss://h/"
    else none
  let files : String → FileState := fun _ => .file (Text.utf8
    "event_buffer = 0\nserver_url = \"nowhere\"\ninstance = \"flight\"".toList)
  have hfile : Holds (files (path env)) [("event_buffer", .integer 0),
      ("server_url", .text "nowhere"), ("instance", .text "flight")] :=
    ⟨rfl, fun s => by cases s <;> rfl⟩
  have hother : Holds (.file (Text.utf8 "instance = \"flight\"".toList))
      [("instance", .text "flight")] :=
    ⟨rfl, fun s => by cases s <;> rfl⟩
  have halike : SetAlike env env [("event_buffer", .integer 0), ("server_url", .text "nowhere"),
      ("instance", .text "flight")] [("instance", .text "flight")] := by
    intro s
    refine ⟨rfl, fun hunset => ?_⟩
    cases s with
    | serverUrl | eventRoom => exact absurd hunset (by decide)
    | archiveUrl | inst | key | localAddress | seedFromArchive | logLevel | logFormat => rfl
  have hread : (load env files).toOption.map (fun c => (c.eventRoom, c.serverUrl, c.inst)) =
      some (8, "wss://h/", "flight") := by decide +kernel
  rcases load_settings env files with ⟨hloaded, _, hdepends⟩
  cases hload : load env files with
  | error fault =>
      rw [hload] at hread
      cases hread
  | ok c =>
      rw [hload] at hread
      rcases Prod.mk.inj (Option.some.inj hread) with ⟨hroom, hrest⟩
      rcases Prod.mk.inj hrest with ⟨hurl, hinst⟩
      rcases (hloaded c).mp hload with ⟨found, hfound, hmerges⟩
      rcases Option.some.inj (hfile.document.symm.trans hfound.document) with rfl
      exact ⟨env, _, _, c, hfile, hother, halike, hmerges, hroom, hurl, hinst,
        (hdepends env (fun _ => .file (Text.utf8 "instance = \"flight\"".toList)) _ _ hfile hother
          halike).trans hload⟩

end Config

end StreamRoster
