import Whip.Lib.Effect

/-!
# Settings

`Settings::reload` reads the configuration file with `boost::program_options` into a variables map
that is put in the place of the old one before the file is parsed. The library's functions are
parameters, and what is assumed of them is what its documentation says of a `store` that returns.
-/

namespace Whip

/-- The type of an option, `po::value<T>()`. -/
inductive OptionType
  | ushort
  | uint
  | int
  | flag
  | text
deriving DecidableEq

inductive OptionValue
  | ushort (n : UInt16)
  | uint (n : UInt32)
  | int (n : Int32)
  | flag (b : Bool)
  | text (s : String)
deriving DecidableEq

/-- `po::variable_value`: a value that may be empty, and whether it is the default. -/
structure VariableValue where
  value : Option OptionValue := none
  defaulted : Bool := false
deriving DecidableEq

/-- `as<std::string>()`; `none` for a `bad_any_cast`. -/
def VariableValue.asText (v : VariableValue) : Option String :=
  match v.value with
  | some (.text s) => some s
  | _              => none

/-- `po::variables_map`. -/
abbrev VariablesMap := String → Option VariableValue

/-- `operator[]`: an absent name gives an empty value. -/
def VariablesMap.get (m : VariablesMap) (name : String) : VariableValue := (m name).getD {}

def VariablesMap.empty : VariablesMap := fun _ => none

/-- What is used of the library: the parser of the file's format, `store`, the conversion of a text
to a value, and that of a text to a port. Each may throw, and `store` leaves what it likes in the
map when it does. -/
structure ProgramOptions where
  parseConfigFile : String → Except String (List (String × String))
  store : List (String × String) → EStateM String VariablesMap Unit
  validate : OptionType → String → Option OptionValue
  toPort : String → Option UInt16

structure OptionDescription where
  name : String
  type : OptionType
  defaultValue : Option OptionValue := none

/-- The options of `reload`. -/
def allowedOptions : List OptionDescription :=
  [ ⟨"port", .ushort, some (.ushort 32700)⟩,
    ⟨"password", .text, none⟩,
    ⟨"cache_enabled", .flag, some (.flag false)⟩,
    ⟨"cache_size", .uint, some (.uint 10)⟩,
    ⟨"disk_storage_backend", .text, none⟩,
    ⟨"disk_storage_root", .text, none⟩,
    ⟨"secondary_storage_root", .text, some (.text "")⟩,
    ⟨"migration", .text, some (.text "none")⟩,
    ⟨"allow_purge", .flag, some (.flag false)⟩,
    ⟨"debug", .flag, some (.flag false)⟩,
    ⟨"intramesh_peers", .text, some (.text "")⟩,
    ⟨"intramesh_port", .ushort, some (.ushort 32701)⟩,
    ⟨"is_writable", .flag, none⟩,
    ⟨"tcp_bufsz", .int, some (.int 65536)⟩,
    ⟨"udp_bufsz", .int, some (.int 32768)⟩,
    ⟨"replication_master", .text, some (.text "none")⟩,
    ⟨"pull_replication_frequency", .int, some (.int 720)⟩,
    ⟨"pull_replication_batch_size", .uint, some (.uint 1)⟩,
    ⟨"pull_replication_start_at", .int, some (.int 0)⟩,
    ⟨"replication_slave", .text, some (.text "none")⟩ ]

def describe (name : String) : Option OptionDescription := allowedOptions.find? (·.name = name)

def defaultSetting (name : String) : VariableValue :=
  match (describe name).bind (·.defaultValue) with
  | some x => { value := some x, defaulted := true }
  | none   => {}

/-- What the library documents of a `store` into an empty map that returns: it has converted what
the file gives, and whatever else is described has its default value. -/
structure ProgramOptions.Documented (lib : ProgramOptions) : Prop where
  given : ∀ {os vm name text}, lib.store os .empty = .ok () vm → os.lookup name = some text →
    ∃ d x, describe name = some d ∧ lib.validate d.type text = some x ∧
      vm.get name = { value := some x }
  defaulted : ∀ {os vm name}, lib.store os .empty = .ok () vm → os.lookup name = none →
    vm.get name = defaultSetting name

/-! ### The settings -/

structure IntraMeshPeerEntry where
  host : String
  intraMeshPort : UInt16
  assetServicePort : UInt16
deriving DecidableEq

structure Settings where
  configFileName : String := "whip.cfg"
  vm : VariablesMap

/-- The configuration file as `reload` finds it. -/
inductive ConfigFile
  | unopenable
  | content (text : String)

namespace Settings

variable (lib : ProgramOptions)

/-- `store(parse_config_file(..), *_vm)`; the argument is evaluated before the map is touched. -/
def fill (text : String) : EStateM String VariablesMap Unit := do
  match lib.parseConfigFile text with
  | .error e => throw e
  | .ok os   => lib.store os

/-- `notify` has nothing to do, as no option is required or has a notifier. -/
def reload : ConfigFile → EStateM String Settings Unit
  | .unopenable   => do
    throw ("Could not open configuration file '" ++ (← MonadState.get).configFileName ++ "'")
  | .content text => fun s =>
    match fill lib text .empty with
    | .ok _ vm    => .ok () { s with vm := vm }
    | .error e vm => .error e { s with vm := vm }

def get (s : Settings) (settingName : String) : VariableValue := s.vm.get settingName

/-- `"none"` and the empty text stand for no server; `none` for an exception. -/
def serverSetting (v : VariableValue) : Option String :=
  v.asText.map fun setting => if setting = "none" ∨ setting = "" then "" else setting

def replicationMaster (s : Settings) : Option String := serverSetting (s.get "replication_master")

def replicationSlave (s : Settings) : Option String := serverSetting (s.get "replication_slave")

/-- `HOST:IM_PORT:AS_PORT`; entries that do not have three parts are left out, and a port that is no
number throws. -/
def parsePeer (host : String) : Option (Option IntraMeshPeerEntry) :=
  match host.splitOn ":" with
  | [host, intraMeshPort, assetServicePort] => do
    return some ⟨host, ← lib.toPort intraMeshPort, ← lib.toPort assetServicePort⟩
  | _ => some none

def intraMeshPeers (s : Settings) : Option (List IntraMeshPeerEntry) := do
  let peerSetting ← (s.get "intramesh_peers").asText
  if peerSetting = "none" then return []
  return (← (peerSetting.splitOn ",").mapM (parsePeer lib)).filterMap id

/-! ### What a file says -/

/-- What a name is to be once the options are loaded: given, or the default. -/
def fileSetting (os : List (String × String)) (name : String) : VariableValue :=
  match os.lookup name with
  | some text => { value := (describe name).bind fun d => lib.validate d.type text }
  | none      => defaultSetting name

/-- A `store` that returns leaves the file's settings. -/
lemma get_of_store (h : lib.Documented) {os : List (String × String)} {vm : VariablesMap}
    (hstore : lib.store os .empty = .ok () vm) (name : String) :
    vm.get name = fileSetting lib os name := by
  unfold fileSetting
  cases hlookup : os.lookup name with
  | none => exact h.defaulted hstore hlookup
  | some text =>
    obtain ⟨d, x, hd, hx, hget⟩ := h.given hstore hlookup
    simp [hget, hd, hx]

lemma reload_of_fill_ok {text : String} {vm : VariablesMap} (s : Settings)
    (h : fill lib text .empty = .ok () vm) :
    reload lib (.content text) s = .ok () { s with vm := vm } := by
  simp [reload, h]

lemma reload_of_fill_error {text e : String} {vm : VariablesMap} (s : Settings)
    (h : fill lib text .empty = .error e vm) :
    reload lib (.content text) s = .error e { s with vm := vm } := by
  simp [reload, h]

/-! ### All or nothing -/

/-- Every accessor returns the same. -/
structure SameAnswers (s s' : Settings) : Prop where
  get : ∀ name, s.get name = s'.get name
  intraMeshPeers : s.intraMeshPeers lib = s'.intraMeshPeers lib
  replicationMaster : s.replicationMaster = s'.replicationMaster
  replicationSlave : s.replicationSlave = s'.replicationSlave

/-- All accessors go through the map. -/
lemma sameAnswers_of_get {s s' : Settings} (h : ∀ name, s.get name = s'.get name) :
    SameAnswers lib s s' where
  get := h
  intraMeshPeers := by rw [Settings.intraMeshPeers, Settings.intraMeshPeers, h]
  replicationMaster := by rw [Settings.replicationMaster, Settings.replicationMaster, h]
  replicationSlave := by rw [Settings.replicationSlave, Settings.replicationSlave, h]

/-- A `reload` that throws has changed no answer, and one that returns has taken over the file. -/
def AllOrNothing (file : ConfigFile) (s : Settings) : Prop :=
  match reload lib file s with
  | .ok _ s'    => ∃ text os, file = .content text ∧ lib.parseConfigFile text = .ok os ∧
      SameAnswers lib s' { s with vm := fun name => some (fileSetting lib os name) }
  | .error _ s' => SameAnswers lib s' s

/-- The file cannot be opened, or it is parsed and stored, or what the call that throws has left in
the new map is what the settings were: nothing at all, if the parser throws. -/
def Survivable (s : Settings) : ConfigFile → Prop
  | .unopenable   => True
  | .content text =>
    match lib.parseConfigFile text with
    | .error _ => ∀ name, s.get name = {}
    | .ok os   =>
      match lib.store os .empty with
      | .ok _ _     => True
      | .error _ vm => ∀ name, s.get name = vm.get name

/-- Whatever the library does with a file: reloading it is all or nothing if and only if the file
cannot be opened, or is parsed and stored, or the map left by the call that throws answers as the
settings did. -/
theorem reload_all_or_nothing_iff (lib : ProgramOptions) (hlib : lib.Documented)
    (file : ConfigFile) (s : Settings) : AllOrNothing lib file s ↔ Survivable lib s file := by
  cases file with
  | unopenable => exact iff_of_true (sameAnswers_of_get lib fun _ => rfl) trivial
  | content text =>
    have hthrows {e : String} {vm : VariablesMap} (hfill : fill lib text .empty = .error e vm) :
        AllOrNothing lib (.content text) s ↔ ∀ name, s.get name = vm.get name := by
      unfold AllOrNothing
      rw [reload_of_fill_error lib s hfill]
      exact ⟨fun h name => (h.get name).symm,
        fun h => sameAnswers_of_get lib fun name => (h name).symm⟩
    cases hparse : lib.parseConfigFile text with
    | error e =>
      have hfill : fill lib text .empty = .error e .empty := by
        simp only [fill, hparse]
        rfl
      simp only [Survivable, hparse]
      exact hthrows hfill
    | ok os =>
      have hfill : fill lib text = lib.store os := by simp [fill, hparse]
      cases hstore : lib.store os .empty with
      | error e vm =>
        simp only [Survivable, hparse, hstore]
        exact hthrows (hfill ▸ hstore)
      | ok u vm =>
        simp only [Survivable, hparse, hstore, iff_true, AllOrNothing]
        rw [reload_of_fill_ok lib s (hfill ▸ hstore)]
        exact ⟨text, os, rfl, hparse, sameAnswers_of_get lib (get_of_store lib hlib hstore)⟩

/-! ### A library that is as careful as it may be -/

def convert : OptionType → String → Option OptionValue
  | .text, s => some (.text s)
  | .flag, s =>
    if s = "true" then some (.flag true) else if s = "false" then some (.flag false) else none
  | _, _     => none

def accepted (os : List (String × String)) : Bool :=
  os.all fun o => ((describe o.1).bind fun d => convert d.type o.2).isSome

/-- It reads lines `name=value` and throws on any other line. Its `store` looks at all options
before it stores one, and leaves the map alone when it throws. -/
def lineOptions : ProgramOptions where
  parseConfigFile text := (text.toList.splitOn '\n').mapM fun line =>
    match line.splitOn '=' with
    | [name, value] => .ok (String.ofList name, String.ofList value)
    | _             => .error "unrecognized line"
  store os := fun m =>
    if accepted os then
      .ok () fun name => some <|
        match os.lookup name with
        | some text => { value := (describe name).bind fun d => convert d.type text }
        | none      => defaultSetting name
    else .error "the argument for option is invalid" m
  validate := convert
  toPort _ := none

lemma lineOptions_documented : lineOptions.Documented := by
  have hok {os : List (String × String)} {vm : VariablesMap}
      (hstore : lineOptions.store os .empty = .ok () vm) :
      (∀ o ∈ os, ((describe o.1).bind fun d => convert d.type o.2).isSome) ∧
        ∀ name, vm.get name = fileSetting lineOptions os name := by
    simp only [lineOptions] at hstore
    split at hstore
    case isTrue hall =>
      cases hstore
      exact ⟨List.all_eq_true.mp hall, fun _ => rfl⟩
    case isFalse => cases hstore
  constructor
  · intro os vm name text hstore hlookup
    obtain ⟨hall, hget⟩ := hok hstore
    obtain ⟨front, rest, rfl, -⟩ := List.lookup_eq_some_iff.mp hlookup
    obtain ⟨x, hx⟩ := Option.isSome_iff_exists.mp (hall (name, text) (by simp))
    obtain ⟨d, hd, hconvert⟩ := Option.bind_eq_some_iff.mp hx
    refine ⟨d, x, hd, hconvert, ?_⟩
    rw [hget, fileSetting, hlookup]
    exact congrArg (fun value => ({ value := value } : VariableValue)) hx
  · intro os vm name hstore hlookup
    rw [(hok hstore).2, fileSetting, hlookup]

/-- A file as it should be, the same file while it is being edited, and one with a flag that is
neither true nor false. -/
def savedFile : String := "password=secret\nreplication_slave=10.0.0.2:32700"

def editedFile : String := "password=secret\nreplic"

def wrongTypeFile : String := "password=other\nallow_purge=maybe"

lemma reload_of_accepted {text : String} {os : List (String × String)}
    (hparse : (lineOptions.parseConfigFile text).toOption = some os) (hall : accepted os = true)
    (s : Settings) :
    reload lineOptions (.content text) s =
      .ok () { s with vm := fun name => some (fileSetting lineOptions os name) } := by
  cases hresult : lineOptions.parseConfigFile text with
  | error e => simp [hresult, Except.toOption] at hparse
  | ok os' =>
    obtain rfl : os' = os := by simpa [hresult, Except.toOption] using hparse
    apply reload_of_fill_ok
    simp only [fill, hresult]
    exact if_pos hall

lemma reload_of_not_accepted {text : String}
    (h : (lineOptions.parseConfigFile text).toOption.any accepted = false) (s : Settings) :
    ∃ e, reload lineOptions (.content text) s = .error e { s with vm := .empty } := by
  cases hresult : lineOptions.parseConfigFile text with
  | error e =>
    refine ⟨e, reload_of_fill_error _ _ ?_⟩
    simp only [fill, hresult]
    rfl
  | ok os =>
    have hnot : ¬ accepted os = true := by simpa [hresult, Except.toOption] using h
    have hfill : fill lineOptions text .empty =
        .error "the argument for option is invalid" .empty := by
      simp only [fill, hresult]
      exact if_neg hnot
    exact ⟨_, reload_of_fill_error _ _ hfill⟩

/-- The saved file is loaded as a whole; while it is edited, the settings do not survive. -/
theorem saved_file_all_or_nothing :
    AllOrNothing lineOptions (.content savedFile) ⟨"whip.cfg", .empty⟩ ∧
      ¬ AllOrNothing lineOptions (.content editedFile)
        ⟨"whip.cfg", fun name => some (defaultSetting name)⟩ := by
  rw [reload_all_or_nothing_iff lineOptions lineOptions_documented,
    reload_all_or_nothing_iff lineOptions lineOptions_documented]
  have hsaved : (lineOptions.parseConfigFile savedFile).toOption.any accepted = true := by
    decide +kernel
  have hedited : (lineOptions.parseConfigFile editedFile).toOption = none := by decide +kernel
  constructor
  · cases hparse : lineOptions.parseConfigFile savedFile with
    | error e => simp [hparse, Except.toOption] at hsaved
    | ok os =>
      have hall : accepted os = true := by simpa [hparse, Except.toOption] using hsaved
      simp only [Survivable, hparse]
      rw [show lineOptions.store os .empty = .ok () _ from if_pos hall]
      trivial
  · cases hparse : lineOptions.parseConfigFile editedFile with
    | error e =>
      simp only [Survivable, hparse]
      exact fun h => absurd (h "port") (by decide +kernel)
    | ok os => simp [hparse, Except.toOption] at hedited

/-- Even with such a library, a `reload` of the half-edited file, or of one with a value of the
wrong type, throws and leaves no password, and the slave setting throws from then on. -/
theorem reload_loses_settings :
    ∃ s : Settings, reload lineOptions (.content savedFile) ⟨"whip.cfg", .empty⟩ = .ok () s ∧
      s.get "password" = { value := some (.text "secret") } ∧
      s.replicationSlave = some "10.0.0.2:32700" ∧
      ∀ file ∈ [editedFile, wrongTypeFile], ∃ e s', reload lineOptions (.content file) s =
        .error e s' ∧ s'.get "password" = {} ∧ s'.replicationSlave = none := by
  have hsaved : (lineOptions.parseConfigFile savedFile).toOption =
      some [("password", "secret"), ("replication_slave", "10.0.0.2:32700")] := by decide +kernel
  refine ⟨_, reload_of_accepted hsaved (by decide +kernel) _, by decide +kernel,
    by decide +kernel, fun file hfile => ?_⟩
  have hrejected : (lineOptions.parseConfigFile file).toOption.any accepted = false := by
    revert file
    decide +kernel
  obtain ⟨e, hreload⟩ := reload_of_not_accepted hrejected _
  exact ⟨e, _, hreload, rfl, rfl⟩

end Settings

end Whip
