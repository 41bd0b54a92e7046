import SeriesQuery.Settings.Store
import SeriesQuery.Text.Utf8
import SeriesQuery.Toml.Document

/-!
# Settings

The settings of a run come in three layers: an environment variable counts before the settings file, and
the file before the default.
-/

namespace SeriesQuery

/-- The settings of the log. -/
structure LoggingSettings where
  level : String := "info"
  format : String := "pretty"
  deriving DecidableEq, Repr

/-- All settings. -/
structure Settings where
  store : StoreSettings := {}
  logging : LoggingSettings := {}
  deriving DecidableEq, Repr

/-! ## From a file -/

/-- A setting of a section: its key, and how a value changes the section. -/
structure Setting (σ : Type) where
  key : String
  read : Toml.Value → Option (σ → σ)

namespace Setting

/-- A setting that is a text. -/
def text {σ : Type} (key : String) (set : String → σ → σ) : Setting σ where
  key := key
  read
    | .string text => some (set text)
    | _ => none

/-- A setting that is a number from zero on. -/
def count {σ : Type} (key : String) (set : Nat → σ → σ) : Setting σ where
  key := key
  read
    | .integer n => if 0 ≤ n then some (set n.toNat) else none
    | _ => none

/-- The section with the settings that the entries hold. Other keys are left alone. -/
def ofEntries {σ : Type} (entries : Toml.Entries) (section_ : σ) : List (Setting σ) → Option σ
  | [] => some section_
  | setting :: rest =>
    match entries.lookup setting.key with
    | none => ofEntries entries section_ rest
    | some value => do
      let set ← setting.read value
      ofEntries entries (set section_) rest

/-- The section with the settings given by position. -/
def ofItems {σ : Type} (section_ : σ) : List (Setting σ) → List Toml.Value → Option σ
  | setting :: rest, value :: values => do
    let set ← setting.read value
    ofItems (set section_) rest values
  | _, _ => some section_

/-- The section of a value: a table, an array of the settings in order, or a date, which sets nothing. -/
def ofValue {σ : Type} (blank : σ) (settings : List (Setting σ)) : Toml.Value → Option σ
  | .table _ entries => ofEntries entries blank settings
  | .array items => ofItems blank settings items
  | .tables items => ofItems blank settings (items.map (.table .header))
  | .dateTime => some blank
  | _ => none

end Setting

/-- The settings of the `store` section. -/
def StoreSettings.fields : List (Setting StoreSettings) := [
  .text "address" fun text s => { s with address := text },
  .text "org" fun text s => { s with org := text },
  .text "bucket" fun text s => { s with bucket := text },
  .text "token" fun text s => { s with token := text },
  .count "query_timeout_secs" fun n s => { s with queryTimeoutSecs := n },
  .count "max_concurrent_queries" fun n s => { s with maxConcurrentQueries := n }]

/-- The settings of the `logging` section. -/
def LoggingSettings.fields : List (Setting LoggingSettings) := [
  .text "level" fun text s => { s with level := text },
  .text "format" fun text s => { s with format := text }]

namespace Settings

/-- The sections of a file. -/
def sections : List (Setting Settings) := [
  { key := "store"
    read := fun v => (Setting.ofValue {} StoreSettings.fields v).map fun store s =>
      { s with store := store } },
  { key := "logging"
    read := fun v => (Setting.ofValue {} LoggingSettings.fields v).map fun logging s =>
      { s with logging := logging } }]

/-- The settings in the text of a file. -/
def ofToml? (text : String) : Option Settings :=
  (Toml.parse? text).bind fun entries => Setting.ofEntries entries {} sections

/-- What is in a file, or why it cannot be read. -/
abbrev FileContent := Except String (List UInt8)

/-- The settings in a file. -/
def load (path : String) (content : FileContent) : Except SettingsError Settings :=
  match content with
  | .error reason => .error (.unreadable path reason)
  | .ok bytes =>
    match Text.decodeUtf8 bytes with
    | .error _ => .error (.unreadable path "stream did not contain valid UTF-8")
    | .ok text =>
      match ofToml? text with
      | some settings => .ok settings
      | none => .error (.malformed path "not a settings document")

/-! ## From the environment -/

/-- Environment variables and their values. -/
abbrev Environment := List (String × String)

/-- The variables that count. -/
def variableNames : List String := [
  "HOME", "XDG_CONFIG_HOME", "SENSORFLUX_STORE_ADDRESS", "SENSORFLUX_STORE_ORG",
  "SENSORFLUX_STORE_BUCKET", "SENSORFLUX_STORE_TOKEN", "SENSORFLUX_QUERY_TIMEOUT_SECS",
  "SENSORFLUX_LOG_LEVEL", "SENSORFLUX_LOG_FORMAT"]

/-- The environment, from the bytes of its variables. A variable whose bytes are no text does not count. -/
def environmentOf (bytes? : String → Option (List UInt8)) : Environment :=
  variableNames.filterMap fun name =>
    ((bytes? name).bind fun bytes => (Text.decodeUtf8 bytes).toOption).map (name, ·)

/-- The value of a variable, or else a setting as it is. -/
def override (env : Environment) (name current : String) : String := (env.lookup name).getD current

/-- The value of a variable that is a number of 64 bits, or else a setting as it is. -/
def overrideCount (env : Environment) (name : String) (current : Nat) : Nat :=
  ((env.lookup name).bind fun text => Text.readUnsigned? 64 text.toList).getD current

/-- The settings with the values of the environment. -/
def withEnvironment (s : Settings) (env : Environment) : Settings where
  store := { s.store with
    address := override env "SENSORFLUX_STORE_ADDRESS" s.store.address
    org := override env "SENSORFLUX_STORE_ORG" s.store.org
    bucket := override env "SENSORFLUX_STORE_BUCKET" s.store.bucket
    token := override env "SENSORFLUX_STORE_TOKEN" s.store.token
    queryTimeoutSecs :=
      overrideCount env "SENSORFLUX_QUERY_TIMEOUT_SECS" s.store.queryTimeoutSecs }
  logging := {
    level := override env "SENSORFLUX_LOG_LEVEL" s.logging.level
    format := override env "SENSORFLUX_LOG_FORMAT" s.logging.format }

/-! ## Search -/

/-- A path where a settings file may be, and what is there, if anything. -/
structure Candidate where
  path : String
  content : Option FileContent

/-- How a search went: the file that was taken, and the errors of those that were not. -/
structure SearchReport where
  source : Option String := none
  skipped : List SettingsError := []
  deriving DecidableEq, Repr

/-- The settings of the first candidate that exists and can be loaded; the defaults when there is none.
The environment counts in each case. -/
def search (env : Environment) : List Candidate → Settings × SearchReport
  | [] => (withEnvironment {} env, {})
  | candidate :: rest =>
    match candidate.content with
    | none => search env rest
    | some content =>
      match load candidate.path content with
      | .ok settings => (settings.withEnvironment env, { source := some candidate.path })
      | .error e =>
        let (settings, report) := search env rest
        (settings, { report with skipped := e :: report.skipped })

/-- A path below a directory. -/
def below (directory name : String) : String :=
  if directory.toList.getLast? = some '/' then directory ++ name else directory ++ "/" ++ name

/-- The home directory: the one that the environment names, or else that of the account. -/
def home? (env : Environment) (account : Option String) : Option String :=
  match env.lookup "HOME" with
  | some home => if home = "" then account else some home
  | none => account

/-- The directory of the user's settings: the one that the environment names by an absolute path, or else
`.config` in the home directory. -/
def userDirectory? (env : Environment) (account : Option String) : Option String :=
  match env.lookup "XDG_CONFIG_HOME" with
  | some directory =>
    if directory.toList.head? = some '/' then some directory
    else (home? env account).map (below · ".config")
  | none => (home? env account).map (below · ".config")

/-- Where settings files are looked for, the most specific place first. `account` is the home directory of
the account, as far as it is known. -/
def defaultPaths (env : Environment) (account : Option String := none) : List String :=
  ((userDirectory? env account).map (below · "sensorflux/config.toml")).toList ++
    ["/etc/sensorflux/config.toml", "./config.toml"]

/-! ## The template

A settings file with every setting at its default, for a user to edit. -/

/-- The lines of the template. -/
def templateLines : List String := [
  "# Sensorflux Configuration",
  "#",
  "# Environment variables override these settings:",
  "# - SENSORFLUX_STORE_ADDRESS",
  "# - SENSORFLUX_STORE_ORG",
  "# - SENSORFLUX_STORE_BUCKET",
  "# - SENSORFLUX_STORE_TOKEN",
  "# - SENSORFLUX_QUERY_TIMEOUT_SECS",
  "# - SENSORFLUX_LOG_LEVEL",
  "# - SENSORFLUX_LOG_FORMAT",
  "",
  "[store]",
  "# Time-series store URL",
  "address = \"http://localhost:8086\"",
  "",
  "# Organization that owns the bucket",
  "org = \"\"",
  "",
  "# Bucket queried by sensor requests",
  "bucket = \"\"",
  "",
  "# API token",
  "token = \"\"",
  "",
  "# Deadline for a single query (seconds)",
  "query_timeout_secs = 20",
  "",
  "# Queries allowed in flight at once",
  "max_concurrent_queries = 10",
  "",
  "[logging]",
  "# Log level: trace, debug, info, warn, error",
  "level = \"info\"",
  "",
  "# Log format: pretty (for development) or json (for production)",
  "format = \"pretty\""]

/-- The text of the template. -/
def template : String := String.join (templateLines.map (· ++ "\n"))

end Settings

end SeriesQuery
