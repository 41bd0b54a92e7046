import SeriesQuery.Text.Quoted

/-!
# Store settings

What a session with the store needs, and what can be wrong with settings.
-/

namespace SeriesQuery

/-- The settings of the store. -/
structure StoreSettings where
  address : String := "http://localhost:8086"
  org : String := ""
  bucket : String := ""
  token : String := ""
  queryTimeoutSecs : Nat := 20
  maxConcurrentQueries : Nat := 10
  deriving DecidableEq, Repr

/-- Why settings cannot be loaded or used. -/
inductive SettingsError where
  | unreadable (path reason : String)
  | malformed (path reason : String)
  | emptySetting (name : String)
  | noConcurrentQueries
  deriving DecidableEq, Repr

namespace SettingsError

/-- The sentence for the error. -/
def message : SettingsError → String
  | unreadable path reason =>
    "Failed to read config file " ++ Text.quoted path ++ ": " ++ reason
  | malformed path reason =>
    "Failed to parse config file " ++ Text.quoted path ++ ": " ++ reason
  | emptySetting name => "Invalid configuration: store: " ++ name ++ " could not be empty"
  | noConcurrentQueries =>
    "Invalid configuration: store: max_concurrent_queries must be at least 1"

end SettingsError

namespace StoreSettings

/-- The settings that must not be empty, in the order of their check. -/
def required (s : StoreSettings) : List (String × String) :=
  [("address", s.address), ("bucket", s.bucket), ("token", s.token), ("org", s.org)]

/-- The first setting that is missing or unusable, if any. -/
def validate (s : StoreSettings) : Except SettingsError Unit :=
  match s.required.find? fun (_, value) => value = "" with
  | some (name, _) => .error (.emptySetting name)
  | none => if s.maxConcurrentQueries = 0 then .error .noConcurrentQueries else .ok ()

end StoreSettings

end SeriesQuery
