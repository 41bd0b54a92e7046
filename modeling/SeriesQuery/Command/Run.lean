import SeriesQuery.Command.Arguments
import SeriesQuery.Command.Report
import SeriesQuery.Command.Session
import SeriesQuery.Settings.Basic
import SeriesQuery.Wire.Documents

/-!
# Running the program

The session of a command line: settings first, then the work of the command.
-/

namespace SeriesQuery

/-- The name and version of the program. -/
def versionText : String := "sensorflux 0.1.0\n"

/-- A summary of the commands. -/
def helpText : String := String.join ([
  "Usage: sensorflux [OPTIONS] <COMMAND>",
  "",
  "  compile [INPUT] [--no-validate]",
  "  validate [INPUT]",
  "  request [INPUT] [-b BUCKET] [--utc-offset SECONDS] [--single-series]",
  "  decode PATH [--value-column NAME] [--tag-column NAME]",
  "  replay INPUT -r RESULT [--request]",
  "  config [-o OUTPUT] [--check]",
  "",
  "Options: -c, --config PATH; -h, --help; -V, --version"].map (· ++ "\n"))

namespace Command

/-- What a run knows from the start: the environment, the current instant, and the clock of the host. -/
structure Surroundings where
  environment : Settings.Environment
  current : Instant
  /-- The instant at which the clock of the host shows a wall-clock time first, if it does. -/
  locate : Instant → Option Instant

/-- A session that may fail. -/
abbrev Run := ExceptT Failure Session

/-- Asks for the bytes of a file. -/
def content (path : String) : Run Content := ExceptT.lift (.content path .done)

/-! ## Settings -/

/-- What is at a path where settings may be. -/
def candidate (path : String) : Run Settings.Candidate := do
  if ← ExceptT.lift (.present path .done) then
    return ⟨path, some ((← content path).mapError FileFault.reason)⟩
  else return ⟨path, none⟩

/-- The settings: those of the given file, or else of the first usable one of the usual files. -/
def loadSettings (s : Surroundings) : Option String → Run Settings
  | some path => do
    match Settings.load path ((← content path).mapError FileFault.reason) with
    | .ok settings => return settings.withEnvironment s.environment
    | .error e => throw (.error ("loading config " ++ path) [e.message])
  | none => do
    let candidates ← (Settings.defaultPaths s.environment).mapM candidate
    return (Settings.search s.environment candidates).1

/-! ## Documents -/

/-- The bytes of an input file, or of the input of the program. -/
def inputBytes : Option String → Run (String × Content)
  | some path => do return ("reading " ++ path, ← content path)
  | none => do return ("reading stdin", ← ExceptT.lift (.input .done))

/-- The value of the document in an input. -/
def readDocument {α : Type} (read : Json → Except JsonFault α) (input : Option String) : Run α := do
  let (doing, content) ← inputBytes input
  match content with
  | .error fault => throw (.error doing [fault.reason])
  | .ok bytes =>
    match Text.decodeUtf8 bytes with
    | .error _ => throw (.error doing ["stream did not contain valid UTF-8"])
    | .ok text =>
      match Json.decode read text with
      | .ok value => return value
      | .error fault =>
        throw (.error "parsing JSON input" [fault.message?.getD "not a document of this kind"])

/-- A result or the failure that its error means. -/
def orFail {ε α : Type} (failure : ε → Failure) : Except ε α → Run α
  | .ok value => return value
  | .error e => throw (failure e)

/-- A text and the end of its line. -/
def line (text : String) : String := text ++ "\n"

/-- The samples as a document. -/
def printed (samples : List Sample) : String :=
  line (Json.ofItems (samples.map Sample.toJson)).pretty

/-! ## Commands -/

/-- Refuses a query that breaks a rule. -/
def check (s : Surroundings) (q : Query) : Run Unit :=
  orFail (.duringQuery "invalid query") (q.validate s.current)

/-- How the times of a request are placed: in the zone with the given offset, or else by the clock of the
host. -/
def placing (s : Surroundings) : Option Int → Run (Instant → Option Instant)
  | none => return s.locate
  | some east =>
    if Zone.isOffset east then return (Zone.fixed east).earliest?
    else throw (.plain ("UTC offset out of range: " ++ toString east))

/-- The script of the query for a sensor request. -/
def scriptOf (s : Surroundings) (request : SensorRequest) (bucket : String) (east : Option Int)
    (singleSeries : Bool) : Run String := do
  if singleSeries then
    orFail (.duringQuery "incomplete sensor filter") request.filter.requireComplete
  let q ← orFail .ofQuery (request.toQueryBy bucket (← placing s east))
  check s q
  return line (Script.render q)

/-- The cursor at the start of a result file. That a file cannot be read shows only in its rows. -/
def openResult (path : String) : Run Cursor := do
  match ← content path with
  | .ok bytes => return Cursor.ofBytes bytes
  | .error (.unreadable reason) => return Cursor.ofBytes [] (some reason)
  | .error (.unopened reason) =>
    let e := StoreError.io reason
    throw (.error ("opening " ++ path) (e.message :: e.causes))

/-- A service that answers from a result file. -/
def replayService (settings : Settings) (path : String) : Run Service := do
  match ← content path with
  | .error fault =>
    let e := StoreError.io fault.reason
    throw (.error ("opening " ++ path) (e.message :: e.causes))
  | .ok body =>
    orFail .ofNoService (Service.create (Client.replay body) settings.store)

/-- The samples of a query or a sensor request, run on a result file. -/
def replay (s : Surroundings) (settings : Settings) (input result : String) (isRequest : Bool) :
    Run (List Sample) := do
  let service ← replayService settings result
  if isRequest then
    let request ← readDocument SensorRequest.shape.read (some input)
    orFail .ofService (service.runRequest s.current request s.locate).1
  else
    let q ← readDocument Query.shape.read (some input)
    orFail .ofService (service.run s.current q.statement).1

/-- The template, in a file or as the output. -/
def writeTemplate : Option String → Run String
  | none => return Settings.template
  | some path => do
    match ← ExceptT.lift (.save path Settings.template .done) with
    | .ok () => return line ("Config written to " ++ path)
    | .error fault => throw (.error ("writing " ++ path) [fault.reason])

/-- The output of a task. -/
def output (s : Surroundings) (settings : Settings) : Task → Run String
  | .compile input unchecked => do
    let q ← readDocument Query.shape.read input
    if !unchecked then check s q
    return line (Script.render q)
  | .validate input => do
    check s (← readDocument Query.shape.read input)
    return line "valid"
  | .request input bucket east singleSeries => do
    let request ← readDocument SensorRequest.shape.read input
    scriptOf s request (bucket.getD settings.store.bucket) east singleSeries
  | .decode path options => do
    return printed (← orFail .ofQuery (Sample.decode options (.read (← openResult path))))
  | .replay input result isRequest => do
    return printed (← replay s settings input result isRequest)
  | .settings path check => do
    if check then
      orFail .ofSettings settings.store.validate
      return line "Configuration OK"
    else writeTemplate path

/-- The output of an invocation. -/
def invoke (s : Surroundings) (invocation : Invocation) : Run String := do
  output s (← loadSettings s invocation.settingsPath) invocation.task

/-- The session of the words of a command line. -/
def run (s : Surroundings) (words : List String) : Session Outcome :=
  match Arguments.read words with
  | .ok invocation => Outcome.ofResult <$> (invoke s invocation).run
  | .error .misuse => .done .misuse
  | .error .help => .done { exit := 0, stdout := helpText }
  | .error .version => .done { exit := 0, stdout := versionText }

end Command

end SeriesQuery
