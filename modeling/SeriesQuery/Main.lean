import SeriesQuery.Command.Run
import Std.Time.Zoned

/-!
# The program

Runs the session of the command line over real files, the standard streams, the clock and the zone of the
host.
-/

namespace SeriesQuery.Command

/-- The reason for an error of the system. -/
def reasonOf (e : IO.Error) : String :=
  match e with
  | .noFileOrDirectory _ code details => details ++ coded code
  | .permissionDenied _ code details => details ++ coded code
  | .inappropriateType _ code details => details ++ coded code
  | .invalidArgument _ code details => details ++ coded code
  | .resourceExhausted _ code details => details ++ coded code
  | .alreadyExists _ code details => details ++ coded code
  | .noSuchThing _ code details => details ++ coded code
  | .otherError code details => details ++ coded code
  | other => toString other
where
  coded (code : UInt32) : String := " (os error " ++ toString code ++ ")"

/-- The bytes of a file. -/
def fetch (path : String) : IO Content := do
  match ← (IO.FS.Handle.mk path .read).toBaseIO with
  | .error e => return .error (.unopened (reasonOf e))
  | .ok handle =>
    match ← handle.readBinToEnd.toBaseIO with
    | .error e => return .error (.unreadable (reasonOf e))
    | .ok bytes => return .ok bytes.toList

/-- The bytes of the standard input. -/
partial def fetchInput (before : ByteArray) : IO ByteArray := do
  let bytes ← (← IO.getStdin).read 65536
  if bytes.isEmpty then return before else fetchInput (before ++ bytes)

/-- There is something at the path: it can be opened, or another reason than its absence forbids it. -/
def isPresent (path : String) : IO Bool := do
  match ← (IO.FS.Handle.mk path .read).toBaseIO with
  | .ok _ => return true
  | .error (.noFileOrDirectory ..) => return false
  | .error (.inappropriateType ..) => return false
  | .error _ => return true

/-- Puts a text into a file. -/
def put (path text : String) : IO (Except FileFault Unit) := do
  match ← (IO.FS.writeFile path text).toBaseIO with
  | .ok () => return .ok ()
  | .error e => return .error (.unopened (reasonOf e))

/-- Runs a session over the real surroundings. -/
def perform {α : Type} : Session α → IO α
  | .done value => return value
  | .present path next => do perform (next (← isPresent path))
  | .content path next => do perform (next (← fetch path))
  | .input next => do perform (next (.ok (← fetchInput .empty).toList))
  | .save path text next => do perform (next (← put path text))

/-- The variables that count, as far as they are set. -/
def environment : IO Settings.Environment := do
  let set ← Settings.variableNames.filterMapM fun name => do
    return (← IO.getEnv name).map fun value => (name, value.toUTF8.toList)
  return Settings.environmentOf fun name => set.lookup name

/-- The current instant. -/
def currentInstant : IO Instant := do
  let nanos := (← Std.Time.Timestamp.now).toNanosecondsSinceUnixEpoch.toInt
  return ⟨nanos / nanosPerSecond, (nanos % nanosPerSecond).toNat⟩

/-- The rules of the zone that `TZ` names, or else of the zone of the host. -/
def zoneRules : IO Std.Time.TimeZone.ZoneRules := do
  match ← IO.getEnv "TZ" with
  | some name => Std.Time.Database.defaultGetZoneRules name
  | none => Std.Time.Database.defaultGetLocalZoneRules

/-- The offset in force at a UTC second. -/
def offsetUnder (rules : Std.Time.TimeZone.ZoneRules) (secs : Int) : Int :=
  (rules.timezoneAt (.ofSecondsSinceUnixEpoch (.ofInt secs))).offset.second.val

/-- The first instant at which a clock under the rules shows the wall-clock time. The offset in force then is
one of those in force up to a day before or after. -/
def locateUnder (rules : Std.Time.TimeZone.ZoneRules) (shown : Instant) : Option Instant :=
  let day : Int := secondsPerDay
  let near := [-day, 0, day].map fun shift => offsetUnder rules (shown.secs + shift)
  let fitting := near.filter fun east => offsetUnder rules (shown.secs - east) == east
  fitting.max?.bind fun east => shown.shift? (-east)

/-- The clock of the host; one in UTC when the rules of its zone cannot be read. -/
def hostClock : IO (Instant → Option Instant) := do
  match ← zoneRules.toBaseIO with
  | .ok rules => return locateUnder rules
  | .error _ => return Zone.utc.earliest?

/-- Runs the words of a command line and gives the exit code. -/
def start (words : List String) : IO UInt32 := do
  let outcome ← perform (run ⟨← environment, ← currentInstant, ← hostClock⟩ words)
  IO.print outcome.stdout
  IO.eprint outcome.stderr
  return UInt32.ofNat outcome.exit

end SeriesQuery.Command

/-- The program. -/
def main (words : List String) : IO UInt32 := SeriesQuery.Command.start words
