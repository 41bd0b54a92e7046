import SeriesQuery.Query.Script
import SeriesQuery.Query.SensorRequest
import SeriesQuery.Sample
import SeriesQuery.Settings.Store

/-!
# The query service

A service runs queries one after the other through a store client: it checks the query, takes a permit,
submits the script, decodes the rows of the answer, and gives the permit back. It never retries. Every
submission is kept in a log, whatever comes of it, and a closed service submits nothing more.
-/

namespace SeriesQuery

/-- What reaches the store. -/
structure Submission where
  org : String
  script : String
  deriving DecidableEq, Repr

/-- What a store client does with a submission. -/
inductive Answer where
  /-- Sends rows, which are still to be pulled. -/
  | rows (rows : Rows)
  /-- Refuses or fails at once. -/
  | failure (error : StoreError)
  /-- Sends nothing before any deadline. -/
  | silence
  /-- Sends rows whose reading breaks down. -/
  | collapse

/-- A store client: its answer to a submission, given the submissions before, the first one first. -/
abbrev Client := List Submission → Submission → Answer

namespace Client

/-- Answers every script with the same result. -/
def replay (body : List UInt8) : Client := fun _ _ => .rows (.read (Cursor.ofBytes body))

end Client

/-- Something that can be checked and rendered as a script. -/
structure Statement where
  validate : Instant → Except QueryError Unit
  script : String

/-- The statement of a query. -/
def Query.statement (q : Query) : Statement := ⟨q.validate, Script.render q⟩

/-- Why a run gives no samples. -/
inductive ServiceError where
  | query (error : QueryError)
  | store (error : StoreError)
  | settings (error : SettingsError)
  | decode
  | timeout (nanos : Nat)
  | closed
  deriving DecidableEq, Repr

namespace ServiceError

/-- The sentence for the error. -/
def message : ServiceError → String
  | query error => "Query error: " ++ error.message
  | store error => "Store error: " ++ error.message
  | settings error => "Configuration error: " ++ error.message
  | decode => "Decode task failed"
  | timeout nanos => "Query timed out after " ++ Duration.brief nanos
  | closed => "Query service is closed"

/-- The errors behind the error, the nearest first. -/
def causes : ServiceError → List String
  | query error => [error.message]
  | store error => error.message :: error.causes
  | settings error => [error.message]
  | decode => []
  | timeout _ => []
  | closed => []

end ServiceError

/-- Why there is no service for some settings. -/
inductive NoService where
  | settings (error : SettingsError)
  /-- More queries at a time than can be counted. -/
  | uncountable
  deriving DecidableEq, Repr

/-- A service over a client. -/
structure Service where
  client : Client
  org : String
  bucket : String
  /-- How long a run may take, in nanoseconds. -/
  deadline : Nat
  /-- The permits for runs that are free. -/
  permits : Nat
  closed : Bool := false
  /-- What reached the client, the first submission first. -/
  log : List Submission := []

namespace Service

/-- The greatest number of queries at a time that a service can count. -/
def mostQueries : Nat := twoTo 61 - 1

/-- A service with the settings of a store. At least one query has to be allowed at a time. -/
def create (client : Client) (settings : StoreSettings) : Except NoService Service :=
  if settings.maxConcurrentQueries = 0 then .error (.settings .noConcurrentQueries)
  else if mostQueries < settings.maxConcurrentQueries then .error .uncountable
  else .ok {
    client := client
    org := settings.org
    bucket := settings.bucket
    deadline := settings.queryTimeoutSecs * nanosPerSecond
    permits := settings.maxConcurrentQueries }

/-- The service with another deadline. -/
def withDeadline (s : Service) (nanos : Nat) : Service := { s with deadline := nanos }

/-- Refuses all queries from now on. -/
def close (s : Service) : Service := { s with closed := true }

/-- Takes a permit. A closed service gives none, and a run that finds none free waits until its
deadline. -/
def acquire (s : Service) : Except ServiceError Service :=
  if s.closed then .error .closed
  else if s.permits = 0 then .error (.timeout s.deadline)
  else .ok { s with permits := s.permits - 1 }

/-- Gives a permit back. -/
def release (s : Service) : Service := { s with permits := s.permits + 1 }

/-- Sends a script to the client: its answer, and the service with the script in its log. -/
def submit (s : Service) (script : String) : Answer × Service :=
  let submission : Submission := ⟨s.org, script⟩
  (s.client s.log submission, { s with log := s.log ++ [submission] })

/-- The samples in an answer. -/
def samples (s : Service) (o : DecodeOptions) : Answer → Except ServiceError (List Sample)
  | .rows rows => (Sample.decode o rows).mapError .query
  | .failure error => .error (.store error)
  | .silence => .error (.timeout s.deadline)
  | .collapse => .error .decode

/-- Runs a statement: its result, and the service afterwards. The permit comes back however the run
ends. -/
def run (s : Service) (current : Instant) (statement : Statement) (o : DecodeOptions := {}) :
    Except ServiceError (List Sample) × Service :=
  match statement.validate current with
  | .error e => (.error (.query e), s)
  | .ok () =>
    match s.acquire with
    | .error e => (.error e, s)
    | .ok running =>
      let (answer, sent) := running.submit statement.script
      (sent.samples o answer, sent.release)

/-- Runs the query of a sensor request in the bucket of the service. The clock of the host places the times
of the request. -/
def runRequest (s : Service) (current : Instant) (request : SensorRequest)
    (locate : Instant → Option Instant) : Except ServiceError (List Sample) × Service :=
  match request.toQueryBy s.bucket locate with
  | .error e => (.error (.query e), s)
  | .ok q => s.run current q.statement

/-- A call of the service. -/
inductive Call where
  | run (current : Instant) (statement : Statement) (options : DecodeOptions)
  | request (current : Instant) (request : SensorRequest) (locate : Instant → Option Instant)
  | close

/-- The result of a call, if it has one, and the service afterwards. -/
def call (s : Service) : Call → Option (Except ServiceError (List Sample)) × Service
  | .run current statement options => (s.run current statement options).map some id
  | .request current request locate => (s.runRequest current request locate).map some id
  | .close => (none, s.close)

/-- The results of calls one after the other, and the service afterwards. -/
def calls (s : Service) :
    List Call → List (Option (Except ServiceError (List Sample))) × Service
  | [] => ([], s)
  | c :: rest =>
    let (result, next) := s.call c
    let (results, last) := next.calls rest
    (result :: results, last)

end Service

end SeriesQuery
