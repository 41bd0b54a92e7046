import SeriesQuery.Service

/-!
# Reports

How a run of the program ends, and the text for a failure and the errors behind it.
-/

namespace SeriesQuery

/-- Why a run gives no output. -/
inductive Failure where
  /-- An error, and the errors behind it, the nearest first. -/
  | error (message : String) (causes : List String)
  /-- The program breaks down. -/
  | breakdown
  deriving DecidableEq, Repr

namespace Failure

/-- An error with nothing behind it. -/
def plain (message : String) : Failure := error message []

/-- A text with all its lines but the first behind a margin. -/
def indented (margin : Nat) (text : String) : String :=
  String.ofList (text.toList.flatMap fun c =>
    if c = '\n' then c :: List.replicate margin ' ' else [c])

/-- A cause on its own line, with its number. -/
def numberedCause (index : Nat) (cause : String) : String :=
  "\n    " ++ toString index ++ ": " ++ indented 7 cause

/-- The causes: one as it is, several with numbers. -/
def causeText : List String → String
  | [] => ""
  | [cause] => "\n\nCaused by:\n    " ++ indented 4 cause
  | causes =>
    "\n\nCaused by:" ++
      String.join (causes.zipIdx.map fun (cause, index) => numberedCause index cause)

/-- The text of an error for a user. -/
def text (message : String) (causes : List String) : String :=
  "Error: " ++ message ++ causeText causes ++ "\n"

/-- What was being done when a query was refused. -/
def duringQuery (doing : String) (e : QueryError) : Failure := error doing [e.message]

/-- A query that is refused. -/
def ofQuery (e : QueryError) : Failure := plain e.message

/-- Settings that are refused. -/
def ofSettings (e : SettingsError) : Failure := plain e.message

/-- A run of the service that fails. -/
def ofService (e : ServiceError) : Failure := error e.message e.causes

/-- Settings that no service can be made with. -/
def ofNoService : NoService → Failure
  | .settings e => ofService (.settings e)
  | .uncountable => breakdown

end Failure

/-- What a run leaves behind: an exit code and two texts. -/
structure Outcome where
  exit : Nat
  stdout : String := ""
  stderr : String := ""
  deriving DecidableEq, Repr

namespace Outcome

/-- The outcome of a run that gives its output or fails. -/
def ofResult : Except Failure String → Outcome
  | .ok output => { exit := 0, stdout := output }
  | .error (.error message causes) => { exit := 1, stderr := Failure.text message causes }
  | .error .breakdown => { exit := 101 }

/-- The outcome of words that are no invocation. -/
def misuse : Outcome := { exit := 2 }

end Outcome

end SeriesQuery
