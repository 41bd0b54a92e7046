import SeriesQuery.Sample
import SeriesQuery.Text.Numeral

/-!
# Arguments

What the words of a command line ask for. Options belong to a level: to the program, or to one of its
commands. Words are read from left to right, and the first one that breaks a rule, asks for help or asks
for the version decides.
-/

namespace SeriesQuery

/-- A command and its arguments. -/
inductive Task where
  /-- Prints the script of a query. -/
  | compile (input : Option String) (unchecked : Bool)
  /-- Checks a query. -/
  | validate (input : Option String)
  /-- Prints the script of a sensor request. -/
  | request (input bucket : Option String) (east : Option Int) (singleSeries : Bool)
  /-- Prints the samples of a result. -/
  | decode (path : String) (options : DecodeOptions)
  /-- Runs a query or a sensor request on a result. -/
  | replay (input result : String) (isRequest : Bool)
  /-- Writes the settings template, or checks the settings. -/
  | settings (output : Option String) (check : Bool)
  deriving DecidableEq, Repr

/-- A task, and the settings file to use instead of the usual ones. -/
structure Invocation where
  task : Task
  settingsPath : Option String := none
  deriving DecidableEq, Repr

namespace Arguments

/-- Why the words name no task. -/
inductive Refusal where
  /-- A rule is broken. -/
  | misuse
  /-- Help is asked for. -/
  | help
  /-- The version is asked for. -/
  | version
  deriving DecidableEq, Repr

/-- What an option takes. -/
inductive Operand where
  /-- Nothing. -/
  | nothing
  /-- Nothing; the option ends the reading. -/
  | ending (refusal : Refusal)
  /-- Any text. -/
  | text
  /-- A text that is not empty. -/
  | path
  /-- A number of 32 bits. Also a text with a hyphen in front is taken for it. -/
  | number
  deriving DecidableEq, Repr

/-- An option: its name, its letter, and what it takes. -/
structure Flag where
  name : String
  letter : Option Char := none
  operand : Operand := .nothing
  deriving DecidableEq, Repr

/-- What a level admits: options, and positional arguments up to a number. All are paths. -/
structure Level where
  flags : List Flag
  positionals : Nat := 0

/-- The options and positional arguments that were given, the last ones first. -/
structure Given where
  options : List (String × String) := []
  positionals : List String := []
  deriving DecidableEq, Repr

namespace Given

/-- The text given with an option. -/
def value? (g : Given) (name : String) : Option String := g.options.lookup name

/-- An option was given. -/
def has (g : Given) (name : String) : Bool := (g.value? name).isSome

end Given

/-- The number in a text, if it has 32 bits. -/
def number? (text : String) : Option Int :=
  Text.readSigned? 32 text.toList

/-- An operand admits a text. -/
def Operand.admits (o : Operand) (text : String) : Bool :=
  match o with
  | path => text ≠ ""
  | number => (number? text).isSome
  | _ => true

/-- A word that cannot be the operand of an option before it, except of one that takes any word. -/
def isOption (word : String) : Bool :=
  match word.toList with
  | '-' :: _ :: _ => true
  | _ => false

/-- The option with its text, which no option of a level may have twice. -/
def Given.accept (g : Given) (flag : Flag) (text : String) : Except Refusal Given :=
  if g.has flag.name || !flag.operand.admits text then .error .misuse
  else .ok { g with options := (flag.name, text) :: g.options }

/-- One more positional argument. -/
def Given.add (g : Given) (level : Level) (text : String) : Except Refusal Given :=
  if g.positionals.length < level.positionals ∧ text ≠ "" then
    .ok { g with positionals := text :: g.positionals }
  else .error .misuse

/-- The option of a word, and the text that the word attaches to it. A letter takes the rest of its
word, without an equals sign in front. -/
def Level.flag? (level : Level) (word : List Char) : Option (Flag × Option String) :=
  match word with
  | '-' :: '-' :: cs => do
    let name := String.ofList (cs.takeWhile (· ≠ '='))
    let flag ← level.flags.find? (·.name = name)
    match cs.dropWhile (· ≠ '=') with
    | [] => return (flag, none)
    | _ :: attached => return (flag, some (String.ofList attached))
  | '-' :: letter :: cs => do
    let flag ← level.flags.find? (·.letter = some letter)
    match cs with
    | [] => return (flag, none)
    | '=' :: attached => return (flag, some (String.ofList attached))
    | _ => return (flag, some (String.ofList cs))
  | _ => none

/-- Reads the words of a level. A word that is neither an option nor an operand goes to `other`, with the
words after it and what was given so far; after two hyphens every word is a positional argument. -/
def Level.read {α : Type} (level : Level) (finish : Given → Except Refusal α)
    (other : Given → String → List String → Option (Except Refusal α)) (g : Given) :
    List String → Except Refusal α
  | [] => finish g
  | word :: rest =>
    if word = "--" then do finish (← rest.foldlM (·.add level ·) g)
    else if isOption word then
      match level.flag? word.toList with
      | none => .error .misuse
      | some (flag, attached) =>
        match flag.operand, attached with
        | .ending refusal, none => .error refusal
        | .ending refusal, some _ =>
          .error (if word.toList[1]? = some '-' then .misuse else refusal)
        | .nothing, some _ => .error .misuse
        | .nothing, none => do level.read finish other (← g.accept flag "") rest
        | _, some text => do level.read finish other (← g.accept flag text) rest
        | operand, none =>
          match rest with
          | [] => .error .misuse
          | text :: rest =>
            if isOption text && operand ≠ .number then .error .misuse
            else do level.read finish other (← g.accept flag text) rest
    else
      match other g word rest with
      | some result => result
      | none => do level.read finish other (← g.add level word) rest

/-! ## The commands -/

/-- The options that every level has. -/
def commonFlags : List Flag := [
  { name := "config", letter := some 'c', operand := .path },
  { name := "help", letter := some 'h', operand := .ending .help }]

/-- A command: its name, its level, and the task for what was given. -/
structure Verb where
  name : String
  level : Level
  task : Given → Option Task

/-- The positional arguments, the first one first. -/
def Given.paths (g : Given) : List String := g.positionals.reverse

/-- The commands of the program. -/
def verbs : List Verb := [
  { name := "compile"
    level := { flags := [{ name := "no-validate" }], positionals := 1 }
    task := fun g => some (.compile g.paths.head? (g.has "no-validate")) },
  { name := "validate"
    level := { flags := [], positionals := 1 }
    task := fun g => some (.validate g.paths.head?) },
  { name := "request"
    level := {
      flags := [
        { name := "bucket", letter := some 'b', operand := .text },
        { name := "utc-offset", operand := .number },
        { name := "single-series" }]
      positionals := 1 }
    task := fun g => some (.request g.paths.head? (g.value? "bucket")
      ((g.value? "utc-offset").bind number?) (g.has "single-series")) },
  { name := "decode"
    level := {
      flags := [
        { name := "value-column", operand := .text },
        { name := "tag-column", operand := .text }]
      positionals := 1 }
    task := fun g => do
      let usual : DecodeOptions := {}
      return .decode (← g.paths.head?) {
        valueColumn := (g.value? "value-column").getD usual.valueColumn
        tagColumn := (g.value? "tag-column").getD usual.tagColumn } },
  { name := "replay"
    level := {
      flags := [{ name := "result", letter := some 'r', operand := .path }, { name := "request" }]
      positionals := 1 }
    task := fun g => do
      return .replay (← g.paths.head?) (← g.value? "result") (g.has "request") },
  { name := "config"
    level := {
      flags := [{ name := "output", letter := some 'o', operand := .path }, { name := "check" }] }
    task := fun g => some (.settings (g.value? "output") (g.has "check")) }]

/-- The level of the program itself. -/
def programLevel : Level where
  flags := { name := "version", letter := some 'V', operand := .ending .version } :: commonFlags

/-- The invocation of a command, given the options before it. Its own settings file counts before theirs. -/
def Verb.read (verb : Verb) (before : Given) (words : List String) : Except Refusal Invocation :=
  let level := { verb.level with flags := verb.level.flags ++ commonFlags }
  let finish (g : Given) : Except Refusal Invocation :=
    match verb.task g with
    | some task => .ok { task := task, settingsPath := (g.value? "config").or (before.value? "config") }
    | none => .error .misuse
  level.read finish (fun _ _ _ => none) {} words

/-- Help asked for by a command: on the program, or on one command. -/
def readHelp : List String → Refusal
  | [] => .help
  | [name] => if name = "help" ∨ (verbs.any (·.name = name)) then .help else .misuse
  | _ => .misuse

/-- The invocation that the words ask for. -/
def read (words : List String) : Except Refusal Invocation :=
  let command (g : Given) (name : String) (rest : List String) :
      Option (Except Refusal Invocation) :=
    if name = "help" then some (.error (readHelp rest))
    else (verbs.find? (·.name = name)).map (·.read g rest)
  programLevel.read (fun _ => .error .misuse) command {} words

end Arguments

end SeriesQuery
