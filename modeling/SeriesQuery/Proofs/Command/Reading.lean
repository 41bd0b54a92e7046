import SeriesQuery.Command.Run

/-!
# What a run reads

A session that writes no file leaves the files as they are, so whatever comes after it sees the same ones.
Over fixed files such a run is no more than its value, and `valueOn_bind` computes this value step by step.
-/

namespace SeriesQuery

namespace Session

variable {α β γ : Type}

/-- To go on with nothing more changes no session. -/
theorem bind_done (s : Session α) : s.bind done = s := by
  induction s with
  | done value => rfl
  | present path next ih => exact congrArg (present path) (funext ih)
  | content path next ih => exact congrArg (content path) (funext ih)
  | input next ih => exact congrArg input (funext ih)
  | save path text next ih => exact congrArg (save path text) (funext ih)

/-- Three sessions one after another do not depend on how they are grouped. -/
theorem bind_assoc (s : Session α) (f : α → Session β) (g : β → Session γ) :
    (s.bind f).bind g = s.bind fun a => (f a).bind g := by
  induction s with
  | done value => rfl
  | present path next ih => exact congrArg (present path) (funext ih)
  | content path next ih => exact congrArg (content path) (funext ih)
  | input next ih => exact congrArg input (funext ih)
  | save path text next ih => exact congrArg (save path text) (funext ih)

instance : LawfulMonad Session :=
  LawfulMonad.mk' Session bind_done (fun _ _ => rfl) bind_assoc

/-- The session writes no file, whatever the answers are. -/
def ReadsOnly : Session α → Prop
  | done _ => True
  | present _ next => ∀ answer, (next answer).ReadsOnly
  | content _ next => ∀ answer, (next answer).ReadsOnly
  | input next => ∀ answer, (next answer).ReadsOnly
  | save _ _ _ => False

/-- Two sessions that only read, one after the other, only read. -/
theorem ReadsOnly.bind {s : Session α} {f : α → Session β} (hs : s.ReadsOnly) (hf : ∀ a, (f a).ReadsOnly) :
    (s >>= f).ReadsOnly := by
  show (s.bind f).ReadsOnly
  induction s with
  | done value => exact hf value
  | present path next ih => exact fun answer => ih answer (hs answer)
  | content path next ih => exact fun answer => ih answer (hs answer)
  | input next ih => exact fun answer => ih answer (hs answer)
  | save path text next ih => exact hs.elim

variable (entered : List UInt8) (fs : Files)

/-- The second session runs over the files that the first has left. -/
theorem runOn_bind (s : Session α) (f : α → Session β) :
    (s >>= f).runOn entered fs = (f (s.runOn entered fs).1).runOn entered (s.runOn entered fs).2 := by
  show (s.bind f).runOn entered fs = _
  induction s generalizing fs with
  | done value => rfl
  | present path next ih => exact ih _ fs
  | content path next ih => exact ih _ fs
  | input next ih => exact ih _ fs
  | save path text next ih =>
      rw [bind, runOn, runOn]
      cases fs.write path text.toUTF8.toList with
      | ok written => exact ih _ written
      | error fault => exact ih _ fs

/-- A session that only reads leaves the files as they are. -/
theorem ReadsOnly.files_eq {s : Session α} (hs : s.ReadsOnly) : (s.runOn entered fs).2 = fs := by
  induction s with
  | done value => rfl
  | present path next ih => exact ih _ (hs _)
  | content path next ih => exact ih _ (hs _)
  | input next ih => exact ih _ (hs _)
  | save path text next ih => exact hs.elim

end Session

namespace Command

variable {α β : Type}

/-- The run writes no file. -/
def Reads (r : Run α) : Prop := r.run.ReadsOnly

/-! ## Runs that write nothing -/

theorem reads_pure (a : α) : Reads (pure a) := trivial

theorem reads_throw (e : Failure) : Reads (throw e : Run α) := trivial

/-- Two runs that only read, one after the other, only read. -/
theorem reads_bind {r : Run α} {f : α → Run β} (hr : Reads r) (hf : ∀ a, Reads (f a)) : Reads (r >>= f) := by
  apply Session.ReadsOnly.bind hr
  intro outcome
  cases outcome with
  | error e => exact trivial
  | ok a => exact hf a

/-- To read a file writes none. -/
theorem reads_content (path : String) : Reads (content path) := fun _ => trivial

theorem reads_orFail {ε : Type} (failure : ε → Failure) (x : Except ε α) : Reads (orFail failure x) := by
  cases x with
  | error e => exact reads_throw (failure e)
  | ok a => exact reads_pure a

/-- A run over a list only reads if it does for each element. -/
theorem reads_mapM {f : α → Run β} (hf : ∀ a, Reads (f a)) (as : List α) : Reads (as.mapM f) := by
  induction as with
  | nil => exact reads_pure []
  | cons a as ih =>
      rw [List.mapM_cons]
      exact reads_bind (hf a) fun b => reads_bind ih fun bs => reads_pure (b :: bs)

theorem reads_candidate (path : String) : Reads (candidate path) := by
  refine reads_bind (fun _ => trivial) fun found => ?_
  cases found with
  | false => exact reads_pure _
  | true => exact reads_bind (reads_content path) fun _ => reads_pure _

/-- The settings are searched for by reading. -/
theorem reads_loadSettings (s : Surroundings) (path : Option String) : Reads (loadSettings s path) := by
  cases path with
  | none => exact reads_bind (reads_mapM reads_candidate _) fun _ => reads_pure _
  | some path =>
      refine reads_bind (reads_content path) fun content => ?_
      split
      · exact reads_pure _
      · exact reads_throw _

/-- A document is read from a file or from the standard input. -/
theorem reads_readDocument (read : Json → Except JsonFault α) (input : Option String) :
    Reads (readDocument read input) := by
  have hinput : Reads (inputBytes input) := by
    cases input with
    | none => exact reads_bind (fun _ => trivial) fun _ => reads_pure _
    | some path => exact reads_bind (reads_content path) fun _ => reads_pure _
  refine reads_bind hinput fun (doing, content) => ?_
  cases content with
  | error fault => exact reads_throw _
  | ok bytes =>
      dsimp only
      split
      · exact reads_throw _
      · split
        · exact reads_pure _
        · exact reads_throw _

theorem reads_check (s : Surroundings) (q : Query) : Reads (check s q) := reads_orFail _ _

theorem reads_placing (s : Surroundings) (east : Option Int) : Reads (placing s east) := by
  cases east with
  | none => exact reads_pure _
  | some east =>
      show Reads (if _ then pure _ else throw _)
      split
      · exact reads_pure _
      · exact reads_throw _

/-- The script of a request is made without writing a file. -/
theorem reads_scriptOf (s : Surroundings) (request : SensorRequest) (bucket : String) (east : Option Int)
    (singleSeries : Bool) : Reads (scriptOf s request bucket east singleSeries) := by
  have hrest : Reads (do
      let q ← orFail .ofQuery (request.toQueryBy bucket (← placing s east))
      check s q
      return line (Script.render q)) :=
    reads_bind (reads_placing s east) fun _ => reads_bind (reads_orFail _ _) fun q =>
      reads_bind (reads_check s q) fun _ => reads_pure _
  cases singleSeries with
  | false => exact hrest
  | true => exact reads_bind (reads_orFail _ _) fun _ => hrest

theorem reads_openResult (path : String) : Reads (openResult path) := by
  refine reads_bind (reads_content path) fun content => ?_
  rcases content with ⟨_ | _⟩ | bytes
  · exact reads_throw _
  · exact reads_pure _
  · exact reads_pure _

/-- To open a service that replays a body writes no file. -/
theorem reads_replayService (settings : Settings) (path : String) : Reads (replayService settings path) := by
  refine reads_bind (reads_content path) fun content => ?_
  cases content with
  | error fault => exact reads_throw _
  | ok body => exact reads_orFail _ _

/-- To replay a body writes no file. -/
theorem reads_replay (s : Surroundings) (settings : Settings) (input result : String) (isRequest : Bool) :
    Reads (replay s settings input result isRequest) := by
  refine reads_bind (reads_replayService settings result) fun service => ?_
  cases isRequest with
  | false => exact reads_bind (reads_readDocument _ _) fun _ => reads_orFail _ _
  | true => exact reads_bind (reads_readDocument _ _) fun _ => reads_orFail _ _

/-- Only the settings template is ever written to a file. -/
theorem reads_output (s : Surroundings) (settings : Settings) {task : Task}
    (h : ∀ path, task ≠ .settings (some path) false) : Reads (output s settings task) := by
  cases task with
  | compile input unchecked =>
      refine reads_bind (reads_readDocument _ _) fun q => ?_
      cases unchecked with
      | false => exact reads_bind (reads_check s q) fun _ => reads_pure _
      | true => exact reads_pure _
  | validate input =>
      exact reads_bind (reads_readDocument _ _) fun q => reads_bind (reads_check s q) fun _ => reads_pure _
  | request input bucket east singleSeries =>
      exact reads_bind (reads_readDocument _ _) fun request => reads_scriptOf s request _ east singleSeries
  | decode path options =>
      exact reads_bind (reads_openResult path) fun _ => reads_bind (reads_orFail _ _) fun _ => reads_pure _
  | replay input result isRequest =>
      exact reads_bind (reads_replay s settings input result isRequest) fun _ => reads_pure _
  | settings path check =>
      cases check with
      | true => exact reads_bind (reads_orFail _ _) fun _ => reads_pure _
      | false =>
          cases path with
          | none => exact reads_pure _
          | some path => exact absurd rfl (h path)

/-- A command line leaves the files as they are, unless it asks for the settings template in a file. -/
theorem files_run (s : Surroundings) (entered : List UInt8) (fs : Files) {words : List String}
    (h : ∀ path settingsPath, Arguments.read words ≠ .ok ⟨.settings (some path) false, settingsPath⟩) :
    ((run s words).runOn entered fs).2 = fs := by
  unfold run
  cases hread : Arguments.read words with
  | error refusal => cases refusal <;> rfl
  | ok invocation =>
      have htask : ∀ path, invocation.task ≠ .settings (some path) false := by
        rintro path htask
        exact h path invocation.settingsPath (by rw [hread, ← htask])
      have hinvoke : Reads (invoke s invocation) :=
        reads_bind (reads_loadSettings s invocation.settingsPath) fun settings => reads_output s settings htask
      have hrun : (Outcome.ofResult <$> (invoke s invocation).run).ReadsOnly :=
        Session.ReadsOnly.bind hinvoke fun _ => trivial
      exact hrun.files_eq entered fs

/-! ## Values of runs -/

variable (entered : List UInt8) (fs : Files)

/-- What a run gives over files in memory. -/
def valueOn (r : Run α) : Except Failure α := (r.run.runOn entered fs).1

/-- A run that only reads gives its value to the next, over the same files. -/
theorem valueOn_bind {r : Run α} (hr : Reads r) (f : α → Run β) :
    valueOn entered fs (r >>= f) = valueOn entered fs r >>= fun a => valueOn entered fs (f a) := by
  unfold valueOn
  rw [ExceptT.run_bind, Session.runOn_bind, hr.files_eq]
  cases (r.run.runOn entered fs).1 with
  | error e => rfl
  | ok a => rfl

/-- The content of a file is what stands in the file system. -/
theorem valueOn_content (path : String) : valueOn entered fs (content path) = .ok (fs.read path) := rfl

/-- A result that needs no file is the same over all of them. -/
theorem valueOn_orFail {ε : Type} (failure : ε → Failure) (x : Except ε α) :
    valueOn entered fs (orFail failure x) = x.mapError failure := by
  cases x with
  | error e => rfl
  | ok a => rfl

/-- To print the samples of a run is to print what the run gives. -/
theorem valueOn_readAndPrint (r : Run (List Sample)) :
    valueOn entered fs (do return printed (← r)) = (valueOn entered fs r).map printed := by
  unfold valueOn
  show ((r >>= fun samples => pure (printed samples)).run.runOn entered fs).1 = _
  rw [ExceptT.run_bind, Session.runOn_bind]
  cases (r.run.runOn entered fs).1 with
  | error e => rfl
  | ok a => rfl

/-- A task starts once the settings are loaded. -/
theorem valueOn_invoke (s : Surroundings) (task : Task) (path : Option String) :
    valueOn entered fs (invoke s ⟨task, path⟩) =
      valueOn entered fs (loadSettings s path) >>= fun settings => valueOn entered fs (output s settings task) :=
  valueOn_bind entered fs (reads_loadSettings s path) _

/-- The outcome of a command line over files in memory. -/
def outcomeOn (s : Surroundings) (words : List String) : Outcome := ((run s words).runOn entered fs).1

/-- What a user sees of a task is what the task gives. -/
theorem outcomeOn_eq (s : Surroundings) {words : List String} {invocation : Invocation}
    (h : Arguments.read words = .ok invocation) :
    outcomeOn entered fs s words = Outcome.ofResult (valueOn entered fs (invoke s invocation)) := by
  unfold outcomeOn run
  rw [h]
  show (((invoke s invocation).run >>= fun result => pure (Outcome.ofResult result)).runOn entered fs).1 = _
  rw [Session.runOn_bind]
  rfl

end Command

end SeriesQuery
