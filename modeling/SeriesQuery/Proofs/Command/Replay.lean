import SeriesQuery.Proofs.Command.Listing
import SeriesQuery.Proofs.Command.Reading
import SeriesQuery.Proofs.Service.Calls
import SeriesQuery.Proofs.Table.RowCells
import SeriesQuery.Proofs.Table.Rows

/-!
# Replaying a result and decoding it

A service over a saved result reads it anew for each run, so the runs of valid queries give what decoding the
result gives, and a replay on the command line has the exit code and the output of a decoding, which is a legible
listing of the samples. On the way to its samples a replay also reads a query or a request;
`exists_call_of_dryRun` finds the call that it makes when checking this input alone succeeds.
-/

namespace SeriesQuery

namespace Service

/-- A service over a saved result decodes it from its start in every run, whatever ran before. -/
theorem IsNew.replay_result_eq {body : List UInt8} {settings : StoreSettings} {s : Service}
    (h : IsNew (Client.replay body) settings s) (before : List Call) (c : Call) (rest : List Call) {script : String}
    (hc : c.script? settings.bucket = some (.ok script)) (hopen : before.any Call.isClose = false) :
    (s.results (before ++ c :: rest))[before.length]? =
      some (some ((Sample.decode c.options (.read (Cursor.ofBytes body))).mapError .query)) := by
  rw [h.result_eq, hc, hopen]
  rfl

end Service

namespace Outcome

/-- Two outcomes have the same exit code and the same output. -/
def Alike (a b : Outcome) : Prop := a.exit = b.exit ∧ a.stdout = b.stdout

/-- The outcome is a success that lists the samples, or a failure without output if there are none to list. -/
def Shows (a : Outcome) : Option (List Sample) → Prop
  | some samples => a.exit = 0 ∧ a.stdout = Sample.listing samples
  | none => a.exit ≠ 0 ∧ a.stdout = ""

end Outcome

namespace Command

/-! ## Decoding -/

variable (entered : List UInt8) (fs : Files)

/-- Opening a result gives a cursor over its bytes. A file that opens and cannot be read gives one that breaks
off at once. -/
theorem valueOn_openResult (path : String) :
    valueOn entered fs (openResult path) = match fs.read path with
      | .ok bytes => .ok (Cursor.ofBytes bytes)
      | .error (.unreadable reason) => .ok (Cursor.ofBytes [] (some reason))
      | .error (.unopened reason) =>
        .error (.error ("opening " ++ path) [(StoreError.io reason).message, reason]) := by
  rw [openResult, valueOn_bind entered fs (reads_content path), valueOn_content]
  rcases fs.read path with ⟨_ | _⟩ | bytes
  · rfl
  · rfl
  · rfl

/-- The task `decode` prints the samples of the file that it names. -/
theorem valueOn_decode (s : Surroundings) (settings : Settings) (path : String) (o : DecodeOptions) :
    valueOn entered fs (output s settings (.decode path o)) =
      (valueOn entered fs (openResult path) >>= fun c =>
        (Sample.decode o (.read c)).mapError Failure.ofQuery).map printed := by
  rw [output, valueOn_bind entered fs (reads_openResult path)]
  cases valueOn entered fs (openResult path) with
  | error e => rfl
  | ok c =>
      show valueOn entered fs (do return printed (← orFail .ofQuery (Sample.decode o (.read c)))) = _
      rw [valueOn_readAndPrint, valueOn_orFail]
      rfl

/-- A source that fails at once has no samples. -/
theorem decode_unreadable (o : DecodeOptions) (reason : String) :
    Sample.decode o (.read (Cursor.ofBytes [] (some reason))) =
      .error (.brokenStream (StoreError.framing (.unreadable reason)).message) := by
  rw [Sample.decode_eq_mapM, Rows.toList, Cursor.toList_eq]
  rfl

/-- The samples of a result file that can be read and decoded. -/
def samplesIn? (fs : Files) (path : String) (o : DecodeOptions) : Option (List Sample) :=
  match fs.read path with
  | .ok body => (Sample.decode o (.read (Cursor.ofBytes body))).toOption
  | .error _ => none

/-- Samples of a file have times that were read with an offset, and are legible therefore. -/
theorem isLegible_of_samplesIn? {fs : Files} {path : String} {o : DecodeOptions} {samples : List Sample}
    (h : samplesIn? fs path o = some samples) : ∀ s ∈ samples, s.IsLegible := by
  unfold samplesIn? at h
  split at h
  · next body _ =>
    intro s hs
    obtain ⟨rows, hrows, hsamples⟩ := Sample.decode_eq_ok_iff.1 (Outcome.toOption_eq_some_iff.1 h)
    obtain ⟨row, hrow, hsample⟩ := Sample.exists_row_of_mem hsamples hs
    have hmem : .ok row ∈ (Cursor.ofBytes body).toList := by
      rw [← Rows.toList, hrows]
      exact List.mem_map_of_mem hrow
    obtain ⟨l, record, hread⟩ := Cursor.exists_row_of_mem_toList hmem
    obtain ⟨header, i, text, datatype, -, -, htime⟩ := Layout.exists_holdsTime_of_row_eq_ok hread
    apply Sample.isLegible_of_isRegular
    rw [hsample.time_eq]
    exact (Cell.isZoned_of_reads htime).isRegular
  · cases h

/-- A result of decoding is shown as its samples. -/
theorem shows_ofResult (x : Except QueryError (List Sample)) :
    (Outcome.ofResult ((x.mapError Failure.ofQuery).map printed)).Shows x.toOption := by
  cases x with
  | error e => exact ⟨Nat.one_ne_zero, rfl⟩
  | ok samples => exact ⟨rfl, printed_eq_listing samples⟩

/-- Decoding a file shows the samples in it. -/
theorem shows_decode (s : Surroundings) (settings : Settings) (path : String) (o : DecodeOptions) :
    (Outcome.ofResult (valueOn entered fs (output s settings (.decode path o)))).Shows (samplesIn? fs path o) := by
  rw [valueOn_decode, valueOn_openResult, samplesIn?]
  cases fs.read path with
  | ok body => exact shows_ofResult _
  | error fault =>
      cases fault with
      | unopened reason => exact ⟨Nat.one_ne_zero, rfl⟩
      | unreadable reason =>
          show (Outcome.ofResult ((Except.mapError _ (Sample.decode o _)).map printed)).Shows none
          rw [decode_unreadable]
          exact ⟨Nat.one_ne_zero, rfl⟩

/-! ## Replaying -/

/-- A service that replays needs the whole file and usable settings. -/
theorem valueOn_replayService (settings : Settings) (path : String) :
    valueOn entered fs (replayService settings path) = match fs.read path with
      | .ok body => (Service.create (Client.replay body) settings.store).mapError .ofNoService
      | .error fault =>
        .error (.error ("opening " ++ path) [(StoreError.io fault.reason).message, fault.reason]) := by
  rw [replayService, valueOn_bind entered fs (reads_content path), valueOn_content]
  cases fs.read path with
  | error fault => rfl
  | ok body => exact valueOn_orFail entered fs _ _

/-- The task that checks the input of a replay without a result. -/
def dryRun (input : String) (isRequest : Bool) : Task :=
  if isRequest then .request (some input) none none false else .validate (some input)

variable {entered : List UInt8} {fs : Files} {s : Surroundings} {settings : Settings}

/-- A run that got past the check has a valid query. -/
theorem validate_of_check {α : Type} {q : Query} {rest : Run α} {a : α}
    (h : valueOn entered fs (check s q >>= fun _ => rest) = .ok a) : q.validate s.current = .ok () := by
  rw [valueOn_bind entered fs (reads_check s q), check, valueOn_orFail] at h
  obtain ⟨u, hcheck, -⟩ := Outcome.bind_eq_ok_iff.mp h
  exact Outcome.mapError_eq_ok_iff.mp hcheck

/-- An input that passes its dry run asks for a call whose query passes, and its replay is this call. -/
theorem exists_call_of_dryRun {input : String} {isRequest : Bool} {text : String}
    (h : valueOn entered fs (output s settings (dryRun input isRequest)) = .ok text) :
    ∃ c script, c.script? settings.store.bucket = some (.ok script) ∧ c.options = {} ∧
      ∀ {path : String} {service : Service} {result : Except ServiceError (List Sample)},
        valueOn entered fs (replayService settings path) = .ok service → (service.call c).1 = some result →
        valueOn entered fs (replay s settings input path isRequest) = result.mapError .ofService := by
  cases isRequest with
  | false =>
      rw [dryRun, if_neg Bool.false_ne_true, output, valueOn_bind entered fs (reads_readDocument _ _)] at h
      obtain ⟨q, hread, hcheck⟩ := Outcome.bind_eq_ok_iff.mp h
      have hvalid : q.validate s.current = .ok () := validate_of_check hcheck
      refine ⟨.run s.current q.statement {}, q.statement.script, Service.Call.script?_run hvalid, rfl, ?_⟩
      intro path service result hservice hresult
      cases hresult
      rw [replay, valueOn_bind entered fs (reads_replayService _ _), hservice]
      show valueOn entered fs (readDocument Query.shape.read (some input) >>= fun q =>
        orFail .ofService (service.run s.current q.statement).1) = _
      rw [valueOn_bind entered fs (reads_readDocument _ _), hread]
      exact valueOn_orFail entered fs _ _
  | true =>
      rw [dryRun, if_pos rfl, output, valueOn_bind entered fs (reads_readDocument _ _)] at h
      obtain ⟨request, hread, hscript⟩ := Outcome.bind_eq_ok_iff.mp h
      have hmapping : valueOn entered fs
          (orFail .ofQuery (request.toQueryBy settings.store.bucket s.locate) >>= fun q =>
            check s q >>= fun _ => pure (line (Script.render q))) = .ok text := hscript
      rw [valueOn_bind entered fs (reads_orFail _ _), valueOn_orFail] at hmapping
      obtain ⟨q, hmapped, hcheck⟩ := Outcome.bind_eq_ok_iff.mp hmapping
      have hquery : request.toQueryBy settings.store.bucket s.locate = .ok q :=
        Outcome.mapError_eq_ok_iff.mp hmapped
      have hvalid : q.validate s.current = .ok () := validate_of_check hcheck
      refine ⟨.request s.current request s.locate, Script.render q,
        Service.Call.script?_request hquery hvalid, rfl, ?_⟩
      intro path service result hservice hresult
      cases hresult
      rw [replay, valueOn_bind entered fs (reads_replayService _ _), hservice]
      show valueOn entered fs (readDocument SensorRequest.shape.read (some input) >>= fun request =>
        orFail .ofService (service.runRequest s.current request s.locate).1) = _
      rw [valueOn_bind entered fs (reads_readDocument _ _), hread]
      exact valueOn_orFail entered fs _ _

/-- The settings of a store that a service can be created with. -/
def Usable (settings : StoreSettings) : Prop :=
  0 < settings.maxConcurrentQueries ∧ settings.maxConcurrentQueries ≤ Service.mostQueries

/-- Over a file that can be read, usable settings give a new service. -/
theorem exists_replayService (entered : List UInt8) {path : String} {body : List UInt8}
    (hread : fs.read path = .ok body) (h : Usable settings.store) :
    ∃ service, valueOn entered fs (replayService settings path) = .ok service ∧
      Service.IsNew (Client.replay body) settings.store service := by
  obtain ⟨hlow, hhigh⟩ := h
  have hcreate : Service.create (Client.replay body) settings.store = .ok _ :=
    (if_neg (Nat.ne_of_gt hlow)).trans (if_neg (Nat.not_lt.mpr hhigh))
  refine ⟨_, ?_, Service.isNew_of_create hcreate (settings.store.queryTimeoutSecs * nanosPerSecond)⟩
  rw [valueOn_replayService, hread]
  dsimp only
  rw [hcreate]
  rfl

/-- With a file that can be read, a replay gives the samples of the file. -/
theorem valueOn_replay_of_dryRun {input path : String} {isRequest : Bool} {text : String} {body : List UInt8}
    (hpassed : valueOn entered fs (output s settings (dryRun input isRequest)) = .ok text)
    (hread : fs.read path = .ok body) (h : Usable settings.store) :
    valueOn entered fs (replay s settings input path isRequest) =
      (Sample.decode {} (.read (Cursor.ofBytes body))).mapError fun e => .ofService (.query e) := by
  obtain ⟨c, script, hc, hoptions, hreplay⟩ := exists_call_of_dryRun hpassed
  obtain ⟨service, hservice, hnew⟩ := exists_replayService entered hread h
  have hcall : (service.call c).1 = some ((Sample.decode {} (.read (Cursor.ofBytes body))).mapError .query) := by
    rw [← hoptions]
    exact Option.some.inj (hnew.replay_result_eq [] c [] hc rfl)
  rw [hreplay hservice hcall]
  cases Sample.decode {} (.read (Cursor.ofBytes body)) with
  | error e => rfl
  | ok samples => rfl

/-- A file that cannot be read ends the replay before its query is read. -/
theorem valueOn_replay_of_error {path : String} {fault : FileFault} (hread : fs.read path = .error fault)
    (input : String) (isRequest : Bool) :
    valueOn entered fs (replay s settings input path isRequest) =
      .error (.error ("opening " ++ path) [(StoreError.io fault.reason).message, fault.reason]) := by
  rw [replay, valueOn_bind entered fs (reads_replayService _ _), valueOn_replayService, hread]
  rfl

/-! ## The two paths -/

/-- At most the sentence for a failure differs. -/
theorem alike_of_dryRun {input path : String} {isRequest : Bool} {text : String}
    (hpassed : valueOn entered fs (output s settings (dryRun input isRequest)) = .ok text)
    (h : Usable settings.store) :
    (Outcome.ofResult (valueOn entered fs (output s settings (.replay input path isRequest)))).Alike
      (Outcome.ofResult (valueOn entered fs (output s settings (.decode path {})))) := by
  have hprinted : valueOn entered fs (output s settings (.replay input path isRequest)) =
      (valueOn entered fs (replay s settings input path isRequest)).map printed :=
    valueOn_readAndPrint entered fs _
  rw [hprinted, valueOn_decode, valueOn_openResult]
  cases hread : fs.read path with
  | ok body =>
      rw [valueOn_replay_of_dryRun hpassed hread h]
      show Outcome.Alike (.ofResult ((Except.mapError _ _).map _)) (.ofResult ((Except.mapError _ _).map _))
      cases Sample.decode {} (.read (Cursor.ofBytes body)) with
      | ok samples => exact ⟨rfl, rfl⟩
      | error e => exact ⟨rfl, rfl⟩
  | error fault =>
      rw [valueOn_replay_of_error hread]
      cases fault with
      | unopened reason => exact ⟨rfl, rfl⟩
      | unreadable reason =>
          -- decoding opens such a file and fails with its first row
          show Outcome.Alike _ (.ofResult ((Except.mapError _ (Sample.decode {} _)).map _))
          rw [decode_unreadable]
          exact ⟨rfl, rfl⟩

/-- A query run over a saved result gives what decoding the result gives, in a service and on the command
line. -/
structure ReplayIsDecoding : Prop where
  /-- In a service, each run before a close decodes the whole result, whatever ran before it. -/
  result_eq : ∀ (body : List UInt8) (settings : StoreSettings) (service : Service) (deadline : Nat),
    Service.create (Client.replay body) settings = .ok service →
    ∀ (before : List Service.Call) (c : Service.Call) (rest : List Service.Call) (script : String),
      c.script? settings.bucket = some (.ok script) → before.any Service.Call.isClose = false →
      ((service.withDeadline deadline).results (before ++ c :: rest))[before.length]? =
        some (some ((Sample.decode c.options (.read (Cursor.ofBytes body))).mapError .query))
  /-- On the command line, an input that passes its dry run is replayed to the output for its result file, and
  the replay fails when the decoding does. -/
  alike : ∀ (s : Surroundings) (entered : List UInt8) (fs : Files) (settingsPath : Option String)
    (input path : String) (isRequest : Bool) (checking replaying decoding : List String),
    Arguments.read checking = .ok ⟨dryRun input isRequest, settingsPath⟩ →
    Arguments.read replaying = .ok ⟨.replay input path isRequest, settingsPath⟩ →
    Arguments.read decoding = .ok ⟨.decode path {}, settingsPath⟩ →
    (outcomeOn entered fs s checking).exit = 0 →
    (∀ settings, valueOn entered fs (loadSettings s settingsPath) = .ok settings → Usable settings.store) →
    (outcomeOn entered fs s replaying).Alike (outcomeOn entered fs s decoding)
  /-- That output is the listing of the samples in the file. -/
  shows : ∀ (s : Surroundings) (entered : List UInt8) (fs : Files) (settingsPath : Option String)
    (settings : Settings) (path : String) (options : DecodeOptions) (decoding : List String),
    Arguments.read decoding = .ok ⟨.decode path options, settingsPath⟩ →
    valueOn entered fs (loadSettings s settingsPath) = .ok settings →
    (outcomeOn entered fs s decoding).Shows (samplesIn? fs path options)
  /-- The texts in it tell what the samples are. -/
  legible : ∀ (fs : Files) (path : String) (options : DecodeOptions) (samples : List Sample),
    samplesIn? fs path options = some samples → ∀ sample ∈ samples, sample.IsLegible

/-- Only a run that gives a text ends with exit code zero. -/
theorem exists_ok_of_exit_eq_zero {x : Except Failure String} (h : (Outcome.ofResult x).exit = 0) :
    ∃ text, x = .ok text := by
  rcases x with ⟨_ | _⟩ | text
  · cases h
  · cases h
  · exact ⟨text, rfl⟩

/-- A replay answers every query and request as decoding the file answers it, and prints what was decoded. -/
theorem replayIsDecoding : ReplayIsDecoding where
  result_eq := by
    intro body settings service deadline hcreate before c rest script hc hopen
    exact (Service.isNew_of_create hcreate deadline).replay_result_eq before c rest hc hopen
  alike := by
    intro s entered fs settingsPath input path isRequest checking replaying decoding hchecking hreplaying hdecoding
      hexit husable
    rw [outcomeOn_eq _ _ s hchecking] at hexit
    obtain ⟨text, hvalue⟩ := exists_ok_of_exit_eq_zero hexit
    rw [valueOn_invoke] at hvalue
    obtain ⟨settings, hsettings, hpassed⟩ := Outcome.bind_eq_ok_iff.mp hvalue
    rw [outcomeOn_eq _ _ s hreplaying, outcomeOn_eq _ _ s hdecoding, valueOn_invoke, valueOn_invoke, hsettings]
    exact alike_of_dryRun hpassed (husable settings hsettings)
  shows := by
    intro s entered fs settingsPath settings path options decoding hdecoding hsettings
    rw [outcomeOn_eq _ _ s hdecoding, valueOn_invoke, hsettings]
    exact shows_decode entered fs s settings path options
  legible := fun _ _ _ _ => isLegible_of_samplesIn?

/-- One row of a saved result. -/
def savedRow : List UInt8 :=
  ("#datatype,string,long,dateTime:RFC3339,double\n" ++
    ",result,table,_time,_value\n" ++
    ",,0,2024-01-15T13:05:00Z,21.5\n").toUTF8.toList

/-- The text of a request for an hour of that day, on the wall clock of the host. -/
def savedRequest : List UInt8 :=
  ("\x7b\"measurement\": \"air\", \"start\": \"2024-01-15 14:00:00\", " ++
    "\"stop\": \"2024-01-15 15:00:00\", \"interval\": \"10m\"\x7d").toUTF8.toList

/-- The request and the result in one folder. -/
def twoFiles : Files where
  directory := []
  entries := [(["request.json"], savedRequest), (["result.csv"], savedRow)]

/-- A host whose clock is an hour ahead of UTC. -/
def easternHost : Surroundings where
  environment := [("SENSORFLUX_STORE_BUCKET", "sensors")]
  current := ⟨1705330000, 0⟩
  locate := (Zone.fixed 3600).earliest?

/-- On that host the request is replayed: twice in a service, and on the command line, where its output is the
listing of the row. -/
theorem replayIsDecoding_savedRow :
    let good := Service.Call.run ⟨0, 0⟩ Service.lastHourOfAir.statement {}
    (∃ service, Service.create (Client.replay savedRow) {} = .ok service ∧
      ((service.withDeadline 1).results [good, good])[1]? =
        some (some ((Sample.decode {} (.read (Cursor.ofBytes savedRow))).mapError .query))) ∧
    (outcomeOn [] twoFiles easternHost ["request", "request.json"]).exit = 0 ∧
    (outcomeOn [] twoFiles easternHost ["replay", "request.json", "--request", "-r", "result.csv"]).Alike
      (outcomeOn [] twoFiles easternHost ["decode", "result.csv"]) ∧
    (outcomeOn [] twoFiles easternHost ["decode", "result.csv"]).Shows
      (some [⟨⟨1705323900, 0⟩, some (.ofRatio false 43 2), ""⟩]) ∧
    Sample.IsLegible ⟨⟨1705323900, 0⟩, some (.ofRatio false 43 2), ""⟩ := by
  intro good
  have hvalid : good.script? "" = some (.ok (Script.render Service.lastHourOfAir)) := by decide +kernel
  have hexit : (outcomeOn [] twoFiles easternHost ["request", "request.json"]).exit = 0 := by decide +kernel
  have hsettings : valueOn [] twoFiles (loadSettings easternHost none) =
      .ok (Settings.withEnvironment {} easternHost.environment) := rfl
  have hsamples : samplesIn? twoFiles "result.csv" {} =
      some [⟨⟨1705323900, 0⟩, some (.ofRatio false 43 2), ""⟩] := by
    have hread : twoFiles.read "result.csv" = .ok savedRow := rfl
    rw [samplesIn?, hread]
    dsimp only
    rw [Sample.decode_eq_mapM, Rows.toList, Cursor.toList_eq]
    decide +kernel
  refine ⟨⟨_, rfl, ?_⟩, hexit, ?_, ?_, ?_⟩
  · exact replayIsDecoding.result_eq savedRow {} _ 1 rfl [good] good [] _ hvalid rfl
  · refine replayIsDecoding.alike easternHost [] twoFiles none "request.json" "result.csv" true
      ["request", "request.json"] ["replay", "request.json", "--request", "-r", "result.csv"]
      ["decode", "result.csv"] rfl rfl rfl hexit ?_
    intro settings h
    cases hsettings.symm.trans h
    exact ⟨by decide, by decide⟩
  · rw [← hsamples]
    exact replayIsDecoding.shows easternHost [] twoFiles none _ "result.csv" {} ["decode", "result.csv"] rfl
      hsettings
  · exact replayIsDecoding.legible twoFiles "result.csv" {} _ hsamples _ (List.mem_singleton.2 rfl)

end Command

end SeriesQuery
