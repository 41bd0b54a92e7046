import Mathlib.Data.List.Basic
import SeriesQuery.Proofs.Outcome
import SeriesQuery.Proofs.Table.Samples
import SeriesQuery.Service

/-!
# Calls of a service, one after the other

`call_eq` says all that one call does: it is refused, or it meets a closed service, or its script reaches the
client. Either way the permit is back afterwards, so `after_eq` and `results_getElem?` give the state and the
result at any point of a sequence of calls: only the calls that were closes and the scripts that passed matter
for what comes next, never how a run ended. `callsStandAlone_of_create` collects what follows.
-/

namespace SeriesQuery.Service

/-! ## What a call asks for -/

namespace Call

/-- The call closes the service. -/
def isClose : Call → Bool
  | close => true
  | _ => false

/-- The script of the query that a call brings, or why this query is refused. A close brings none. -/
def script? (bucket : String) : Call → Option (Except QueryError String)
  | run current statement _ => some do
      statement.validate current
      return statement.script
  | request current r locate => some do
      let q ← r.toQueryBy bucket locate
      q.validate current
      return Script.render q
  | close => none

/-- The columns that a call reads. -/
def options : Call → DecodeOptions
  | run _ _ o => o
  | _ => {}

/-- The script of a call, if its query passes. -/
def passed? (bucket : String) (c : Call) : Option String := (c.script? bucket).bind Except.toOption

/-- Only a close brings no script. -/
theorem script?_eq_none_iff {bucket : String} {c : Call} : c.script? bucket = none ↔ c.isClose := by
  cases c with
  | run current statement o => exact ⟨nofun, nofun⟩
  | request current r locate => exact ⟨nofun, nofun⟩
  | close => exact ⟨fun _ => rfl, fun _ => rfl⟩

/-- A valid statement brings its script. -/
theorem script?_run {bucket : String} {current : Instant} {statement : Statement} {o : DecodeOptions}
    (h : statement.validate current = .ok ()) :
    (run current statement o).script? bucket = some (.ok statement.script) := by
  show some (statement.validate current >>= fun _ => .ok statement.script) = _
  rw [h]
  rfl

/-- A request that is mapped to a valid query brings the script of this query. -/
theorem script?_request {bucket : String} {current : Instant} {r : SensorRequest}
    {locate : Instant → Option Instant} {q : Query} (hq : r.toQueryBy bucket locate = .ok q)
    (h : q.validate current = .ok ()) :
    (request current r locate).script? bucket = some (.ok (Script.render q)) := by
  show some (r.toQueryBy bucket locate >>= fun q => q.validate current >>= fun _ => .ok (Script.render q)) = _
  rw [hq]
  show some (q.validate current >>= fun _ => .ok (Script.render q)) = _
  rw [h]
  rfl

end Call

/-- What reaches the client: the scripts that pass before the first close, in order. -/
def submissions (org bucket : String) (cs : List Call) : List Submission :=
  ((cs.takeWhile (!·.isClose)).filterMap (·.passed? bucket)).map (⟨org, ·⟩)

/-- Behind a close nothing reaches the client. -/
theorem submissions_cons_of_isClose {org bucket : String} {c : Call} (h : c.isClose = true) (cs : List Call) :
    submissions org bucket (c :: cs) = [] := by
  simp only [submissions, List.takeWhile_cons, h, Bool.not_true, Bool.false_eq_true, if_false, List.filterMap_nil,
    List.map_nil]

/-- Before a close, each script that passes does. -/
theorem submissions_cons {org bucket : String} {c : Call} (h : c.isClose = false) (cs : List Call) :
    submissions org bucket (c :: cs) =
      (c.passed? bucket).toList.map (⟨org, ·⟩) ++ submissions org bucket cs := by
  simp only [submissions, List.takeWhile_cons, h, Bool.not_false, if_true, List.filterMap_cons]
  cases c.passed? bucket with
  | none => rfl
  | some script => rfl

/-! ## One call -/

variable {s : Service} {c : Call}

/-- The service with one more submission in its log. -/
def logged (s : Service) (script : String) : Service := { s with log := s.log ++ [⟨s.org, script⟩] }

/-- What comes of a query that was checked, when there is a permit. -/
def serve (s : Service) (o : DecodeOptions) :
    Except QueryError String → Except ServiceError (List Sample) × Service
  | .error e => (.error (.query e), s)
  | .ok script =>
    if s.closed then (.error .closed, s)
    else (s.samples o (s.client s.log ⟨s.org, script⟩), s.logged script)

/-- The permit that a run takes is the one that it gives back. -/
theorem run_eq (hp : 0 < s.permits) (current : Instant) (statement : Statement) (o : DecodeOptions) :
    s.run current statement o =
      s.serve o (statement.validate current >>= fun _ => pure statement.script) := by
  unfold run
  cases statement.validate current with
  | error e => rfl
  | ok _ =>
      by_cases hs : s.closed
      · have hacquire : s.acquire = .error .closed := if_pos hs
        rw [hacquire]
        show _ = s.serve o (.ok statement.script)
        rw [serve, if_pos hs]
      · have hacquire : s.acquire = .ok { s with permits := s.permits - 1 } := by
          rw [acquire, if_neg hs, if_neg (Nat.ne_of_gt hp)]
        rw [hacquire]
        show _ = s.serve o (.ok statement.script)
        rw [serve, if_neg hs]
        -- whatever the answer is, the permit is back
        have hback : s.permits - 1 + 1 = s.permits := Nat.sub_add_cancel hp
        simp only [submit, release, logged, samples, hback]

/-- All that one call does. -/
theorem call_eq (hp : 0 < s.permits) (c : Call) :
    s.call c = match c.script? s.bucket with
      | none => (none, s.close)
      | some checked => (s.serve c.options checked).map some id := by
  cases c with
  | close => rfl
  | run current statement o => rw [call, run_eq hp]; rfl
  | request current r locate =>
      rw [call, runRequest]
      show _ = (s.serve {} (r.toQueryBy s.bucket locate >>= _)).map some id
      cases r.toQueryBy s.bucket locate with
      | error e => rfl
      | ok q => exact congrArg (Prod.map some id) (run_eq hp current q.statement {})

/-- A query that is refused gives its error and leaves the service as it is. -/
theorem call_of_refused (hp : 0 < s.permits) {e : QueryError} (h : c.script? s.bucket = some (.error e)) :
    s.call c = (some (.error (.query e)), s) := by
  rw [call_eq hp, h]
  rfl

/-- A closed service submits nothing. -/
theorem call_of_closed (hp : 0 < s.permits) (hs : s.closed = true) {script : String}
    (h : c.script? s.bucket = some (.ok script)) : s.call c = (some (.error .closed), s) := by
  rw [call_eq hp, h]
  show (s.serve c.options (.ok script)).map some id = _
  rw [serve, if_pos hs]
  rfl

/-- An open service submits the script once, and gives what the answer holds. -/
theorem call_of_passed (hp : 0 < s.permits) (hs : s.closed = false) {script : String}
    (h : c.script? s.bucket = some (.ok script)) :
    s.call c = (some (s.samples c.options (s.client s.log ⟨s.org, script⟩)), s.logged script) := by
  rw [call_eq hp, h]
  show (s.serve c.options (.ok script)).map some id = _
  rw [serve, if_neg (Bool.eq_false_iff.mp hs)]
  rfl

/-- The result of a call, from how its query was checked and from the answer that its script would get. -/
def resultOf (s : Service) (closed : Bool) (o : DecodeOptions) (answer : String → Answer) :
    Option (Except QueryError String) → Option (Except ServiceError (List Sample))
  | none => none
  | some (.error e) => some (.error (.query e))
  | some (.ok script) => some (if closed then .error .closed else s.samples o (answer script))

/-- The result of a call, told by its script and the answer. -/
theorem call_fst (hp : 0 < s.permits) (c : Call) :
    (s.call c).1 =
      s.resultOf s.closed c.options (fun script => s.client s.log ⟨s.org, script⟩) (c.script? s.bucket) := by
  cases h : c.script? s.bucket with
  | none => rw [call_eq hp, h]; rfl
  | some checked =>
      cases checked with
      | error e => rw [call_of_refused hp h]; rfl
      | ok script =>
          cases hs : s.closed with
          | true => rw [call_of_closed hp hs h]; rfl
          | false => rw [call_of_passed hp hs h]; rfl

/-! ## Calls one after the other -/

/-- The service after calls. -/
def after (s : Service) (cs : List Call) : Service := (s.calls cs).2

/-- The results of calls, in order. -/
def results (s : Service) (cs : List Call) : List (Option (Except ServiceError (List Sample))) :=
  (s.calls cs).1

theorem after_cons (s : Service) (c : Call) (cs : List Call) : s.after (c :: cs) = (s.call c).2.after cs := rfl

theorem results_cons (s : Service) (c : Call) (cs : List Call) :
    s.results (c :: cs) = (s.call c).1 :: (s.call c).2.results cs := rfl

/-- Calls follow on the service that the calls before them leave. -/
theorem after_append (s : Service) (cs ds : List Call) : s.after (cs ++ ds) = (s.after cs).after ds := by
  induction cs generalizing s with
  | nil => rfl
  | cons c cs ih => exact ih (s.call c).2

/-- The result of a call among others is its result on the service after the calls before it. -/
theorem results_getElem? (s : Service) (before : List Call) (c : Call) (rest : List Call) :
    (s.results (before ++ c :: rest))[before.length]? = some ((s.after before).call c).1 := by
  induction before generalizing s with
  | nil => rfl
  | cons b before ih => exact ih (s.call b).2

/-- A closed service stays as it is. -/
theorem after_of_closed (hp : 0 < s.permits) (hs : s.closed = true) (cs : List Call) : s.after cs = s := by
  induction cs with
  | nil => rfl
  | cons c cs ih =>
      have hstep : (s.call c).2 = s := by
        cases h : c.script? s.bucket with
        | none =>
            rw [call_eq hp, h]
            show { s with closed := true } = s
            rw [← hs]
        | some checked =>
            cases checked with
            | error e => rw [call_of_refused hp h]
            | ok script => rw [call_of_closed hp hs h]
      rw [after_cons, hstep, ih]

/-- Calls change nothing of an open service but whether it is closed, and its log. -/
theorem after_eq (hp : 0 < s.permits) (hs : s.closed = false) (cs : List Call) :
    s.after cs = { s with
      closed := cs.any Call.isClose
      log := s.log ++ submissions s.org s.bucket cs } := by
  induction cs generalizing s with
  | nil =>
      show s = { s with closed := false, log := s.log ++ [] }
      rw [← hs, List.append_nil]
  | cons c cs ih =>
      rw [after_cons]
      cases h : c.script? s.bucket with
      | none =>
          have hclose : c.isClose = true := Call.script?_eq_none_iff.mp h
          have hstep : (s.call c).2 = s.close := by rw [call_eq hp, h]
          -- the calls after a close do nothing
          rw [hstep, after_of_closed (show 0 < s.close.permits from hp) rfl, submissions_cons_of_isClose hclose,
            List.any_cons, hclose, Bool.true_or, List.append_nil]
          rfl
      | some checked =>
          have hclose : c.isClose = false := by
            rw [← Bool.not_eq_true, ← Call.script?_eq_none_iff, h]
            exact nofun
          cases checked with
          | error e =>
              have hpassed : c.passed? s.bucket = none := by rw [Call.passed?, h]; rfl
              rw [call_of_refused hp h, ih hp hs, submissions_cons hclose, hpassed, List.any_cons, hclose,
                Bool.false_or]
              rfl
          | ok script =>
              have hpassed : c.passed? s.bucket = some script := by rw [Call.passed?, h]; rfl
              have hlogged : 0 < (s.logged script).permits := hp
              rw [call_of_passed hp hs h, ih hlogged hs, submissions_cons hclose, hpassed, List.any_cons, hclose,
                Bool.false_or, ← List.append_assoc]
              rfl

/-! ## New services -/

/-- What a service brings into its first call: the client and the settings it was created with, a permit, and
nothing submitted. -/
structure IsNew (client : Client) (settings : StoreSettings) (s : Service) : Prop where
  client_eq : s.client = client
  org_eq : s.org = settings.org
  bucket_eq : s.bucket = settings.bucket
  permits_pos : 0 < s.permits
  open_ : s.closed = false
  log_eq : s.log = []

/-- What the client answers to a script after calls. -/
def answerAfter (client : Client) (settings : StoreSettings) (before : List Call) (script : String) : Answer :=
  client (submissions settings.org settings.bucket before) ⟨settings.org, script⟩

variable {client : Client} {settings : StoreSettings}

/-- A service that was just created is new, whatever its deadline. -/
theorem isNew_of_create (h : create client settings = .ok s) (deadline : Nat) :
    IsNew client settings (s.withDeadline deadline) := by
  unfold create at h
  split at h
  · cases h
  · next hpermits =>
      split at h
      · cases h
      · cases h
        exact ⟨rfl, rfl, rfl, Nat.pos_of_ne_zero hpermits, rfl, rfl⟩

namespace IsNew

/-- Calls change nothing of a new service but whether it is closed, and its log. -/
theorem after_eq (h : IsNew client settings s) (cs : List Call) :
    s.after cs = { s with
      closed := cs.any Call.isClose
      log := submissions settings.org settings.bucket cs } := by
  rw [Service.after_eq h.permits_pos h.open_, h.log_eq, h.org_eq, h.bucket_eq, List.nil_append]

/-- The result at any point of a sequence of calls. -/
theorem result_eq (h : IsNew client settings s) (before : List Call) (c : Call) (rest : List Call) :
    (s.results (before ++ c :: rest))[before.length]? =
      some (s.resultOf (before.any Call.isClose) c.options (answerAfter client settings before)
        (c.script? settings.bucket)) := by
  have hp : 0 < (s.after before).permits := by
    rw [h.after_eq]
    exact h.permits_pos
  have hanswer : (fun script => (s.after before).client (s.after before).log ⟨(s.after before).org, script⟩) =
      answerAfter client settings before := by
    rw [h.after_eq, ← h.client_eq, h.org_eq]
    rfl
  have hbucket : (s.after before).bucket = settings.bucket := by
    rw [h.after_eq]
    exact h.bucket_eq
  rw [results_getElem?, call_fst hp, hanswer, hbucket, h.after_eq]
  rfl

end IsNew

/-! ## What holds of every sequence of calls -/

/-- Each call of a service stands alone: what came before it counts only as far as the service was closed, and
as far as the client answers by what it saw. -/
structure CallsStandAlone (client : Client) (settings : StoreSettings) (s : Service) : Prop where
  /-- A query that is refused gives its error and changes nothing, also after a close. -/
  of_refused : ∀ (before : List Call) (c : Call) (rest : List Call) (e : QueryError),
    c.script? settings.bucket = some (.error e) →
      (s.results (before ++ c :: rest))[before.length]? = some (some (.error (.query e))) ∧
        s.after (before ++ [c]) = s.after before
  /-- A query that passes after a close changes nothing either. -/
  of_closed : ∀ (before : List Call) (c : Call) (rest : List Call) (script : String),
    c.script? settings.bucket = some (.ok script) → before.any Call.isClose = true →
      (s.results (before ++ c :: rest))[before.length]? = some (some (.error .closed)) ∧
        s.after (before ++ [c]) = s.after before
  /-- Before a close, its script reaches the client once, and the result is what the answer holds. -/
  of_passed : ∀ (before : List Call) (c : Call) (rest : List Call) (script : String),
    c.script? settings.bucket = some (.ok script) → before.any Call.isClose = false →
      (s.results (before ++ c :: rest))[before.length]? =
          some (some (s.samples c.options (answerAfter client settings before script))) ∧
        (s.after (before ++ [c])).log = (s.after before).log ++ [⟨settings.org, script⟩]
  /-- Nothing else reaches the client. -/
  log_eq : ∀ cs : List Call, (s.after cs).log = submissions settings.org settings.bucket cs
  /-- Two calls for the same script and columns have the same result, whatever came before them on their two
  services, if both come after a close, or neither does and they get the same answer within the deadline. -/
  independent : ∀ (client' : Client) (settings' : StoreSettings) (s' : Service) (deadline' : Nat),
    create client' settings' = .ok s' → ∀ before c rest before' c' rest',
      c'.script? settings'.bucket = c.script? settings.bucket → c'.options = c.options →
      before'.any Call.isClose = before.any Call.isClose →
      (∀ script, c.script? settings.bucket = some (.ok script) → before.any Call.isClose = false →
        answerAfter client settings before script ≠ .silence ∧
          answerAfter client' settings' before' script = answerAfter client settings before script) →
      ((s'.withDeadline deadline').results (before' ++ c' :: rest'))[before'.length]? =
        (s.results (before ++ c :: rest))[before.length]?

/-- Only silence makes the deadline count. -/
theorem samples_congr (s s' : Service) (o : DecodeOptions) {answer : Answer} (h : answer ≠ .silence) :
    s'.samples o answer = s.samples o answer := by
  cases answer with
  | silence => exact absurd rfl h
  | rows items => rfl
  | failure e => rfl
  | collapse => rfl

/-- One more call starts from the service after the calls before it. -/
theorem after_concat (s : Service) (before : List Call) (c : Call) :
    s.after (before ++ [c]) = ((s.after before).call c).2 := after_append s before [c]

/-- The calls of a created service stand alone, in every sequence. -/
theorem callsStandAlone_of_create (h : create client settings = .ok s) (deadline : Nat) :
    CallsStandAlone client settings (s.withDeadline deadline) := by
  have hnew := isNew_of_create h deadline
  have hp (before : List Call) : 0 < ((s.withDeadline deadline).after before).permits := by
    rw [hnew.after_eq]
    exact hnew.permits_pos
  have hbucket (before : List Call) : ((s.withDeadline deadline).after before).bucket = settings.bucket := by
    rw [hnew.after_eq]
    exact hnew.bucket_eq
  constructor
  case of_refused =>
    intro before c rest e hc
    constructor
    · rw [hnew.result_eq, hc]
      rfl
    · rw [after_concat, call_of_refused (hp before) (by rw [hbucket, hc])]
  case of_closed =>
    intro before c rest script hc hclosed
    constructor
    · rw [hnew.result_eq, hc, hclosed]
      rfl
    · have hs : ((s.withDeadline deadline).after before).closed = true := by rw [hnew.after_eq, hclosed]
      rw [after_concat, call_of_closed (hp before) hs (by rw [hbucket, hc])]
  case of_passed =>
    intro before c rest script hc hopen
    constructor
    · rw [hnew.result_eq, hc, hopen]
      rfl
    · have hs : ((s.withDeadline deadline).after before).closed = false := by rw [hnew.after_eq, hopen]
      have horg : ((s.withDeadline deadline).after before).org = settings.org := by
        rw [hnew.after_eq]
        exact hnew.org_eq
      rw [after_concat, call_of_passed (hp before) hs (by rw [hbucket, hc]), logged, horg]
  case log_eq =>
    intro cs
    rw [hnew.after_eq]
  case independent =>
    intro client' settings' s' deadline' h' before c rest before' c' rest' hscript hoptions hclose hanswer
    rw [(isNew_of_create h' deadline').result_eq, hnew.result_eq, hscript, hoptions, hclose]
    rcases hc : c.script? settings.bucket with _ | _ | script
    · rfl
    · rfl
    · cases hopen : before.any Call.isClose with
      | true => rfl
      | false =>
          obtain ⟨hspeaks, hsame⟩ := hanswer script hc hopen
          show some (some (Service.samples _ _ _)) = some (some (Service.samples _ _ _))
          rw [hsame, samples_congr _ _ _ hspeaks]

/-- Refuses the first script, and has no rows for the others. -/
def busyAtFirst : Client := fun log _ => if log = [] then .failure (.rejected "busy") else .rows (.listed [])

/-- One run at a time. -/
def oneAtATime : StoreSettings := { org := "plant", bucket := "sensors", maxConcurrentQueries := 1 }

/-- The air of the last hour. -/
def lastHourOfAir : Query :=
  { bucket := "sensors", measurement := "air", fields := ["value"], range := .lastHour }

/-- A call that passes. -/
def passing : Call := .run ⟨0, 0⟩ lastHourOfAir.statement {}

/-- A call that is refused. -/
def refused : Call := .run ⟨0, 0⟩ { lastHourOfAir with bucket := "" }.statement {}

/-- A run that passes, one that is refused, one that passes, a close, and one that passes and one that is refused
after the close. -/
def mixedCalls : List Call := [passing, refused, passing, .close, passing, refused]

/-- A store that is busy at first, and calls of every kind, before a close and after it. -/
theorem callsStandAlone_busyAtFirst :
    ∃ s, create busyAtFirst oneAtATime = .ok s ∧
      s.results mixedCalls = [
        some (.error (.store (.rejected "busy"))),
        some (.error (.query (.emptyRequiredField "bucket"))),
        some (.ok []),
        none,
        some (.error .closed),
        some (.error (.query (.emptyRequiredField "bucket")))] ∧
      (s.after mixedCalls).log = List.replicate 2 ⟨"plant", Script.render lastHourOfAir⟩ ∧
      CallsStandAlone busyAtFirst oneAtATime (s.withDeadline 1) := by
  obtain ⟨s, hs⟩ : ∃ s, create busyAtFirst oneAtATime = .ok s := ⟨_, rfl⟩
  have hnew : IsNew busyAtFirst oneAtATime s := isNew_of_create hs s.deadline
  have hpassing : passing.script? s.bucket = some (.ok (Script.render lastHourOfAir)) := by
    rw [hnew.bucket_eq]
    decide +kernel
  have hrefused : refused.script? s.bucket = some (.error (.emptyRequiredField "bucket")) := by
    rw [hnew.bucket_eq]
    decide +kernel
  refine ⟨s, hs, ?_, ?_, callsStandAlone_of_create hs 1⟩
  · let once := s.logged (Script.render lastHourOfAir)
    let closed := (once.logged (Script.render lastHourOfAir)).close
    have hfirst : s.call passing = (some (.error (.store (.rejected "busy"))), once) := by
      rw [call_of_passed hnew.permits_pos hnew.open_ hpassing, hnew.client_eq, hnew.log_eq]
      rfl
    have hsecond : once.call refused = (some (.error (.query (.emptyRequiredField "bucket"))), once) :=
      call_of_refused (s := once) hnew.permits_pos hrefused
    have hthird : once.call passing = (some (.ok []), once.logged (Script.render lastHourOfAir)) := by
      -- the log is no longer empty, so the client has rows
      have hrows : once.client once.log ⟨once.org, Script.render lastHourOfAir⟩ = .rows (.listed []) := by
        show s.client (s.log ++ [_]) _ = _
        rw [hnew.client_eq, hnew.log_eq]
        rfl
      rw [call_of_passed (s := once) hnew.permits_pos hnew.open_ hpassing, hrows, samples, Sample.decode_eq_mapM]
      rfl
    have hfourth : (once.logged (Script.render lastHourOfAir)).call .close = (none, closed) := rfl
    have hfifth : closed.call passing = (some (.error .closed), closed) :=
      call_of_closed (s := closed) hnew.permits_pos rfl hpassing
    have hsixth : closed.call refused = (some (.error (.query (.emptyRequiredField "bucket"))), closed) :=
      call_of_refused (s := closed) hnew.permits_pos hrefused
    simp only [mixedCalls, results_cons, hfirst, hsecond, hthird, hfourth, hfifth, hsixth]
    rfl
  · rw [hnew.after_eq]
    show submissions oneAtATime.org oneAtATime.bucket mixedCalls = _
    decide +kernel

end SeriesQuery.Service
