import SeriesQuery.Proofs.Outcome
import SeriesQuery.Proofs.Settings.Sections

/-!
# Settings come in layers

A file can be loaded if it can be read, is a text and holds a document that is well typed (`load_eq_ok_iff`); its
error tells which of the three it is not (`load_eq_error_iff`).

A search takes the first file that exists and can be loaded and reports the errors of those before it. Each
setting then is its variable, if that is set to a text that fits, or else what the document of this file
gives, or else the default: `finds_search`. Other files have no part in it.
-/

namespace SeriesQuery

open Toml (Value Entries)

/-- The text that a document gives for a setting. -/
def Toml.Entries.text? (document : Entries) (section_ : String) (index : Nat) (key : String) :
    Option String :=
  (document.setting? section_ index key).bind Value.text?

/-- The number that a document gives for a setting. -/
def Toml.Entries.count? (document : Entries) (section_ : String) (index : Nat) (key : String) :
    Option Nat :=
  (document.setting? section_ index key).bind Value.count?

namespace Settings

/-- The text that a variable is set to. -/
def textOf (bytes? : String → Option (List UInt8)) (name : String) : Option String :=
  (bytes? name).bind fun bytes => (Text.decodeUtf8 bytes).toOption

/-- Each setting from its variable, or else from the document, or else at its default. The number of
concurrent queries has no variable. -/
def layered (value? : String → Option String) (document : Entries) : Settings where
  store := {
    address := ((value? "SENSORFLUX_STORE_ADDRESS").or
      (document.text? "store" 0 "address")).getD "http://localhost:8086"
    org := ((value? "SENSORFLUX_STORE_ORG").or (document.text? "store" 1 "org")).getD ""
    bucket := ((value? "SENSORFLUX_STORE_BUCKET").or (document.text? "store" 2 "bucket")).getD ""
    token := ((value? "SENSORFLUX_STORE_TOKEN").or (document.text? "store" 3 "token")).getD ""
    queryTimeoutSecs := (((value? "SENSORFLUX_QUERY_TIMEOUT_SECS").bind fun text =>
      Text.readUnsigned? 64 text.toList).or (document.count? "store" 4 "query_timeout_secs")).getD 20
    maxConcurrentQueries := (document.count? "store" 5 "max_concurrent_queries").getD 10 }
  logging := {
    level := ((value? "SENSORFLUX_LOG_LEVEL").or (document.text? "logging" 0 "level")).getD "info"
    format := ((value? "SENSORFLUX_LOG_FORMAT").or
      (document.text? "logging" 1 "format")).getD "pretty" }

namespace Candidate

/-- The file exists and can be loaded. -/
def Loads (c : Candidate) : Prop := ∃ content s, c.content = some content ∧ load c.path content = .ok s

/-- Why the file cannot be loaded, if it exists and cannot. -/
def error? (c : Candidate) : Option SettingsError :=
  c.content.bind fun content =>
    match load c.path content with
    | .ok _ => none
    | .error e => some e

/-- The document in the file, if it holds one. -/
def document? (c : Candidate) : Option Entries :=
  match c.content with
  | some (.ok bytes) => (Text.decodeUtf8 bytes).toOption.bind Toml.parse?
  | _ => none

end Candidate

/-- How a search among candidates ends, with which settings and report. -/
inductive Finds (value? : String → Option String) : List Candidate → Settings → SearchReport → Prop
  /-- The first file that exists and can be loaded is taken, and those before it that exist are
  skipped. -/
  | taken {before after : List Candidate} {source : Candidate} {document : Entries}
      (hbefore : ∀ c ∈ before, ¬ c.Loads) (hsource : source.Loads)
      (hdocument : source.document? = some document) :
      Finds value? (before ++ source :: after) (layered value? document)
        { source := some source.path, skipped := before.filterMap Candidate.error? }
  /-- No file is taken, and all that exist are skipped. -/
  | nothing {candidates : List Candidate} (hall : ∀ c ∈ candidates, ¬ c.Loads) :
      Finds value? candidates (layered value? [])
        { skipped := candidates.filterMap Candidate.error? }

/-! ## Variables -/

/-- Pairs of names and values, as far as a name has a value, are looked up by name. -/
theorem lookup_filterMap {β : Type} (value? : String → Option β) (name : String) (names : List String) :
    (names.filterMap fun n => (value? n).map (n, ·)).lookup name =
      if name ∈ names then value? name else none := by
  induction names with
  | nil => rfl
  | cons n rest ih =>
      by_cases heq : name = n
      · subst heq
        cases hvalue : value? name with
        | none => rw [List.filterMap_cons_none (by rw [hvalue]; rfl), ih, hvalue, ite_self, ite_self]
        | some value =>
            rw [List.filterMap_cons_some (by rw [hvalue]; rfl), List.lookup_cons_self,
              if_pos List.mem_cons_self]
      · have hmem : name ∈ n :: rest ↔ name ∈ rest := by simp [heq]
        have hkey : (name == n) = false := by simp [heq]
        cases hvalue : value? n with
        | none =>
            rw [List.filterMap_cons_none (by rw [hvalue]; rfl), ih]
            simp only [hmem]
        | some value =>
            rw [List.filterMap_cons_some (by rw [hvalue]; rfl), List.lookup_cons, hkey, ih]
            simp only [hmem]

/-- A variable that counts has its text in the environment. -/
theorem lookup_environmentOf (bytes? : String → Option (List UInt8)) {name : String}
    (h : name ∈ variableNames) : (environmentOf bytes?).lookup name = textOf bytes? name := by
  have hlookup := lookup_filterMap (textOf bytes?) name variableNames
  rw [if_pos h] at hlookup
  exact hlookup

/-- The environment lies over the document. -/
theorem withEnvironment_ofDocument (bytes? : String → Option (List UInt8)) (document : Entries) :
    (ofDocument document).withEnvironment (environmentOf bytes?) =
      layered (textOf bytes?) document := by
  have hlookup : ∀ name ∈ variableNames, (environmentOf bytes?).lookup name = textOf bytes? name :=
    fun name h => lookup_environmentOf bytes? h
  simp only [variableNames, List.forall_mem_cons] at hlookup
  obtain ⟨-, -, haddress, horg, hbucket, htoken, htimeout, hlevel, hformat, -⟩ := hlookup
  unfold withEnvironment layered
  simp only [override, overrideCount, haddress, horg, hbucket, htoken, htimeout, hlevel, hformat,
    Option.getD_or]
  rfl

/-! ## Files -/

/-- The settings in a text are those of its document, if it holds one that is well typed. -/
theorem ofToml?_eq_some_iff {text : String} {s : Settings} : ofToml? text = some s ↔
    ∃ document, Toml.parse? text = some document ∧ WellTyped document ∧ s = ofDocument document := by
  rw [ofToml?, Option.bind_eq_some_iff]
  constructor
  · rintro ⟨document, hparse, hentries⟩
    exact ⟨document, hparse, isSome_ofEntries_iff.1 (hentries ▸ rfl), eq_ofDocument hentries⟩
  · rintro ⟨document, hparse, htyped, rfl⟩
    obtain ⟨s, hs⟩ := Option.isSome_iff_exists.1 (isSome_ofEntries_iff.2 htyped)
    exact ⟨document, hparse, eq_ofDocument hs ▸ hs⟩

/-- A file can be loaded if its bytes are a text with a document that is well typed. -/
theorem load_eq_ok_iff {path : String} {content : FileContent} {s : Settings} :
    load path content = .ok s ↔ ∃ bytes text document, content = .ok bytes ∧
      Text.decodeUtf8 bytes = .ok text ∧ Toml.parse? text = some document ∧ WellTyped document ∧
        s = ofDocument document := by
  cases content with
  | error reason => exact ⟨nofun, fun ⟨_, _, _, h, _⟩ => nomatch h⟩
  | ok bytes =>
      cases htext : Text.decodeUtf8 bytes with
      | error offset => simp [load, htext]
      | ok text =>
          have hload : load path (.ok bytes) = .ok s ↔ ofToml? text = some s := by
            simp only [load, htext]
            cases ofToml? text <;> simp
          rw [hload, ofToml?_eq_some_iff]
          simp [htext]

/-- Otherwise the error tells whether the file could not be read, was no text, or held no such document. -/
theorem load_eq_error_iff {path : String} {content : FileContent} {e : SettingsError} :
    load path content = .error e ↔
      (∃ reason, content = .error reason ∧ e = .unreadable path reason) ∨
      (∃ bytes offset, content = .ok bytes ∧ Text.decodeUtf8 bytes = .error offset ∧
        e = .unreadable path "stream did not contain valid UTF-8") ∨
      ∃ bytes text, content = .ok bytes ∧ Text.decodeUtf8 bytes = .ok text ∧
        (∀ document, Toml.parse? text = some document → ¬ WellTyped document) ∧
          e = .malformed path "not a settings document" := by
  cases content with
  | error reason => simp [load, eq_comm]
  | ok bytes =>
      cases htext : Text.decodeUtf8 bytes with
      | error offset => simp [load, htext, eq_comm]
      | ok text =>
          have hnone : ofToml? text = none ↔
              ∀ document, Toml.parse? text = some document → ¬ WellTyped document := by
            simp only [Option.eq_none_iff_forall_ne_some, ne_eq, ofToml?_eq_some_iff]
            exact ⟨fun h document hparse htyped => h _ ⟨document, hparse, htyped, rfl⟩,
              fun h _ ⟨document, hparse, htyped, _⟩ => h document hparse htyped⟩
          have hload : load path (.ok bytes) = .error e ↔
              ofToml? text = none ∧ e = .malformed path "not a settings document" := by
            simp only [load, htext]
            cases ofToml? text <;> simp [eq_comm]
          rw [hload, hnone]
          simp [htext]

/-- The document of a candidate is what its text holds. -/
theorem Candidate.document?_eq_some_iff {c : Candidate} {document : Entries} :
    c.document? = some document ↔ ∃ bytes text, c.content = some (.ok bytes) ∧
      Text.decodeUtf8 bytes = .ok text ∧ Toml.parse? text = some document := by
  unfold Candidate.document?
  split
  · next bytes hcontent => simp [hcontent, Option.bind_eq_some_iff, Outcome.toOption_eq_some_iff]
  · next hcontent => exact ⟨nofun, fun ⟨_, _, h, _⟩ => absurd h (hcontent _)⟩

/-- A candidate is loaded if it holds a document that is well typed. -/
theorem Candidate.loads_iff {c : Candidate} :
    c.Loads ↔ ∃ document, c.document? = some document ∧ WellTyped document := by
  simp only [Candidate.Loads, load_eq_ok_iff, Candidate.document?_eq_some_iff]
  constructor
  · rintro ⟨_, s, hcontent, bytes, text, document, rfl, htext, hparse, htyped, -⟩
    exact ⟨document, ⟨bytes, text, hcontent, htext, hparse⟩, htyped⟩
  · rintro ⟨document, ⟨bytes, text, hcontent, htext, hparse⟩, htyped⟩
    exact ⟨_, _, hcontent, bytes, text, document, rfl, htext, hparse, htyped, rfl⟩

/-! ## Search -/

/-- A file that can be loaded holds a document, which gives the settings. -/
theorem exists_document {c : Candidate} {content : FileContent} {s : Settings}
    (hcontent : c.content = some content) (h : load c.path content = .ok s) :
    ∃ document, c.document? = some document ∧ s = ofDocument document := by
  obtain ⟨bytes, text, document, rfl, htext, hparse, -, rfl⟩ := load_eq_ok_iff.1 h
  exact ⟨document, Candidate.document?_eq_some_iff.2 ⟨bytes, text, hcontent, htext, hparse⟩, rfl⟩

/-- A file that is not loaded has no part in a search but in its report. -/
theorem Finds.cons {value? : String → Option String} {c : Candidate} {rest : List Candidate}
    {s : Settings} {report : SearchReport} (hc : ¬ c.Loads) (h : Finds value? rest s report) :
    Finds value? (c :: rest) s { report with skipped := c.error?.toList ++ report.skipped } := by
  have hskipped : ∀ before : List Candidate, c.error?.toList ++ before.filterMap Candidate.error? =
      (c :: before).filterMap Candidate.error? := by
    intro before
    rw [List.filterMap_cons]
    cases c.error? <;> rfl
  cases h with
  | taken hbefore hsource hdocument =>
      rw [hskipped, ← List.cons_append]
      exact .taken (List.forall_mem_cons.2 ⟨hc, hbefore⟩) hsource hdocument
  | nothing hall =>
      rw [hskipped]
      exact .nothing (List.forall_mem_cons.2 ⟨hc, hall⟩)

/-- A search takes the first file that exists and can be loaded, or none, and lays the environment over
it. -/
theorem finds_search (bytes? : String → Option (List UInt8)) (candidates : List Candidate) :
    Finds (textOf bytes?) candidates (search (environmentOf bytes?) candidates).1
      (search (environmentOf bytes?) candidates).2 := by
  induction candidates with
  | nil =>
      have hdefaults : ({} : Settings) = ofDocument [] := rfl
      rw [search, hdefaults, withEnvironment_ofDocument]
      exact .nothing fun c hc => absurd hc List.not_mem_nil
  | cons c rest ih =>
      cases hcontent : c.content with
      | none =>
          have hc : ¬ c.Loads := by
            rintro ⟨content, s, hsome, -⟩
            rw [hcontent] at hsome
            exact nomatch hsome
          have herror : c.error? = none := by rw [Candidate.error?, hcontent, Option.bind_none]
          have h := ih.cons hc
          rw [herror] at h
          rw [search, hcontent]
          exact h
      | some content =>
          cases hload : load c.path content with
          | ok s =>
              obtain ⟨document, hdocument, rfl⟩ := exists_document hcontent hload
              rw [search, hcontent]
              simp only [hload, withEnvironment_ofDocument]
              exact .taken (fun c hc => absurd hc List.not_mem_nil) ⟨content, _, hcontent, hload⟩
                hdocument
          | error e =>
              have hc : ¬ c.Loads := by
                rintro ⟨content', s, hsome, hs⟩
                rw [hcontent] at hsome
                obtain rfl := Option.some.inj hsome
                rw [hload] at hs
                exact nomatch hs
              have herror : c.error? = some e := by
                rw [Candidate.error?, hcontent, Option.bind_some, hload]
              have h := ih.cons hc
              rw [herror] at h
              rw [search, hcontent]
              simp only [hload]
              exact h

/-- A missing, an unreadable and a broken file before one that gives two settings; one variable that is no
text, and one that is no number. -/
example :
    search
      (environmentOf fun name => [("SENSORFLUX_STORE_ORG", [0xFF]),
        ("SENSORFLUX_STORE_TOKEN", [0x61, 0x62]),
        ("SENSORFLUX_QUERY_TIMEOUT_SECS", [0x2D, 0x35])].lookup name)
      [⟨"a", none⟩, ⟨"b", some (.error "denied")⟩, ⟨"c", some (.ok "[store".toUTF8.toList)⟩,
        ⟨"d", some (.ok "[store]\norg = \"plant\"\ntoken = \"t\"".toUTF8.toList)⟩, ⟨"e", none⟩] =
      ({ store := { org := "plant", token := "ab" } },
        { source := some "d"
          skipped := [.unreadable "b" "denied", .malformed "c" "not a settings document"] }) := by
  decide +kernel

end Settings

end SeriesQuery
