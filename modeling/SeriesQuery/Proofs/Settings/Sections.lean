import SeriesQuery.Settings.Basic

/-!
# What a settings file gives

A file is a document of sections, and a section gives its settings by key or by position (`setting?`). The file
can be loaded if what it gives is of the right types (`WellTyped`). Each setting is then what the document gives
for it, or else its default: `ofDocument`.
-/

namespace SeriesQuery

namespace Toml

/-- What a section gives for the setting at a position, which has a key. A date gives nothing. -/
def Value.setting? (index : Nat) (key : String) : Value → Option Value
  | .table _ entries => entries.lookup key
  | .array items => items[index]?
  | .tables items => (items.map (.table .header))[index]?
  | _ => none

/-- The text of a value that is one. -/
def Value.text? : Value → Option String
  | .string text => some text
  | _ => none

/-- The number of a value that is one, from zero on. -/
def Value.count? : Value → Option Nat
  | .integer n => if 0 ≤ n then some n.toNat else none
  | _ => none

/-- The value is one that a section can be. -/
def Value.IsSection : Value → Prop
  | .table _ _ | .array _ | .tables _ | .dateTime => True
  | _ => False

/-- What a document gives for a setting of a section. -/
def Entries.setting? (document : Entries) (section_ : String) (index : Nat) (key : String) :
    Option Value :=
  (document.lookup section_).bind (Value.setting? index key)

end Toml

open Toml (Value Entries)

namespace Setting

variable {σ α : Type}

/-- The section with the settings that are found by position and key. -/
def ofLookup (look : Nat → String → Option Value) (index : Nat) (x : σ) :
    List (Setting σ) → Option σ
  | [] => some x
  | setting :: rest =>
    match look index setting.key with
    | none => ofLookup look (index + 1) x rest
    | some value => do
      let set ← setting.read value
      ofLookup look (index + 1) (set x) rest

/-- Entries are looked up by key. -/
theorem ofEntries_eq (entries : Entries) (index : Nat) (x : σ) (settings : List (Setting σ)) :
    ofEntries entries x settings = ofLookup (fun _ key => entries.lookup key) index x settings := by
  induction settings generalizing index x with
  | nil => rfl
  | cons setting rest ih =>
      rw [ofEntries, ofLookup]
      cases entries.lookup setting.key with
      | none => exact ih (index + 1) x
      | some value => simp only [ih (index + 1)]

/-- A section that gives nothing leaves the defaults. -/
theorem ofLookup_eq_of_none {look : Nat → String → Option Value} {index : Nat}
    (h : ∀ i key, index ≤ i → look i key = none) (x : σ) (settings : List (Setting σ)) :
    ofLookup look index x settings = some x := by
  induction settings generalizing index with
  | nil => rfl
  | cons setting rest ih =>
      rw [ofLookup, h index setting.key (Nat.le_refl index)]
      exact ih fun i key hi => h i key (Nat.le_of_succ_le hi)

/-- Items are looked up by position. -/
theorem ofItems_eq (before values : List Value) (x : σ) (settings : List (Setting σ)) :
    ofItems x settings values =
      ofLookup (fun index _ => (before ++ values)[index]?) before.length x settings := by
  induction settings generalizing before values x with
  | nil => rfl
  | cons setting rest ih =>
      cases values with
      | nil =>
          have hnone : ∀ i (_ : String), before.length ≤ i → (before ++ [])[i]? = none := by
            intro i _ hi
            rw [List.append_nil]
            exact List.getElem?_eq_none hi
          exact (ofLookup_eq_of_none hnone x _).symm
      | cons value values =>
          have hvalue : (before ++ value :: values)[before.length]? = some value := by
            rw [List.getElem?_append_right (Nat.le_refl _), Nat.sub_self, List.getElem?_cons_zero]
          have hsplit : before ++ value :: values = (before ++ [value]) ++ values := by
            rw [List.append_assoc, List.singleton_append]
          rw [ofItems, ofLookup, hvalue]
          simp only [ih (before ++ [value]), hsplit, List.length_append, List.length_singleton]

/-- A section in any form is looked up. -/
theorem ofLookup_of_ofValue {blank y : σ} {settings : List (Setting σ)} {v : Value}
    (h : ofValue blank settings v = some y) :
    ofLookup (fun index key => v.setting? index key) 0 blank settings = some y := by
  cases v with
  | table form entries =>
      rw [ofValue, ofEntries_eq entries 0] at h
      exact h
  | array items =>
      rw [ofValue, ofItems_eq [] items] at h
      exact h
  | tables items =>
      rw [ofValue, ofItems_eq [] (items.map _)] at h
      exact h
  | dateTime =>
      rw [← h]
      exact ofLookup_eq_of_none (fun _ _ _ => rfl) blank settings
  | _ => exact nomatch h

/-! ## One setting after the other -/

/-- A text is set from a value that is one. -/
theorem exists_of_read_text {key : String} {set : String → σ → σ} {v : Value} {f : σ → σ}
    (h : (text key set).read v = some f) : ∃ a, v.text? = some a ∧ f = set a := by
  cases v with
  | string a =>
      cases h
      exact ⟨a, rfl, rfl⟩
  | _ => exact nomatch h

/-- A number is set from a value that is one. -/
theorem exists_of_read_count {key : String} {set : Nat → σ → σ} {v : Value} {f : σ → σ}
    (h : (count key set).read v = some f) : ∃ a, v.count? = some a ∧ f = set a := by
  cases v with
  | integer n =>
      simp only [count] at h
      split at h
      · next hn =>
        cases h
        exact ⟨n.toNat, if_pos hn, rfl⟩
      · exact nomatch h
  | _ => exact nomatch h

/-- The first setting is filled with what is found for it, and with nothing when nothing is. -/
theorem ofLookup_cons {look : Nat → String → Option Value} {index : Nat} {x y : σ}
    {setting : Setting σ} {rest : List (Setting σ)} {read : Value → Option α}
    (fill : Option α → σ → σ)
    (hread : ∀ v f, setting.read v = some f → ∃ a, read v = some a ∧ f = fill (some a))
    (hnone : ∀ x, fill none x = x) (h : ofLookup look index x (setting :: rest) = some y) :
    ofLookup look (index + 1) (fill ((look index setting.key).bind read) x) rest = some y := by
  rw [ofLookup] at h
  cases hlook : look index setting.key with
  | none =>
      rw [hlook] at h
      rw [Option.bind_none, hnone]
      exact h
  | some value =>
      rw [hlook] at h
      obtain ⟨f, hf, hrest⟩ := Option.bind_eq_some_iff.1 h
      obtain ⟨a, ha, rfl⟩ := hread value f hf
      rw [Option.bind_some, ha]
      exact hrest

/-! ## When settings can be read -/

/-- A text is read from texts only. -/
theorem isSome_read_text {key : String} {set : String → σ → σ} {v : Value} :
    ((text key set).read v).isSome ↔ v.text?.isSome := by
  cases v <;> rfl

/-- A number is read from numbers from zero on only. -/
theorem isSome_read_count {key : String} {set : Nat → σ → σ} {v : Value} :
    ((count key set).read v).isSome ↔ v.count?.isSome := by
  cases v with
  | integer n =>
      simp only [count, Value.count?]
      split
      · rfl
      · rfl
  | _ => rfl

/-- Whether settings can be read does not depend on what they change. -/
theorem isSome_ofLookup_eq (look : Nat → String → Option Value) (index : Nat) (x y : σ)
    (settings : List (Setting σ)) :
    (ofLookup look index x settings).isSome = (ofLookup look index y settings).isSome := by
  induction settings generalizing index x y with
  | nil => rfl
  | cons setting rest ih =>
      rw [ofLookup, ofLookup]
      cases look index setting.key with
      | none => exact ih (index + 1) x y
      | some value =>
          cases hread : setting.read value with
          | none => simp [hread]
          | some f =>
              simp only [hread]
              exact ih (index + 1) (f x) (f y)

theorem isSome_ofLookup_nil {look : Nat → String → Option Value} {index : Nat} {x : σ} :
    (ofLookup look index x []).isSome ↔ True := iff_of_true rfl trivial

/-- Settings can be read if each one for which something is found can. -/
theorem isSome_ofLookup_cons {look : Nat → String → Option Value} {index : Nat} {x : σ}
    {setting : Setting σ} {rest : List (Setting σ)} :
    (ofLookup look index x (setting :: rest)).isSome ↔
      (∀ v, look index setting.key = some v → (setting.read v).isSome) ∧
        (ofLookup look (index + 1) x rest).isSome := by
  rw [ofLookup]
  cases look index setting.key with
  | none => simp
  | some value =>
      cases hread : setting.read value with
      | none => simp [hread]
      | some f =>
          simp only [hread, Option.some.injEq, forall_eq', Option.isSome_some, true_and]
          exact Bool.eq_iff_iff.1 (isSome_ofLookup_eq look (index + 1) (f x) x rest)

/-- A section can be read if the value is one and its settings can be read. -/
theorem isSome_ofValue {blank : σ} {settings : List (Setting σ)} {v : Value} :
    (ofValue blank settings v).isSome ↔
      v.IsSection ∧ (ofLookup (fun index key => v.setting? index key) 0 blank settings).isSome := by
  cases v with
  | table form entries =>
      rw [ofValue, ofEntries_eq entries 0]
      exact (and_iff_right trivial).symm
  | array items =>
      rw [ofValue, ofItems_eq [] items]
      exact (and_iff_right trivial).symm
  | tables items =>
      rw [ofValue, ofItems_eq [] (items.map _)]
      exact (and_iff_right trivial).symm
  | dateTime =>
      have hnone : ofLookup (fun index key => Value.dateTime.setting? index key) 0 blank settings = some blank :=
        ofLookup_eq_of_none (fun _ _ _ => rfl) blank settings
      rw [ofValue, hnone]
      exact (and_iff_right trivial).symm
  | _ => exact ⟨nofun, fun h => h.1.elim⟩

end Setting

open Setting

/-- The store settings that are found by position and key, the others being the defaults. -/
def StoreSettings.ofLookup (look : Nat → String → Option Value) : StoreSettings where
  address := ((look 0 "address").bind Value.text?).getD "http://localhost:8086"
  org := ((look 1 "org").bind Value.text?).getD ""
  bucket := ((look 2 "bucket").bind Value.text?).getD ""
  token := ((look 3 "token").bind Value.text?).getD ""
  queryTimeoutSecs := ((look 4 "query_timeout_secs").bind Value.count?).getD 20
  maxConcurrentQueries := ((look 5 "max_concurrent_queries").bind Value.count?).getD 10

/-- Likewise for the settings of the log. -/
def LoggingSettings.ofLookup (look : Nat → String → Option Value) : LoggingSettings where
  level := ((look 0 "level").bind Value.text?).getD "info"
  format := ((look 1 "format").bind Value.text?).getD "pretty"

/-- The settings of the store are what is looked up for them. -/
theorem StoreSettings.eq_ofLookup {look : Nat → String → Option Value} {s : StoreSettings}
    (h : Setting.ofLookup look 0 {} fields = some s) : s = ofLookup look := by
  have h := ofLookup_cons (fun o (x : StoreSettings) => { x with address := o.getD x.address })
    (fun _ _ => exists_of_read_text) (fun _ => rfl) h
  have h := ofLookup_cons (fun o (x : StoreSettings) => { x with org := o.getD x.org })
    (fun _ _ => exists_of_read_text) (fun _ => rfl) h
  have h := ofLookup_cons (fun o (x : StoreSettings) => { x with bucket := o.getD x.bucket })
    (fun _ _ => exists_of_read_text) (fun _ => rfl) h
  have h := ofLookup_cons (fun o (x : StoreSettings) => { x with token := o.getD x.token })
    (fun _ _ => exists_of_read_text) (fun _ => rfl) h
  have h := ofLookup_cons
    (fun o (x : StoreSettings) => { x with queryTimeoutSecs := o.getD x.queryTimeoutSecs })
    (fun _ _ => exists_of_read_count) (fun _ => rfl) h
  have h := ofLookup_cons
    (fun o (x : StoreSettings) => { x with maxConcurrentQueries := o.getD x.maxConcurrentQueries })
    (fun _ _ => exists_of_read_count) (fun _ => rfl) h
  exact (Option.some.inj h).symm

/-- The settings of the log are what is looked up for them. -/
theorem LoggingSettings.eq_ofLookup {look : Nat → String → Option Value} {s : LoggingSettings}
    (h : Setting.ofLookup look 0 {} fields = some s) : s = ofLookup look := by
  have h := ofLookup_cons (fun o (x : LoggingSettings) => { x with level := o.getD x.level })
    (fun _ _ => exists_of_read_text) (fun _ => rfl) h
  have h := ofLookup_cons (fun o (x : LoggingSettings) => { x with format := o.getD x.format })
    (fun _ _ => exists_of_read_text) (fun _ => rfl) h
  exact (Option.some.inj h).symm

/-! ## The document -/

/-- The settings that a document gives, the others being the defaults. -/
def Settings.ofDocument (document : Entries) : Settings where
  store := .ofLookup (document.setting? "store")
  logging := .ofLookup (document.setting? "logging")

/-- The sections of the document are sections, and what it gives for the settings is of their types. -/
structure Settings.WellTyped (document : Entries) : Prop where
  isSection : ∀ section_ ∈ ["store", "logging"], ∀ v, document.lookup section_ = some v → v.IsSection
  text : ∀ p ∈ [("store", 0, "address"), ("store", 1, "org"), ("store", 2, "bucket"), ("store", 3, "token"),
    ("logging", 0, "level"), ("logging", 1, "format")],
    ∀ v, document.setting? p.1 p.2.1 p.2.2 = some v → v.text?.isSome
  count : ∀ p ∈ [("store", 4, "query_timeout_secs"), ("store", 5, "max_concurrent_queries")],
    ∀ v, document.setting? p.1 p.2.1 p.2.2 = some v → v.count?.isSome

/-- A part that is made from its section, or from nothing without one, is made from the document. -/
theorem Toml.Entries.getD_lookup {τ : Type} (document : Entries) (section_ : String)
    (part : (Nat → String → Option Value) → τ) :
    ((document.lookup section_).bind fun v => some (part fun index key => v.setting? index key)).getD
      (part fun _ _ => none) = part (document.setting? section_) := by
  have hpart : document.setting? section_ = fun index key =>
      (document.lookup section_).bind (Value.setting? index key) := rfl
  rw [hpart]
  cases document.lookup section_ <;> rfl

/-- A document that can be loaded gives its settings. -/
theorem Settings.eq_ofDocument {document : Entries} {s : Settings}
    (h : ofEntries document {} sections = some s) : s = ofDocument document := by
  have hstore : ∀ v f, (sections[0]).read v = some f → ∃ a, some (StoreSettings.ofLookup
      fun index key => v.setting? index key) = some a ∧ f = fun x : Settings => { x with store := a } := by
    intro v f hf
    obtain ⟨store, hvalue, rfl⟩ := Option.map_eq_some_iff.1 hf
    exact ⟨store, by rw [StoreSettings.eq_ofLookup (ofLookup_of_ofValue hvalue)], rfl⟩
  have hlogging : ∀ v f, (sections[1]).read v = some f → ∃ a, some (LoggingSettings.ofLookup
      fun index key => v.setting? index key) = some a ∧
        f = fun x : Settings => { x with logging := a } := by
    intro v f hf
    obtain ⟨logging, hvalue, rfl⟩ := Option.map_eq_some_iff.1 hf
    exact ⟨logging, by rw [LoggingSettings.eq_ofLookup (ofLookup_of_ofValue hvalue)], rfl⟩
  rw [ofEntries_eq document 0] at h
  have h := ofLookup_cons (fun o (x : Settings) => { x with store := o.getD x.store }) hstore
    (fun _ => rfl) h
  have h := ofLookup_cons (fun o (x : Settings) => { x with logging := o.getD x.logging }) hlogging
    (fun _ => rfl) h
  rw [ofDocument, ← document.getD_lookup "store" StoreSettings.ofLookup,
    ← document.getD_lookup "logging" LoggingSettings.ofLookup]
  exact (Option.some.inj h).symm

/-- Settings can be read from the documents that are well typed. -/
theorem Settings.isSome_ofEntries_iff {document : Entries} :
    (ofEntries document {} sections).isSome ↔ Settings.WellTyped document := by
  -- a setting of the document is one of the section that it is in
  have hsetting : ∀ (section_ : String) (index : Nat) (key : String) (ofType : Value → Prop),
      (∀ v, document.setting? section_ index key = some v → ofType v) ↔
        ∀ w, document.lookup section_ = some w → ∀ v, w.setting? index key = some v → ofType v := by
    intro section_ index key ofType
    rw [Entries.setting?]
    cases document.lookup section_ with
    | none => simp
    | some w => simp
  rw [ofEntries_eq document 0]
  simp only [sections, isSome_ofLookup_cons, isSome_ofLookup_nil, Option.isSome_map, isSome_ofValue,
    StoreSettings.fields, LoggingSettings.fields, isSome_read_text, isSome_read_count, and_true, imp_and,
    forall_and]
  constructor
  · rintro ⟨⟨hstore, haddress, horg, hbucket, htoken, htimeout, hqueries⟩, hlogging, hlevel, hformat⟩
    constructor
    · simp only [List.forall_mem_cons]
      exact ⟨hstore, hlogging, nofun⟩
    · simp only [List.forall_mem_cons, hsetting]
      exact ⟨haddress, horg, hbucket, htoken, hlevel, hformat, nofun⟩
    · simp only [List.forall_mem_cons, hsetting]
      exact ⟨htimeout, hqueries, nofun⟩
  · rintro ⟨hsections, htext, hcount⟩
    simp only [List.forall_mem_cons, hsetting] at hsections htext hcount
    obtain ⟨hstore, hlogging, -⟩ := hsections
    obtain ⟨haddress, horg, hbucket, htoken, hlevel, hformat, -⟩ := htext
    obtain ⟨htimeout, hqueries, -⟩ := hcount
    exact ⟨⟨hstore, haddress, horg, hbucket, htoken, htimeout, hqueries⟩, hlogging, hlevel, hformat⟩

end SeriesQuery
