import Mathlib.Data.List.Forall2
import Mathlib.Logic.Function.Iterate
import Mathlib.Tactic.Choose
import SeriesQuery.Proofs.Number.Widening
import SeriesQuery.Proofs.Outcome
import SeriesQuery.Proofs.Table.Polling
import SeriesQuery.Sample

/-!
# Decoding is all or nothing

A stream of rows becomes samples as a whole or not at all, and of each row no more than its time and two of
its cells is looked at (`Sample.decodesAllOrNothing`). A source is decoded if it does not give good items for ever
(`stops_iff`). The recursion is along its items: it is over where the source has come to its end or where the
next item is bad, and else goes on behind a good item. What comes of a source is therefore told by the items that
it gives up to its end or to its first bad item (`drained_or_stopped`); behind that nothing is pulled.
-/

namespace SeriesQuery

namespace Sample

open Outcome

variable {σ τ ε ρ : Type}

/-! ## Sources -/

/-- One pull after the other gives the items. -/
inductive Pulled {ι : Type} (next : σ → Option ι × σ) : σ → List ι → σ → Prop where
  | nil {s : σ} : Pulled next s [] s
  | cons {s t u : σ} {item : ι} {items : List ι} (pull : next s = (some item, t))
      (rest : Pulled next t items u) : Pulled next s (item :: items) u

/-- The source gives the items, and then comes to its end. -/
def Drained {ι : Type} (next : σ → Option ι × σ) (s : σ) (items : List ι) (u : σ) : Prop :=
  ∃ t, Pulled next s items t ∧ next t = (none, u)

/-! ## What decoding has to do -/

/-- The tag that a cell gives. -/
inductive IsTag : Option Cell → String → Prop where
  | absent : IsTag none ""
  | text (text : String) : IsTag (some (.string text)) text

/-- The value that a cell gives. A number of 32 bits is widened. -/
inductive IsValue : Option Cell → Option Binary64 → Prop where
  | absent : IsValue none none
  | single {x : Binary32} {y : Binary64} (widens : x.WidensTo y) : IsValue (some (.float32 x)) (some y)
  | double (x : Binary64) : IsValue (some (.float64 x)) (some x)

/-- The sample is the one of the row. -/
structure IsSampleOf (v : View ε ρ) (o : DecodeOptions) (row : ρ) (sample : Sample) : Prop where
  time_eq : sample.time = v.time row
  tag : IsTag (v.get? row o.tagColumn) sample.tag
  value : IsValue (v.get? row o.valueColumn) sample.value

/-- The row has a tag and a value. -/
def IsGood (v : View ε ρ) (o : DecodeOptions) (row : ρ) : Prop :=
  (∃ tag, IsTag (v.get? row o.tagColumn) tag) ∧ ∃ value, IsValue (v.get? row o.valueColumn) value

/-- The type of a cell, by its name. -/
inductive IsOfType : Cell → String → Prop where
  | float32 (x : Binary32) : IsOfType (.float32 x) "float32"
  | float64 (x : Binary64) : IsOfType (.float64 x) "float64"
  | int64 (n : Int) : IsOfType (.int64 n) "int64"
  | uint64 (n : Nat) : IsOfType (.uint64 n) "uint64"
  | boolean (value : Bool) : IsOfType (.boolean value) "bool"
  | string (text : String) : IsOfType (.string text) "string"
  | time (t : Instant) : IsOfType (.time t) "time"

/-- Why an item gives no sample. -/
inductive Fails (v : View ε ρ) (o : DecodeOptions) : Except ε ρ → QueryError → Prop where
  | stream (e : ε) : Fails v o (.error e) (.brokenStream (v.message e))
  | tag {row : ρ} {cell : Cell} {type : String} (here : v.get? row o.tagColumn = some cell)
      (bad : ∀ tag, ¬ IsTag (some cell) tag) (typed : IsOfType cell type) :
      Fails v o (.ok row) (.unsupportedValueType o.tagColumn type)
  | value {row : ρ} {cell : Cell} {type tag : String} (good : IsTag (v.get? row o.tagColumn) tag)
      (here : v.get? row o.valueColumn = some cell) (bad : ∀ value, ¬ IsValue (some cell) value)
      (typed : IsOfType cell type) : Fails v o (.ok row) (.unsupportedValueType o.valueColumn type)

/-- The items are errors with the same sentence, or rows with the same time and the same two cells. -/
inductive Alike (v : View ε ρ) (o : DecodeOptions) : Except ε ρ → Except ε ρ → Prop where
  | error {e e' : ε} (message : v.message e = v.message e') : Alike v o (.error e) (.error e')
  | row {row row' : ρ} (time : v.time row = v.time row')
      (tag : v.get? row o.tagColumn = v.get? row' o.tagColumn)
      (value : v.get? row o.valueColumn = v.get? row' o.valueColumn) : Alike v o (.ok row) (.ok row')

/-- Sources in related states give alike items, come to their ends together, and stay related. -/
structure StayAlike (v : View ε ρ) (o : DecodeOptions) (next : σ → Option (Except ε ρ) × σ)
    (next' : τ → Option (Except ε ρ) × τ) (related : σ → τ → Prop) : Prop where
  ended : ∀ {s s' t}, related s s' → next s = (none, t) → ∃ t', next' s' = (none, t') ∧ related t t'
  pulled : ∀ {s s' item t}, related s s' → next s = (some item, t) →
    ∃ item' t', next' s' = (some item', t') ∧ Alike v o item item' ∧ related t t'

/-- The source gives rows with samples for ever. -/
def GoesOn (v : View ε ρ) (o : DecodeOptions) (next : σ → Option (Except ε ρ) × σ) (s : σ) : Prop :=
  ∃ (states : ℕ → σ) (rows : ℕ → ρ), states 0 = s ∧
    ∀ n, next (states n) = (some (.ok (rows n)), states (n + 1)) ∧ ∃ sample, IsSampleOf v o (rows n) sample

/-- Decoding stops with the result, and leaves the source in the last state. -/
def DecodesTo (v : View ε ρ) (o : DecodeOptions) (next : σ → Option (Except ε ρ) × σ) (s : σ)
    (result : Except QueryError (List Sample)) (u : σ) : Prop :=
  ∃ stops, decodeFrom v o next s stops = (result, u)

/-- All about decoding a source of any kind, from the state in which it is found to the one in which it is
left. -/
structure DecodesSource (v : View ε ρ) (o : DecodeOptions) (next : σ → Option (Except ε ρ) × σ) (s : σ) :
    Prop where
  /-- Decoding stops unless the source gives rows with samples for ever. -/
  stops_iff : Stops v o next s ↔ ¬ GoesOn v o next s
  /-- There are samples when the source gives rows with a tag and a value up to its end. -/
  exists_ok_iff : (∃ samples u, DecodesTo v o next s (.ok samples) u) ↔
    ∃ (rows : List ρ) (u : σ), Drained next s (rows.map .ok) u ∧ ∀ row ∈ rows, IsGood v o row
  /-- Then they are the samples of the rows, in order. -/
  ok_iff : ∀ samples u, DecodesTo v o next s (.ok samples) u ↔
    ∃ rows : List ρ, Drained next s (rows.map .ok) u ∧ List.Forall₂ (IsSampleOf v o) rows samples
  /-- Otherwise the first item without a sample tells why, and the source is left right behind this item. -/
  error_iff : ∀ e u, DecodesTo v o next s (.error e) u ↔
    ∃ (rows : List ρ) (item : Except ε ρ), Pulled next s (rows.map .ok ++ [item]) u ∧
      (∀ row ∈ rows, ∃ sample, IsSampleOf v o row sample) ∧ Fails v o item e
  /-- Nothing but the times and the two cells makes a difference, to any other source. -/
  of_alike : ∀ (τ : Type) (next' : τ → Option (Except ε ρ) × τ) related, StayAlike v o next next' related →
    ∀ s', related s s' → (Stops v o next s ↔ Stops v o next' s') ∧
      ∀ stops stops', (decodeFrom v o next s stops).1 = (decodeFrom v o next' s' stops').1 ∧
        related (decodeFrom v o next s stops).2 (decodeFrom v o next' s' stops').2
  /-- Where tag and value share a column, its cell has to be absent. -/
  shared : o.valueColumn = o.tagColumn → ((∃ samples u, DecodesTo v o next s (.ok samples) u) ↔
    ∃ (rows : List ρ) (u : σ), Drained next s (rows.map .ok) u ∧ ∀ row ∈ rows, v.get? row o.tagColumn = none)

/-- Decoding is all or nothing. -/
structure DecodesAllOrNothing (o : DecodeOptions) : Prop where
  /-- So it is for the sources of any kind, with items of any kind. -/
  source : ∀ (σ ε ρ : Type) (v : View ε ρ) (next : σ → Option (Except ε ρ) × σ) s, DecodesSource v o next s
  /-- Of the rows of a store, the times and the cells are seen, and of its errors the sentences. -/
  view : (∀ e, View.ofStore.message e = e.message) ∧ (∀ row, View.ofStore.time row = row.time) ∧
    ∀ row column, View.ofStore.get? row column = row.get? column
  /-- They are pulled while they are decoded. -/
  pulls : ∀ rows : Rows, ∃ left, DecodesTo .ofStore o Rows.next rows (decode o rows) left
  /-- They become samples when all of them are good. -/
  exists_ok_iff : ∀ rows : Rows, (∃ samples, decode o rows = .ok samples) ↔
    ∀ item ∈ rows.toList, ∃ row, item = .ok row ∧ IsGood .ofStore o row
  ok_iff : ∀ (rows : Rows) samples, decode o rows = .ok samples ↔
    ∃ rs : List Row, rows.toList = rs.map .ok ∧ List.Forall₂ (IsSampleOf .ofStore o) rs samples
  error_iff : ∀ (rows : Rows) e, decode o rows = .error e ↔
    ∃ (rs : List Row) (item : Except StoreError Row) (behind : List (Except StoreError Row)),
      rows.toList = rs.map .ok ++ item :: behind ∧ (∀ r ∈ rs, ∃ sample, IsSampleOf .ofStore o r sample) ∧
        Fails .ofStore o item e
  eq_of_alike : ∀ rows rows' : Rows, List.Forall₂ (Alike .ofStore o) rows.toList rows'.toList →
    decode o rows = decode o rows'

/-! ## One item -/

variable {v : View ε ρ} {o : DecodeOptions} {column : String} {cell : Option Cell} {e : QueryError}
  {item item' : Except ε ρ} {items items' : List (Except ε ρ)} {row : ρ} {rows : List ρ}
  {sample : Sample} {samples : List Sample} {result result' : Except QueryError (List Sample)}
  {next : σ → Option (Except ε ρ) × σ} {s t u : σ}

/-- A cell is of the type that it is named after. -/
theorem isOfType_iff {c : Cell} {type : String} : IsOfType c type ↔ c.typeName = type := by
  constructor
  · rintro (_ | _ | _ | _ | _ | _ | _) <;> rfl
  · rintro rfl
    cases c with
    | float32 x => exact .float32 x
    | float64 x => exact .float64 x
    | int64 n => exact .int64 n
    | uint64 n => exact .uint64 n
    | boolean value => exact .boolean value
    | string text => exact .string text
    | time t => exact .time t

/-- A tag is read from the cells that give one. -/
theorem readTag_eq_ok_iff {tag : String} : readTag column cell = .ok tag ↔ IsTag cell tag := by
  constructor
  · intro h
    unfold readTag at h
    split at h
    · cases h
      exact .absent
    · cases h
      exact .text _
    · exact nomatch h
  · rintro (_ | _) <;> rfl

/-- Every other cell is refused by its type. -/
theorem readTag_eq_error_iff : readTag column cell = .error e ↔
    ∃ c type, cell = some c ∧ (∀ tag, ¬ IsTag (some c) tag) ∧ IsOfType c type ∧
      e = .unsupportedValueType column type := by
  simp only [← @readTag_eq_ok_iff column, isOfType_iff]
  rcases cell with _ | c
  · exact ⟨nofun, nofun⟩
  · cases c <;> simp [readTag, eq_comm]

/-- A value is read from the cells that give one. -/
theorem readValue_eq_ok_iff {value : Option Binary64} :
    readValue column cell = .ok value ↔ IsValue cell value := by
  constructor
  · intro h
    unfold readValue at h
    split at h
    · cases h
      exact .absent
    · cases h
      exact .single (Binary32.widensTo_iff.2 rfl)
    · cases h
      exact .double _
    · exact nomatch h
  · rintro (_ | hwidens | _)
    · rfl
    · rw [Binary32.widensTo_iff.1 hwidens]
      rfl
    · rfl

/-- Every other cell is refused by its type. -/
theorem readValue_eq_error_iff : readValue column cell = .error e ↔
    ∃ c type, cell = some c ∧ (∀ value, ¬ IsValue (some c) value) ∧ IsOfType c type ∧
      e = .unsupportedValueType column type := by
  simp only [← @readValue_eq_ok_iff column, isOfType_iff]
  rcases cell with _ | c
  · exact ⟨nofun, nofun⟩
  · cases c <;> simp [readValue, eq_comm]

/-- A row gives the sample of its time and its two cells. -/
theorem ofRow_eq_ok_iff : ofRow v o row = .ok sample ↔ IsSampleOf v o row sample := by
  obtain ⟨time, value, tag⟩ := sample
  simp only [ofRow, ofCells, bind_eq_ok_iff, pure_eq_ok_iff, readTag_eq_ok_iff, readValue_eq_ok_iff,
    Sample.mk.injEq]
  constructor
  · rintro ⟨_, htag, _, hvalue, htime, rfl, rfl⟩
    exact ⟨htime.symm, htag, hvalue⟩
  · rintro ⟨htime, htag, hvalue⟩
    exact ⟨tag, htag, value, hvalue, htime.symm, rfl, rfl⟩

/-- An item gives a sample if it is a row that has one. -/
theorem ofItem_eq_ok_iff :
    ofItem v o item = .ok sample ↔ ∃ row, item = .ok row ∧ IsSampleOf v o row sample := by
  cases item with
  | error e => exact ⟨nofun, nofun⟩
  | ok row => simp only [ofItem, ofRow_eq_ok_iff, Except.ok.injEq, exists_eq_left']

/-- An item fails for the reasons that there are, a bad tag before a bad value. -/
theorem ofItem_eq_error_iff : ofItem v o item = .error e ↔ Fails v o item e := by
  cases item with
  | error fault =>
      rw [ofItem, Except.error.injEq]
      constructor
      · rintro rfl
        exact .stream fault
      · rintro ⟨⟩
        rfl
  | ok row =>
      simp only [ofItem, ofRow, ofCells, bind_eq_error_iff, readTag_eq_ok_iff, readTag_eq_error_iff,
        readValue_eq_error_iff]
      constructor
      · rintro (⟨c, type, hcell, hbad, htype, rfl⟩ |
          ⟨tag, htag, ⟨c, type, hcell, hbad, htype, rfl⟩ | ⟨_, -, hpure⟩⟩)
        · exact .tag hcell hbad htype
        · exact .value htag hcell hbad htype
        · exact nomatch hpure
      · rintro (_ | ⟨hcell, hbad, htype⟩ | ⟨htag, hcell, hbad, htype⟩)
        · exact .inl ⟨_, _, hcell, hbad, htype, rfl⟩
        · exact .inr ⟨_, htag, .inl ⟨_, _, hcell, hbad, htype, rfl⟩⟩

theorem Alike.symm (h : Alike v o item item') : Alike v o item' item := by
  cases h with
  | error message => exact .error message.symm
  | row time tag value => exact .row time.symm tag.symm value.symm

/-- Alike items give the same sample, or fail alike. -/
theorem Alike.ofItem_eq (h : Alike v o item item') : ofItem v o item = ofItem v o item' := by
  cases h with
  | error message => rw [ofItem, ofItem, message]
  | row time tag value => rw [ofItem, ofItem, ofRow, ofRow, time, tag, value]

/-- A row is good if it has a sample. -/
theorem isGood_iff : IsGood v o row ↔ ∃ sample, IsSampleOf v o row sample := by
  constructor
  · rintro ⟨⟨tag, htag⟩, value, hvalue⟩
    exact ⟨⟨v.time row, value, tag⟩, rfl, htag, hvalue⟩
  · rintro ⟨sample, h⟩
    exact ⟨⟨sample.tag, h.tag⟩, sample.value, h.value⟩

/-- No cell is both a text and a number. -/
theorem isGood_iff_of_shared (h : o.valueColumn = o.tagColumn) :
    IsGood v o row ↔ v.get? row o.tagColumn = none := by
  rw [IsGood, h]
  constructor
  · rintro ⟨⟨_, htag⟩, _, hvalue⟩
    generalize v.get? row o.tagColumn = cell at htag hvalue
    cases htag with
    | absent => rfl
    | text => exact nomatch hvalue
  · intro hnone
    rw [hnone]
    exact ⟨⟨_, .absent⟩, _, .absent⟩

/-! ## Items in a list -/

/-- Rows give samples one by one. -/
theorem mapM_map_ok_eq_ok_iff :
    (rows.map .ok).mapM (ofItem v o) = .ok samples ↔ List.Forall₂ (IsSampleOf v o) rows samples := by
  simp only [mapM_eq_ok_iff, List.forall₂_map_left_iff, ofItem, ofRow_eq_ok_iff]

/-- Each sample is that of a row. -/
theorem exists_row_of_mem (h : List.Forall₂ (IsSampleOf v o) rows samples) (hs : sample ∈ samples) :
    ∃ row ∈ rows, IsSampleOf v o row sample := by
  induction h with
  | nil => cases hs
  | cons hrow _ ih =>
      rcases List.mem_cons.1 hs with rfl | hbehind
      · exact ⟨_, List.mem_cons_self, hrow⟩
      · obtain ⟨row, hmem, hsample⟩ := ih hbehind
        exact ⟨row, List.mem_cons_of_mem _ hmem, hsample⟩

/-- All items that are rows have samples if the rows do. -/
theorem forall_mem_map_ok_iff : (∀ item ∈ rows.map .ok, ∃ sample, ofItem v o item = .ok sample) ↔
    ∀ row ∈ rows, ∃ sample, IsSampleOf v o row sample := by
  simp only [List.forall_mem_map, ofItem, ofRow_eq_ok_iff]

/-- Items that all give samples are rows. -/
theorem exists_rows (h : ∀ item ∈ items, ∃ sample, ofItem v o item = .ok sample) :
    ∃ rows : List ρ, items = rows.map .ok := by
  induction items with
  | nil => exact ⟨[], rfl⟩
  | cons item items ih =>
      obtain ⟨⟨sample, hsample⟩, hitems⟩ := List.forall_mem_cons.1 h
      obtain ⟨row, rfl, -⟩ := ofItem_eq_ok_iff.1 hsample
      obtain ⟨rows, rfl⟩ := ih hitems
      exact ⟨row :: rows, rfl⟩

/-- Alike items give the same samples or the same error. -/
theorem mapM_eq_of_alike (h : List.Forall₂ (Alike v o) items items') :
    items.mapM (ofItem v o) = items'.mapM (ofItem v o) := by
  induction h with
  | nil => rfl
  | cons hitem _ ih => rw [List.mapM_cons, List.mapM_cons, hitem.ofItem_eq, ih]

/-! ## Items of a source -/

/-- Items are pulled in two parts. -/
theorem pulled_append_iff {ι : Type} {next : σ → Option ι × σ} {as bs : List ι} :
    Pulled next s (as ++ bs) u ↔ ∃ t, Pulled next s as t ∧ Pulled next t bs u := by
  induction as generalizing s with
  | nil =>
      refine ⟨fun h => ⟨s, .nil, h⟩, ?_⟩
      rintro ⟨t, ⟨⟩, h⟩
      exact h
  | cons a as ih =>
      constructor
      · rintro (_ | ⟨pull, rest⟩)
        obtain ⟨t, has, hbs⟩ := ih.1 rest
        exact ⟨t, .cons pull has, hbs⟩
      · rintro ⟨t, _ | ⟨pull, rest⟩, hbs⟩
        exact .cons pull (ih.2 ⟨t, rest, hbs⟩)

/-- A source stops if it does wherever it is behind a good item. -/
theorem stops_of_behind (h : ∀ t item sample, next s = (some item, t) → ofItem v o item = .ok sample →
    Stops v o next t) : Stops v o next s :=
  Acc.intro s fun t ⟨item, sample, pull, good⟩ => h t item sample pull good

/-- A source that has come to its end gives no samples. -/
theorem decodesTo_of_ended (pull : next s = (none, t)) : DecodesTo v o next s (.ok []) t := by
  have stops : Stops v o next s := by
    apply stops_of_behind
    intro _ _ _ hpull
    cases pull.symm.trans hpull
  refine ⟨stops, ?_⟩
  rw [decodeFrom]
  split
  · next hpull =>
    cases pull.symm.trans hpull
    rfl
  · next hpull => cases pull.symm.trans hpull

/-- A bad item is the last that is pulled. -/
theorem decodesTo_of_bad (pull : next s = (some item, t)) (bad : ofItem v o item = .error e) :
    DecodesTo v o next s (.error e) t := by
  have stops : Stops v o next s := by
    apply stops_of_behind
    intro _ _ _ hpull good
    cases pull.symm.trans hpull
    cases bad.symm.trans good
  refine ⟨stops, ?_⟩
  rw [decodeFrom]
  split
  · next hpull => cases pull.symm.trans hpull
  · next hpull =>
    cases pull.symm.trans hpull
    split
    · next hbad =>
      cases bad.symm.trans hbad
      rfl
    · next hgood => cases bad.symm.trans hgood

/-- Behind a good item decoding goes on. -/
theorem decodesTo_of_good (pull : next s = (some item, t)) (good : ofItem v o item = .ok sample)
    (h : DecodesTo v o next t result u) : DecodesTo v o next s (result.map (sample :: ·)) u := by
  obtain ⟨hstops, hresult⟩ := h
  have stops : Stops v o next s := by
    apply stops_of_behind
    intro _ _ _ hpull _
    cases pull.symm.trans hpull
    exact hstops
  refine ⟨stops, ?_⟩
  rw [decodeFrom]
  split
  · next hpull => cases pull.symm.trans hpull
  · next hpull =>
    cases pull.symm.trans hpull
    split
    · next hbad => cases good.symm.trans hbad
    · next hgood =>
      cases good.symm.trans hgood
      rw [hresult]

/-- The samples of good items in front are put in front. -/
theorem decodesTo_of_pulled (hpulled : Pulled next s items t) (hok : items.mapM (ofItem v o) = .ok samples)
    (h : DecodesTo v o next t result u) : DecodesTo v o next s (result.map (samples ++ ·)) u := by
  induction hpulled generalizing samples with
  | nil =>
      cases hok
      cases result with
      | error _ => exact h
      | ok _ => exact h
  | cons pull rest ih =>
      rw [mapM_eq_ok_iff, List.forall₂_cons_left_iff] at hok
      obtain ⟨sample, others, hgood, hothers, rfl⟩ := hok
      have hfront := decodesTo_of_good pull hgood (ih (mapM_eq_ok_iff.2 hothers) h)
      cases result with
      | error _ => exact hfront
      | ok _ => exact hfront

/-- A source that comes to its end with good items only gives all their samples. -/
theorem decodesTo_of_drained (hdrained : Drained next s items u)
    (hok : items.mapM (ofItem v o) = .ok samples) : DecodesTo v o next s (.ok samples) u := by
  obtain ⟨t, hpulled, hend⟩ := hdrained
  have hall := decodesTo_of_pulled hpulled hok (decodesTo_of_ended hend)
  rwa [Except.map, List.append_nil] at hall

/-- The first bad item of a source stops its decoding. -/
theorem decodesTo_of_stopped {before : List (Except ε ρ)} (hpulled : Pulled next s (before ++ [item]) u)
    (hbefore : ∀ b ∈ before, ∃ sample, ofItem v o b = .ok sample)
    (hbad : ofItem v o item = .error e) : DecodesTo v o next s (.error e) u := by
  obtain ⟨samples, hsamples⟩ := exists_mapM_eq_ok_iff.2 hbefore
  obtain ⟨t, hfront, hlast⟩ := pulled_append_iff.1 hpulled
  obtain _ | ⟨pull, ⟨⟩⟩ := hlast
  exact decodesTo_of_pulled hfront hsamples (decodesTo_of_bad pull hbad)

/-- There is no other way: either the source has come to its end, or a bad item was pulled last. -/
theorem drained_or_stopped (h : DecodesTo v o next s result u) :
    (∃ samples items, result = .ok samples ∧ Drained next s items u ∧
      items.mapM (ofItem v o) = .ok samples) ∨
    ∃ e before item, result = .error e ∧ Pulled next s (before ++ [item]) u ∧
      (∀ b ∈ before, ∃ sample, ofItem v o b = .ok sample) ∧ ofItem v o item = .error e := by
  obtain ⟨stops, hresult⟩ := h
  induction s, stops using decodeFrom.induct_unfolding generalizing result u with
  | case1 s _ t pull =>
      cases hresult
      exact .inl ⟨[], [], rfl, ⟨s, .nil, pull⟩, rfl⟩
  | case2 s _ item t pull e hbad =>
      cases hresult
      exact .inr ⟨e, [], item, rfl, .cons pull .nil, fun _ h => absurd h List.not_mem_nil, hbad⟩
  | case3 s _ item t pull sample hgood result left hrest ih =>
      cases hresult
      rcases ih hrest with ⟨samples, items, rfl, ⟨last, hpulled, hend⟩, hok⟩ |
        ⟨e, before, last, rfl, hpulled, hbefore, hbad⟩
      · refine .inl ⟨_, _, rfl, ⟨last, .cons pull hpulled, hend⟩, ?_⟩
        rw [List.mapM_cons, hgood, hok]
        rfl
      · exact .inr ⟨e, item :: before, last, rfl, .cons pull hpulled,
          List.forall_mem_cons.2 ⟨⟨_, hgood⟩, hbefore⟩, hbad⟩

/-- Samples come of a source that gives rows with samples up to its end. -/
theorem decodesTo_ok_iff : DecodesTo v o next s (.ok samples) u ↔
    ∃ rows : List ρ, Drained next s (rows.map .ok) u ∧ List.Forall₂ (IsSampleOf v o) rows samples := by
  constructor
  · intro h
    rcases drained_or_stopped h with ⟨_, items, ⟨⟩, hdrained, hok⟩ | ⟨_, _, _, ⟨⟩, _⟩
    obtain ⟨rows, rfl⟩ := exists_rows (exists_mapM_eq_ok_iff.1 ⟨_, hok⟩)
    exact ⟨rows, hdrained, mapM_map_ok_eq_ok_iff.1 hok⟩
  · rintro ⟨rows, hdrained, hsamples⟩
    exact decodesTo_of_drained hdrained (mapM_map_ok_eq_ok_iff.2 hsamples)

/-- An error comes of the first item without a sample. -/
theorem decodesTo_error_iff : DecodesTo v o next s (.error e) u ↔
    ∃ (rows : List ρ) (item : Except ε ρ), Pulled next s (rows.map .ok ++ [item]) u ∧
      (∀ row ∈ rows, ∃ sample, IsSampleOf v o row sample) ∧ Fails v o item e := by
  constructor
  · intro h
    rcases drained_or_stopped h with ⟨_, _, ⟨⟩, _⟩ | ⟨_, before, item, ⟨⟩, hpulled, hbefore, hbad⟩
    obtain ⟨rows, rfl⟩ := exists_rows hbefore
    exact ⟨rows, item, hpulled, forall_mem_map_ok_iff.1 hbefore, ofItem_eq_error_iff.1 hbad⟩
  · rintro ⟨rows, item, hpulled, hrows, hbad⟩
    exact decodesTo_of_stopped hpulled (forall_mem_map_ok_iff.2 hrows) (ofItem_eq_error_iff.2 hbad)

/-- There are samples when all rows up to the end are good. -/
theorem exists_decodesTo_ok_iff : (∃ samples u, DecodesTo v o next s (.ok samples) u) ↔
    ∃ (rows : List ρ) (u : σ), Drained next s (rows.map .ok) u ∧ ∀ row ∈ rows, IsGood v o row := by
  simp only [decodesTo_ok_iff, isGood_iff]
  constructor
  · rintro ⟨samples, u, rows, hdrained, hsamples⟩
    exact ⟨rows, u, hdrained,
      forall_mem_map_ok_iff.1 (exists_mapM_eq_ok_iff.1 ⟨_, mapM_map_ok_eq_ok_iff.2 hsamples⟩)⟩
  · rintro ⟨rows, u, hdrained, hrows⟩
    obtain ⟨samples, hsamples⟩ := exists_mapM_eq_ok_iff.2 (forall_mem_map_ok_iff.2 hrows)
    exact ⟨samples, u, rows, hdrained, mapM_map_ok_eq_ok_iff.1 hsamples⟩

/-! ## Sources without end -/

/-- A source that does not stop has a good row next, and behind it does not stop either. -/
theorem exists_row_of_not_stops (h : ¬ Stops v o next s) : ∃ row t, next s = (some (.ok row), t) ∧
    (∃ sample, IsSampleOf v o row sample) ∧ ¬ Stops v o next t := by
  by_contra hnone
  apply h
  apply stops_of_behind
  intro t item sample pull good
  by_contra ht
  obtain ⟨row, rfl, hsample⟩ := ofItem_eq_ok_iff.1 good
  exact hnone ⟨row, t, pull, ⟨sample, hsample⟩, ht⟩

/-- A source on an endless way of good rows does not stop. -/
theorem not_stops_of_goesOn (h : GoesOn v o next s) : ¬ Stops v o next s := by
  obtain ⟨states, rows, rfl, hgood⟩ := h
  intro stops
  -- wherever the way is met, it has not yet come to where decoding stops
  have hnever : ∀ s, Stops v o next s → ∀ n, states n ≠ s := by
    intro s hs
    induction hs with
    | intro s _ ih =>
        rintro n rfl
        obtain ⟨pull, sample, hsample⟩ := hgood n
        exact ih _ ⟨_, sample, pull, ofItem_eq_ok_iff.2 ⟨_, rfl, hsample⟩⟩ (n + 1) rfl
  exact hnever _ stops 0 rfl

/-- Decoding stops unless good rows come for ever. -/
theorem stops_iff : Stops v o next s ↔ ¬ GoesOn v o next s := by
  refine ⟨fun stops h => not_stops_of_goesOn h stops, ?_⟩
  contrapose!
  intro h
  have hstep : ∀ s : { s // ¬ Stops v o next s }, ∃ (row : ρ) (t : { t // ¬ Stops v o next t }),
      next s.1 = (some (.ok row), t.1) ∧ ∃ sample, IsSampleOf v o row sample := by
    rintro ⟨s, hs⟩
    obtain ⟨row, t, pull, hsample, ht⟩ := exists_row_of_not_stops hs
    exact ⟨row, ⟨t, ht⟩, pull, hsample⟩
  choose row behind hpull hsample using hstep
  refine ⟨fun n => (behind^[n] ⟨s, h⟩).1, fun n => row (behind^[n] ⟨s, h⟩), rfl, fun n => ?_⟩
  dsimp only
  rw [Function.iterate_succ_apply']
  exact ⟨hpull _, hsample _⟩

/-! ## Two sources -/

section Two

variable {next' : τ → Option (Except ε ρ) × τ} {related : σ → τ → Prop} {s' : τ}

theorem StayAlike.symm (h : StayAlike v o next next' related) :
    StayAlike v o next' next fun t s => related s t where
  ended := by
    intro t s t' hrelated pull
    rcases hnext : next s with ⟨_ | item, s'⟩
    · obtain ⟨u, pull', hu⟩ := h.ended hrelated hnext
      cases pull.symm.trans pull'
      exact ⟨s', rfl, hu⟩
    · obtain ⟨_, _, pull', -⟩ := h.pulled hrelated hnext
      exact nomatch pull.symm.trans pull'
  pulled := by
    intro t s item t' hrelated pull
    rcases hnext : next s with ⟨_ | item', s'⟩
    · obtain ⟨_, pull', -⟩ := h.ended hrelated hnext
      exact nomatch pull.symm.trans pull'
    · obtain ⟨_, _, pull', hitem, hu⟩ := h.pulled hrelated hnext
      cases pull.symm.trans pull'
      exact ⟨item', s', rfl, hitem.symm, hu⟩

/-- What comes of a source comes of every source like it. -/
theorem StayAlike.decodesTo (halike : StayAlike v o next next' related) (hs : related s s')
    (h : DecodesTo v o next s result u) : ∃ u', DecodesTo v o next' s' result u' ∧ related u u' := by
  obtain ⟨stops, hresult⟩ := h
  induction s, stops using decodeFrom.induct_unfolding generalizing result u s' with
  | case1 s _ t pull =>
      cases hresult
      obtain ⟨t', pull', ht⟩ := halike.ended hs pull
      exact ⟨t', decodesTo_of_ended pull', ht⟩
  | case2 s _ item t pull e hbad =>
      cases hresult
      obtain ⟨item', t', pull', hitem, ht⟩ := halike.pulled hs pull
      exact ⟨t', decodesTo_of_bad pull' (hitem.ofItem_eq ▸ hbad), ht⟩
  | case3 s _ item t pull sample hgood result left hrest ih =>
      cases hresult
      obtain ⟨item', t', pull', hitem, ht⟩ := halike.pulled hs pull
      obtain ⟨u', hrest', hu⟩ := ih ht hrest
      exact ⟨u', decodesTo_of_good pull' (hitem.ofItem_eq ▸ hgood) hrest', hu⟩

/-- Of two sources that stay alike, one stops with the other. -/
theorem StayAlike.stops (halike : StayAlike v o next next' related) (hs : related s s')
    (h : Stops v o next s) : Stops v o next' s' := by
  obtain ⟨_, ⟨stops, -⟩, -⟩ := halike.decodesTo hs ⟨h, rfl⟩
  exact stops

/-- Sources that stay alike are decoded to the same result. -/
theorem StayAlike.decodeFrom_eq (halike : StayAlike v o next next' related) (hs : related s s')
    (stops : Stops v o next s) (stops' : Stops v o next' s') :
    (decodeFrom v o next s stops).1 = (decodeFrom v o next' s' stops').1 ∧
      related (decodeFrom v o next s stops).2 (decodeFrom v o next' s' stops').2 := by
  obtain ⟨u', ⟨_, hresult⟩, hu⟩ := halike.decodesTo hs ⟨stops, rfl⟩
  rw [hresult]
  exact ⟨rfl, hu⟩

end Two

/-! ## Rows of a store -/

/-- The rows of a store come to their end. -/
theorem exists_drained_toList (rows : Rows) : ∃ u, Drained Rows.next rows rows.toList u := by
  cases rows with
  | listed items =>
      induction items with
      | nil => exact ⟨.listed [], .listed [], .nil, rfl⟩
      | cons item items ih =>
          obtain ⟨u, t, hpulled, hend⟩ := ih
          exact ⟨u, t, .cons rfl hpulled, hend⟩
  | read cursor =>
      induction cursor using Cursor.toList.induct with
      | case1 c d h =>
          refine ⟨.read d, .read c, ?_, by rw [Rows.next, h]; rfl⟩
          rw [Rows.toList, Cursor.toList_of_next_eq_none h]
          exact .nil
      | case2 c item d h ih =>
          obtain ⟨u, t, hpulled, hend⟩ := ih
          refine ⟨u, t, ?_, hend⟩
          rw [Rows.toList, Cursor.toList_of_next_eq_some h]
          exact .cons (by rw [Rows.next, h]; rfl) hpulled

/-- The rows of a store are pulled while they are decoded. -/
theorem exists_decodesTo_decode (o : DecodeOptions) (rows : Rows) :
    ∃ left, DecodesTo .ofStore o Rows.next rows (decode o rows) left :=
  ⟨_, stops_of_size .ofStore o Rows.size Rows.size_next_lt rows, rfl⟩

/-- Decoding rows while they are pulled is decoding all that there are. -/
theorem decode_eq_mapM (o : DecodeOptions) (rows : Rows) :
    decode o rows = rows.toList.mapM (ofItem .ofStore o) := by
  obtain ⟨u, hdrained⟩ := exists_drained_toList rows
  obtain ⟨left, _, hresult⟩ := exists_decodesTo_decode o rows
  have hdecode : ∀ {result left'}, DecodesTo .ofStore o Rows.next rows result left' → decode o rows = result := by
    rintro result left' ⟨_, h⟩
    exact (Prod.ext_iff.1 (hresult.symm.trans h)).1
  cases hmapM : rows.toList.mapM (ofItem .ofStore o) with
  | ok samples => exact hdecode (decodesTo_of_drained hdrained hmapM)
  | error e =>
      obtain ⟨before, item, behind, hitems, hbefore, hbad⟩ := mapM_eq_error_iff.1 hmapM
      obtain ⟨t, hpulled, -⟩ := hdrained
      rw [hitems, List.append_cons, pulled_append_iff] at hpulled
      obtain ⟨left, hfront, -⟩ := hpulled
      exact hdecode (decodesTo_of_stopped hfront hbefore hbad)

/-- Rows of the store decode to samples if each of them has one. -/
theorem decode_eq_ok_iff {o : DecodeOptions} {rows : Rows} : decode o rows = .ok samples ↔
    ∃ rs : List Row, rows.toList = rs.map .ok ∧ List.Forall₂ (IsSampleOf .ofStore o) rs samples := by
  rw [decode_eq_mapM]
  constructor
  · intro h
    obtain ⟨rs, hrs⟩ := exists_rows (exists_mapM_eq_ok_iff.1 ⟨samples, h⟩)
    rw [hrs] at h
    exact ⟨rs, hrs, mapM_map_ok_eq_ok_iff.1 h⟩
  · rintro ⟨rs, hrs, h⟩
    rw [hrs]
    exact mapM_map_ok_eq_ok_iff.2 h

/-- Rows of the store decode to the error of the first item without a sample. -/
theorem decode_eq_error_iff {o : DecodeOptions} {rows : Rows} : decode o rows = .error e ↔
    ∃ (rs : List Row) (item : Except StoreError Row) (behind : List (Except StoreError Row)),
      rows.toList = rs.map .ok ++ item :: behind ∧ (∀ r ∈ rs, ∃ sample, IsSampleOf .ofStore o r sample) ∧
        Fails .ofStore o item e := by
  simp only [decode_eq_mapM, mapM_eq_error_iff, ofItem_eq_error_iff]
  constructor
  · rintro ⟨before, item, behind, hitems, hbefore, hitem⟩
    obtain ⟨rs, rfl⟩ := exists_rows hbefore
    exact ⟨rs, item, behind, hitems, forall_mem_map_ok_iff.1 hbefore, hitem⟩
  · rintro ⟨rs, item, behind, hitems, hrs, hitem⟩
    exact ⟨_, item, behind, hitems, forall_mem_map_ok_iff.2 hrs, hitem⟩

/-- Rows of the store decode to samples if they hold no error and are good. -/
theorem exists_decode_eq_ok_iff {o : DecodeOptions} {rows : Rows} : (∃ samples, decode o rows = .ok samples) ↔
    ∀ item ∈ rows.toList, ∃ row, item = .ok row ∧ IsGood .ofStore o row := by
  simp only [decode_eq_mapM, exists_mapM_eq_ok_iff, ofItem_eq_ok_iff, isGood_iff]
  apply forall₂_congr
  intro item _
  constructor
  · rintro ⟨sample, row, hitem, hsample⟩
    exact ⟨row, hitem, sample, hsample⟩
  · rintro ⟨row, hitem, sample, hsample⟩
    exact ⟨sample, row, hitem, hsample⟩

/-! ## All streams -/

/-- All samples of a source or none, and no error but the first. -/
theorem decodesSource (v : View ε ρ) (o : DecodeOptions) (next : σ → Option (Except ε ρ) × σ) (s : σ) :
    DecodesSource v o next s where
  stops_iff := stops_iff
  exists_ok_iff := exists_decodesTo_ok_iff
  ok_iff _ _ := decodesTo_ok_iff
  error_iff _ _ := decodesTo_error_iff
  of_alike _ _ _ halike _ hs := ⟨⟨halike.stops hs, halike.symm.stops hs⟩, halike.decodeFrom_eq hs⟩
  shared hcolumns := by simp only [exists_decodesTo_ok_iff, isGood_iff_of_shared hcolumns]

/-- No sample without all others, and no error but the first. -/
theorem decodesAllOrNothing (o : DecodeOptions) : DecodesAllOrNothing o where
  source _ _ _ v next s := decodesSource v o next s
  view := ⟨fun _ => rfl, fun _ => rfl, fun _ _ => rfl⟩
  pulls rows := exists_decodesTo_decode o rows
  exists_ok_iff _ := exists_decode_eq_ok_iff
  ok_iff _ _ := decode_eq_ok_iff
  error_iff _ _ := decode_eq_error_iff
  eq_of_alike rows rows' h := by rw [decode_eq_mapM, decode_eq_mapM, mapM_eq_of_alike h]

/-- A row with a tag, and with the 32 bits of 21.5 as its value. -/
def singleRow : Row := ⟨⟨0, 0⟩, [("sensor_type", .string "heat"), ("_value", .float32 ⟨0x41AC0000⟩)]⟩

/-- A row with a bad tag and a bad value. -/
def badRow : Row := ⟨⟨1, 0⟩, [("_value", .boolean true), ("sensor_type", .int64 7)]⟩

/-- Behind a row, two reasons for having no samples. -/
def brokenStream : List (Except StoreError Row) := [.ok singleRow, .ok badRow, .error (.connection "reset")]

/-- A good row alone gives 21.5 in 64 bits. Of all that is wrong with the stream the bad tag comes first, and
the error behind it is not pulled. -/
theorem decodesAllOrNothing_brokenStream :
    decode {} (.listed [.ok singleRow]) = .ok [⟨⟨0, 0⟩, some ⟨0x4035800000000000⟩, "heat"⟩] ∧
      DecodesTo .ofStore {} Rows.next (.listed brokenStream)
        (.error (.unsupportedValueType "sensor_type" "int64")) (.listed [.error (.connection "reset")]) := by
  have hwidens : Binary32.WidensTo ⟨0x41AC0000⟩ ⟨0x4035800000000000⟩ :=
    Binary32.widensTo_iff.2 (by decide +kernel)
  have hsample : IsSampleOf .ofStore {} singleRow ⟨⟨0, 0⟩, some ⟨0x4035800000000000⟩, "heat"⟩ :=
    ⟨rfl, .text "heat", .single hwidens⟩
  have hnumber : ∀ tag, ¬ IsTag (some (.int64 7)) tag := by
    rintro _ ⟨⟩
  have hbad : Fails .ofStore {} (.ok badRow) (.unsupportedValueType (DecodeOptions.tagColumn {}) "int64") :=
    .tag rfl hnumber (.int64 7)
  have hpulled : Pulled Rows.next (.listed brokenStream) ([singleRow].map .ok ++ [.ok badRow])
      (.listed [.error (.connection "reset")]) := .cons rfl (.cons rfl .nil)
  constructor
  · exact ((decodesAllOrNothing {}).ok_iff _ _).2 ⟨[singleRow], rfl, .cons hsample .nil⟩
  · exact ((decodesAllOrNothing {}).source _ _ _ _ _ _).error_iff _ _ |>.2
      ⟨[singleRow], .ok badRow, hpulled, List.forall_mem_singleton.2 ⟨_, hsample⟩, hbad⟩

end Sample

end SeriesQuery
